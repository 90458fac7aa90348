import Mathlib.Data.List.Induction
import RegisterLang.Source.Span

namespace RegisterLang

namespace Text

theorem utf8ByteSize_ofList (cs : List Char) : (String.ofList cs).utf8ByteSize = size cs := by
  induction cs with
  | nil => simp
  | cons c cs ih =>
    rw [← List.singleton_append, String.ofList_append, String.utf8ByteSize_append, size_append, ih]
    simp

theorem size_toList (s : String) : size s.toList = s.utf8ByteSize := by
  rw [← utf8ByteSize_ofList, String.ofList_toList]

theorem cut?_size (xs ys : List Char) : cut? (size xs) (xs ++ ys) = some (xs, ys) := by
  induction xs with
  | nil =>
    rw [size_nil, cut?]
    rfl
  | cons c xs ih =>
    obtain ⟨n, hn⟩ : ∃ n, c.utf8Size + size xs = n + 1 :=
      ⟨c.utf8Size + size xs - 1, by have := Char.utf8Size_pos c; omega⟩
    have hle : c.utf8Size ≤ n + 1 := by omega
    have hrest : n + 1 - c.utf8Size = size xs := by omega
    rw [size_cons, hn, List.cons_append, cut?, if_pos hle, hrest, ih]
    rfl

end Text

theorem Span.fragment?_append (before fragment after : List Char) :
    fragment? ⟨Text.size before, Text.size fragment⟩ (before ++ (fragment ++ after)) =
      some fragment := by
  simp only [fragment?, Text.slice?, stop, Nat.le_add_right, if_true, Text.cut?_size,
    Nat.add_sub_cancel_left, Option.map_some]

namespace Text

def offsets : Nat → List Char → List (Nat × Char)
  | _, [] => []
  | offset, c :: cs => (offset, c) :: offsets (offset + c.utf8Size) cs

def within (start stop : Nat) (cs : List Char) : List Char :=
  ((offsets 0 cs).filter fun p ↦ start ≤ p.1 && p.1 < stop).map Prod.snd

def lines (cs : List Char) : List (List Char) := cs.splitOn '\n'

def rows (ls : List (List Char)) : List Char := ls.flatMap (· ++ ['\n'])

def lineStart (k : Nat) (cs : List Char) : Nat := size (rows ((lines cs).take k))

theorem offsets_append (offset : Nat) (xs ys : List Char) :
    offsets offset (xs ++ ys) = offsets offset xs ++ offsets (offset + size xs) ys := by
  induction xs generalizing offset with
  | nil => rfl
  | cons c xs ih =>
    rw [List.cons_append, offsets, ih, offsets, size_cons, Nat.add_assoc]
    rfl

theorem snd_offsets (offset : Nat) (cs : List Char) : (offsets offset cs).map Prod.snd = cs := by
  induction cs generalizing offset with
  | nil => rfl
  | cons c cs ih => rw [offsets, List.map_cons, ih]

theorem offset_lt_of_mem {offset : Nat} {cs : List Char} {p : Nat × Char}
    (h : p ∈ offsets offset cs) : offset ≤ p.1 ∧ p.1 < offset + size cs := by
  induction cs generalizing offset with
  | nil => cases h
  | cons c cs ih =>
    have hc := Char.utf8Size_pos c
    rw [size_cons]
    cases h with
    | head => exact ⟨Nat.le_refl _, by omega⟩
    | tail _ h =>
      have hi := ih h
      omega

theorem filter_offsets_of_apart {offset start stop : Nat} {cs : List Char}
    (h : offset + size cs ≤ start ∨ stop ≤ offset) :
    (offsets offset cs).filter (fun p ↦ start ≤ p.1 && p.1 < stop) = [] := by
  refine List.filter_eq_nil_iff.2 fun p hp ↦ ?_
  have hlt := offset_lt_of_mem hp
  simp only [Bool.and_eq_true, decide_eq_true_eq]
  omega

theorem filter_offsets_self (offset : Nat) (cs : List Char) :
    (offsets offset cs).filter (fun p ↦ offset ≤ p.1 && p.1 < offset + size cs) =
      offsets offset cs := by
  refine List.filter_eq_self.2 fun p hp ↦ ?_
  have hlt := offset_lt_of_mem hp
  simp [hlt]

theorem within_append (before middle after : List Char) :
    within (size before) (size before + size middle) (before ++ (middle ++ after)) = middle := by
  have hbefore : 0 + size before ≤ size before := Nat.le_of_eq (Nat.zero_add _)
  rw [within, offsets_append, offsets_append, Nat.zero_add, List.filter_append,
    List.filter_append, filter_offsets_of_apart (.inl hbefore), filter_offsets_self,
    filter_offsets_of_apart (.inr (Nat.le_refl _)), List.nil_append, List.append_nil, snd_offsets]

theorem exists_rows (cs : List Char) : ∃ ls margin, cs = rows ls ++ margin ∧
    (∀ l ∈ ls, '\n' ∉ l) ∧ '\n' ∉ margin := by
  induction cs using List.reverseRecOn with
  | nil => exact ⟨[], [], rfl, by simp, by simp⟩
  | append_singleton cs c ih =>
    obtain ⟨ls, margin, rfl, hls, hm⟩ := ih
    by_cases hc : c = '\n'
    · refine ⟨ls ++ [margin], [], by simp [rows, hc], ?_, by simp⟩
      intro l hl
      obtain hl | hl := List.mem_append.1 hl
      · exact hls l hl
      · exact List.mem_singleton.1 hl ▸ hm
    · exact ⟨ls, margin ++ [c], by simp, hls, by simpa [hm] using Ne.symm hc⟩

section

variable {ls : List (List Char)} {margin : List Char}

theorem count_rows (h : ∀ l ∈ ls, '\n' ∉ l) : (rows ls).count '\n' = ls.length := by
  induction ls with
  | nil => rfl
  | cons l ls ih =>
    rw [List.forall_mem_cons] at h
    have hl : l.count '\n' = 0 := List.count_eq_zero.2 h.1
    rw [rows, List.flatMap_cons, List.count_append, List.count_append, hl, ← rows, ih h.2,
      List.count_singleton_self, List.length_cons]
    omega

theorem lines_rows (h : ∀ l ∈ ls, '\n' ∉ l) (rest : List Char) :
    lines (rows ls ++ rest) = ls ++ lines rest := by
  induction ls with
  | nil => rfl
  | cons l ls ih =>
    rw [List.forall_mem_cons] at h
    have hrow : rows (l :: ls) ++ rest = l ++ '\n' :: (rows ls ++ rest) := by simp [rows]
    rw [hrow, lines, List.splitOn_append_cons_self_of_not_mem h.1, ← lines, ih h.2]
    rfl

theorem firstLine_append (h : '\n' ∉ margin) (rest : List Char) :
    firstLine (margin ++ rest) = margin ++ firstLine rest := by
  refine List.takeWhile_append_of_pos fun c hc ↦ ?_
  exact decide_eq_true fun he ↦ h (he ▸ hc)

theorem firstLine_of_notMem (h : '\n' ∉ margin) : firstLine margin = margin := by
  have hf := firstLine_append h []
  have hnil : firstLine [] = [] := rfl
  rwa [hnil, List.append_nil] at hf

theorem firstLine_append_dropWhile (cs : List Char) :
    firstLine cs ++ cs.dropWhile (· ≠ '\n') = cs :=
  List.takeWhile_append_dropWhile

theorem firstLine_cons_newline (rest : List Char) : firstLine ('\n' :: rest) = [] := by
  simp [firstLine]

theorem lastLine_rows (h : '\n' ∉ margin) : lastLine (rows ls ++ margin) = margin := by
  have hrows : firstLine (rows ls).reverse = [] := by
    obtain rfl | ⟨ls, l, rfl⟩ := List.eq_nil_or_concat ls
    · rfl
    · simp [rows, firstLine]
  have hf := firstLine_append (show '\n' ∉ margin.reverse by simpa using h) (rows ls).reverse
  rw [hrows, List.append_nil, firstLine, ← List.reverse_append] at hf
  rw [lastLine, hf, List.reverse_reverse]

theorem getElem?_lines_zero (cs : List Char) : (lines cs)[0]? = some (firstLine cs) := by
  by_cases h : '\n' ∈ cs
  · obtain ⟨line, rest, rfl, hline⟩ := List.eq_append_cons_of_mem h
    rw [lines, List.splitOn_append_cons_self_of_not_mem hline, firstLine_append hline,
      firstLine_cons_newline, List.append_nil]
    rfl
  · rw [lines, List.splitOn_eq_singleton h, firstLine_of_notMem h]
    rfl

end

/-- Where a text is cut in two, the cut is in the line whose index is the number of newlines before
it, and what stands before it on that line is the last line of the first part. -/
theorem line_of_cut (before after : List Char) :
    (lines (before ++ after))[before.count '\n']? = some (lastLine before ++ firstLine after) ∧
      ∃ earlier, before = earlier ++ lastLine before ∧
        lineStart (before.count '\n') (before ++ after) = size earlier := by
  obtain ⟨ls, margin, rfl, hls, hm⟩ := exists_rows before
  have hcount : (rows ls ++ margin).count '\n' = ls.length := by
    rw [List.count_append, count_rows hls, List.count_eq_zero.2 hm, Nat.add_zero]
  rw [hcount, lineStart, List.append_assoc, lines_rows hls, lastLine_rows hm]
  constructor
  · rw [List.getElem?_append_right (Nat.le_refl _), Nat.sub_self, getElem?_lines_zero,
      firstLine_append hm]
  · exact ⟨rows ls, rfl, by rw [List.take_left]⟩

theorem firstLine_of_cut (covered after : List Char) :
    (∃ more, firstLine (covered ++ after) = firstLine covered ++ more) ∧
      min (size covered) (size (firstLine (covered ++ after))) = size (firstLine covered) := by
  by_cases h : '\n' ∈ covered
  · obtain ⟨line, rest, rfl, hline⟩ := List.eq_append_cons_of_mem h
    have hfirst : ∀ more, firstLine (line ++ '\n' :: more) = line := fun more ↦ by
      rw [firstLine_append hline, firstLine_cons_newline, List.append_nil]
    rw [List.append_assoc, List.cons_append, hfirst, hfirst, size_append]
    exact ⟨⟨[], by simp⟩, by omega⟩
  · rw [firstLine_append h, firstLine_of_notMem h, size_append]
    exact ⟨⟨_, rfl⟩, by omega⟩

theorem cut?_eq_some_iff {n : Nat} {cs before after : List Char} :
    cut? n cs = some (before, after) ↔ cs = before ++ after ∧ size before = n := by
  constructor
  · intro h
    induction cs generalizing n before with
    | nil =>
      cases n with
      | zero =>
        rw [cut?] at h
        cases h
        exact ⟨rfl, rfl⟩
      | succ n => cases h
    | cons c cs ih =>
      cases n with
      | zero =>
        rw [cut?] at h
        cases h
        exact ⟨rfl, rfl⟩
      | succ n =>
        rw [cut?, Option.ite_none_right_eq_some, Option.map_eq_some_iff] at h
        obtain ⟨hle, ⟨first, last⟩, hcut, heq⟩ := h
        cases heq
        obtain ⟨rfl, hsize⟩ := ih hcut
        exact ⟨rfl, by rw [size_cons]; omega⟩
  · rintro ⟨rfl, rfl⟩
    exact cut?_size before after

theorem exists_append_of_mem_offsets {offset n : Nat} {c : Char} {cs : List Char}
    (h : (n, c) ∈ offsets offset cs) :
    ∃ before after, cs = before ++ c :: after ∧ n = offset + size before := by
  induction cs generalizing offset with
  | nil => cases h
  | cons d cs ih =>
    rw [offsets, List.mem_cons] at h
    obtain h | h := h
    · cases h
      exact ⟨[], cs, rfl, rfl⟩
    · obtain ⟨before, after, rfl, rfl⟩ := ih h
      exact ⟨d :: before, after, rfl, by rw [size_cons, Nat.add_assoc]⟩

theorem cut?_eq_none_iff {n : Nat} {cs : List Char} :
    cut? n cs = none ↔ n ≠ size cs ∧ ∀ c, (n, c) ∉ offsets 0 cs := by
  constructor
  · intro h
    have hnone : ∀ before after, cs = before ++ after → size before ≠ n := by
      rintro before after rfl rfl
      rw [cut?_size] at h
      cases h
    refine ⟨fun hn ↦ hnone cs [] (List.append_nil cs).symm hn.symm, fun c hc ↦ ?_⟩
    obtain ⟨before, after, hcs, hn⟩ := exists_append_of_mem_offsets hc
    exact hnone before (c :: after) hcs (by omega)
  · rintro ⟨hn, hc⟩
    rw [Option.eq_none_iff_forall_ne_some]
    rintro ⟨before, after⟩ hcut
    obtain ⟨rfl, rfl⟩ := cut?_eq_some_iff.1 hcut
    cases after with
    | nil => exact hn (by rw [List.append_nil])
    | cons c after => exact hc c (by simp [offsets_append, offsets])

end Text

namespace Span

/-- The start of a span is a byte of the text at which no character starts. -/
def StartsInside (s : Span) (text : List Char) : Prop :=
  s.index < Text.size text ∧ ∀ c, (s.index, c) ∉ Text.offsets 0 text

theorem around?_eq_none_iff {s : Span} {text : List Char} :
    s.around? text = none ↔ s.StartsInside text := by
  rw [around?, StartsInside]
  by_cases h : s.index < Text.size text
  · rw [Nat.min_eq_left (Nat.le_of_lt h), Text.cut?_eq_none_iff]
    exact and_congr_left' (iff_of_true (Nat.ne_of_lt h) h)
  · have hcut := Text.cut?_size text []
    rw [List.append_nil] at hcut
    rw [Nat.min_eq_right (Nat.le_of_not_lt h), hcut]
    simp [h]

/-- Line and column of the start of a span and the line around it are found unless the start is
inside a character, and they are of the same line: the line is the piece of the text that the line
number counts to, and the column counts the characters between the start of that line and the start
of the span, or the end of the text if the span starts behind it. -/
theorem line_and_column_agree (s : Span) (text : List Char) :
    (s.lineColumn? text = none ↔ s.StartsInside text) ∧
      (s.surroundingLine? text = none ↔ s.StartsInside text) ∧
      (¬ s.StartsInside text → ∃ (index : Nat) (line : List Char) (place : Span),
        s.lineColumn? text = some (index + 1,
          (Text.within place.index (min s.index (Text.size text)) text).length + 1) ∧
        s.surroundingLine? text = some (line, place) ∧
        (text.splitOn '\n')[index]? = some line ∧ place.fragment? text = some line ∧
        place.index ≤ min s.index (Text.size text) ∧
        min s.index (Text.size text) ≤ place.stop) := by
  refine ⟨by rw [lineColumn?, Option.map_eq_none_iff, around?_eq_none_iff],
    by rw [surroundingLine?, Option.map_eq_none_iff, around?_eq_none_iff], fun h ↦ ?_⟩
  obtain ⟨⟨before, after⟩, hcut⟩ :=
    Option.ne_none_iff_exists'.1 fun hnone ↦ h (around?_eq_none_iff.1 hnone)
  obtain ⟨rfl, hsize⟩ := Text.cut?_eq_some_iff.1 hcut
  obtain ⟨hline, earlier, hbefore, -⟩ := Text.line_of_cut before after
  have hrest := Text.firstLine_append_dropWhile after
  generalize hhead : Text.lastLine before = head at hline hbefore
  generalize htail : Text.firstLine after = tail at hline hrest
  generalize after.dropWhile (· ≠ '\n') = rest at hrest
  have hstart : Text.size before - Text.size head = Text.size earlier := by
    rw [hbefore, Text.size_append, Nat.add_sub_cancel]
  have hwhole : before ++ after = earlier ++ ((head ++ tail) ++ rest) := by
    rw [hbefore, ← hrest]
    simp
  have hlength : min s.index (Text.size (before ++ after)) =
      Text.size earlier + Text.size head := by
    rw [← hsize, hbefore, Text.size_append]
  refine ⟨before.count '\n', head ++ tail,
    ⟨Text.size earlier, Text.size (head ++ tail)⟩, ?_, ?_, hline, ?_, ?_, ?_⟩
  · have hin := Text.within_append earlier head after
    rw [← List.append_assoc, ← hbefore] at hin
    simp only [lineColumn?, hcut, Option.map_some, hlength, hin, hhead]
  · simp only [surroundingLine?, hcut, Option.map_some, hhead, htail, hstart, Text.size_append]
  · rw [hwhole]
    exact fragment?_append earlier (head ++ tail) rest
  · rw [hlength]
    exact Nat.le_add_right _ _
  · rw [hlength]
    simp only [stop, Text.size_append]
    omega

theorem line_and_column_agree_second_line :
    ¬ (⟨5, 2⟩ : Span).StartsInside ['λ', '\n', 'μ', 'ν'] ∧
      ∃ (index : Nat) (line : List Char) (place : Span),
        (⟨5, 2⟩ : Span).lineColumn? ['λ', '\n', 'μ', 'ν'] = some (index + 1,
          (Text.within place.index (min 5 7) ['λ', '\n', 'μ', 'ν']).length + 1) ∧
        (⟨5, 2⟩ : Span).surroundingLine? ['λ', '\n', 'μ', 'ν'] = some (line, place) ∧
        (['λ', '\n', 'μ', 'ν'].splitOn '\n')[index]? = some line ∧
        place.fragment? ['λ', '\n', 'μ', 'ν'] = some line ∧
        place.index ≤ min 5 7 ∧ min 5 7 ≤ place.stop := by
  have h : ¬ (⟨5, 2⟩ : Span).StartsInside ['λ', '\n', 'μ', 'ν'] := fun h ↦ h.2 'ν' (by decide)
  exact ⟨h, (line_and_column_agree ⟨5, 2⟩ ['λ', '\n', 'μ', 'ν']).2.2 h⟩

end Span

end RegisterLang
