import RegisterLang.Input
import RegisterLang.Proofs.Machine.Input
import RegisterLang.Proofs.Text.Places

namespace RegisterLang.Input

/-- Lines of a stream. Each ends with its only newline, but the last one may have none. -/
inductive Cut : List (List UInt8) → Prop where
  | nil : Cut []
  | last {line : List UInt8} : line ≠ [] → 10 ∉ line → Cut [line]
  | cons {body : List UInt8} {lines : List (List UInt8)} : 10 ∉ body → Cut lines →
      Cut ((body ++ [10]) :: lines)

def Dotted (line : List UInt8) : Prop :=
  ∃ text : List Char, line = ('.' :: text).flatMap String.utf8EncodeChar

def Plain (line : List UInt8) : Prop :=
  ∃ text : List Char, line = text.flatMap String.utf8EncodeChar ∧ text.head? ≠ some '.'

/-- The lines that a call takes: those of a source text, and the one that ends it. -/
structure Portion where
  body : List (List UInt8)
  stop : Option (List UInt8)

namespace Portion

def lines (s : Portion) : List (List UInt8) := s.body ++ s.stop.toList

/-- The result of a call by the lines that it takes. -/
inductive Gives : Portion → Except SystemFault (List Char) → Prop where
  | dot {body : List (List UInt8)} {line : List UInt8} {code : List Char} :
      (∀ l ∈ body, Plain l) → Dotted line → body.flatten = code.flatMap String.utf8EncodeChar →
      Gives ⟨body, some line⟩ (.ok code)
  | noText {body : List (List UInt8)} {line : List UInt8} : (∀ l ∈ body, Plain l) → NoText line →
      Gives ⟨body, some line⟩ (.error .invalidText)
  | rest {body : List (List UInt8)} {code : List Char} : (∀ l ∈ body, Plain l) →
      body.flatten = code.flatMap String.utf8EncodeChar → Gives ⟨body, none⟩ (.ok code)

end Portion

def readings : Nat → List UInt8 → List (Except SystemFault (List Char)) × List UInt8
  | 0, stream => ([], stream)
  | n + 1, stream =>
    let (result, rest) := ofStream stream
    let (results, rest) := readings n rest
    (result :: results, rest)

structure Shares (lines : List (List UInt8)) (s : Portion) (rest : List (List UInt8)) : Prop where
  lines_eq : lines = s.lines ++ rest
  cut : Cut rest
  left : (ofStream lines.flatten).2 = rest.flatten
  gives : s.Gives (ofStream lines.flatten).1
  all : s.stop = none → rest = []
  dotless : ∀ code, (ofStream lines.flatten).1 = .ok code →
    ∀ line ∈ Text.lines code, line.head? ≠ some '.'

/-- How a number of calls share out the lines of a stream. A call that meets no line to end its text
leaves nothing, and later calls give an empty text. -/
structure Divided (lines : List (List UInt8)) (n : Nat) (ps : List Portion)
    (left : List (List UInt8)) : Prop where
  length_eq : ps.length = n
  lines_eq : lines = ps.flatMap Portion.lines ++ left
  left_eq : (readings n lines.flatten).2 = left.flatten
  gives : List.Forall₂ Portion.Gives ps (readings n lines.flatten).1
  ended : ∀ (i : Nat) (s : Portion), ps[i]? = some s → s.stop = none →
    (ps.drop (i + 1)).flatMap Portion.lines ++ left = [] ∧
      ∀ result ∈ (readings n lines.flatten).1.drop (i + 1), result = .ok []
  dotless : ∀ code, .ok code ∈ (readings n lines.flatten).1 →
    ∀ line ∈ Text.lines code, line.head? ≠ some '.'

variable {stream line rest : List UInt8} {lines : List (List UInt8)} {text : List Char}

theorem Cut.grow (b : UInt8) (h : Cut lines) :
    ∃ others, Cut others ∧ others.flatten = b :: lines.flatten := by
  by_cases hb : b = 10
  · exact ⟨_, @Cut.cons [] _ (by simp) h, by simp [hb]⟩
  · cases h with
    | nil => exact ⟨_, .last (List.cons_ne_nil b []) (by simpa using Ne.symm hb), by simp⟩
    | @last line _ hn =>
      exact ⟨_, .last (List.cons_ne_nil b line) (by simp [hn, Ne.symm hb]), by simp⟩
    | @cons body lines hn h =>
      exact ⟨_, @Cut.cons (b :: body) _ (by simp [hn, Ne.symm hb]) h, by simp⟩

theorem exists_cut (input : List UInt8) : ∃ lines, Cut lines ∧ lines.flatten = input := by
  induction input with
  | nil => exact ⟨[], .nil, rfl⟩
  | cons b input ih =>
    obtain ⟨lines, hcut, rfl⟩ := ih
    exact hcut.grow b

theorem noText_or_dotted_or_plain (line : List UInt8) : NoText line ∨ Dotted line ∨ Plain line := by
  by_cases h : NoText line
  · exact .inl h
  · obtain ⟨text, rfl⟩ : ∃ text : List Char, line = text.flatMap String.utf8EncodeChar := by
      simpa [NoText] using h
    by_cases hd : text.head? = some '.'
    · obtain ⟨more, rfl⟩ := List.head?_eq_some_iff.1 hd
      exact .inr (.inl ⟨more, rfl⟩)
    · exact .inr (.inr ⟨text, rfl, hd⟩)

section

variable (h : FirstLine stream line rest) (hne : stream ≠ [])

include h hne

theorem ofStream_of_noText (hline : NoText line) :
    ofStream stream = (.error .invalidText, rest) := by
  obtain ⟨b, bs, rfl⟩ := List.exists_cons_of_ne_nil hne
  rw [ofStream, h.splitLine_eq, noText_iff.1 hline]

theorem ofStream_of_dotted (hline : Dotted line) : ofStream stream = (.ok [], rest) := by
  obtain ⟨b, bs, rfl⟩ := List.exists_cons_of_ne_nil hne
  obtain ⟨text, htext⟩ := hline
  rw [ofStream, h.splitLine_eq, Utf8.decode?_eq_some_iff.2 htext]
  rfl

theorem ofStream_of_plain (htext : line = text.flatMap String.utf8EncodeChar)
    (hd : text.head? ≠ some '.') :
    ofStream stream = ((ofStream rest).1.map (text ++ ·), (ofStream rest).2) := by
  obtain ⟨b, bs, rfl⟩ := List.exists_cons_of_ne_nil hne
  rw [ofStream, h.splitLine_eq, Utf8.decode?_eq_some_iff.2 htext]
  simp only [hd, if_false]
  rcases ofStream rest with ⟨fault | code, left⟩ <;> rfl

end

theorem exists_eq_append_newline {body : List UInt8} (hbody : 10 ∉ body)
    (h : body ++ [10] = text.flatMap String.utf8EncodeChar) :
    ∃ line, text = line ++ ['\n'] ∧ '\n' ∉ line := by
  have hmem : '\n' ∈ text := Utf8.newline_mem_iff.1 (by simp [← h])
  obtain ⟨line, more, rfl, hline⟩ := List.eq_append_cons_of_mem hmem
  have hn : 10 ∉ line.flatMap String.utf8EncodeChar := fun h10 ↦ hline (Utf8.newline_mem_iff.1 h10)
  have hmore : more.flatMap String.utf8EncodeChar = [] := by
    have hnewline : String.utf8EncodeChar '\n' = [10] := by decide
    have hwhole := (@FirstLine.newline body [] hbody).splitLine_eq
    rw [h, List.flatMap_append, List.flatMap_cons, hnewline, List.singleton_append,
      (FirstLine.newline hn).splitLine_eq] at hwhole
    exact congrArg Prod.snd hwhole
  have hnil := Utf8.decode?_nil.symm.trans (Utf8.decode?_eq_some_iff.2 hmore.symm)
  cases hnil
  exact ⟨line, rfl, hline⟩

theorem head?_of_mem_lines {code : List Char}
    (hfirst : FirstLine stream (text.flatMap String.utf8EncodeChar) rest)
    (hd : text.head? ≠ some '.') (hcode : rest = [] → code = [])
    (h : ∀ line ∈ Text.lines code, line.head? ≠ some '.') :
    ∀ line ∈ Text.lines (text ++ code), line.head? ≠ some '.' := by
  generalize htext : text.flatMap String.utf8EncodeChar = bytes at hfirst
  cases hfirst with
  | newline hbody =>
    obtain ⟨line, rfl, hline⟩ := exists_eq_append_newline hbody htext.symm
    rw [List.append_assoc, List.singleton_append, Text.lines,
      List.splitOn_append_cons_self_of_not_mem hline]
    refine List.forall_mem_cons.2 ⟨fun hdot ↦ hd ?_, h⟩
    simp [hdot]
  | last hline =>
    rw [hcode rfl, List.append_nil, Text.lines, List.splitOn_eq_singleton]
    · simpa using hd
    · exact fun hn ↦ hline (htext ▸ Utf8.newline_mem_iff.2 hn)

theorem Portion.Gives.grow {s : Portion} {result : Except SystemFault (List Char)}
    (h : s.Gives result) (htext : line = text.flatMap String.utf8EncodeChar)
    (hd : text.head? ≠ some '.') :
    Gives ⟨line :: s.body, s.stop⟩ (result.map (text ++ ·)) := by
  have hplain {body : List (List UInt8)} (hbody : ∀ l ∈ body, Plain l) :
      ∀ l ∈ line :: body, Plain l := List.forall_mem_cons.2 ⟨⟨text, htext, hd⟩, hbody⟩
  cases h with
  | dot hbody hdot hcode => exact .dot (hplain hbody) hdot (by simp [htext, hcode])
  | noText hbody hline => exact .noText (hplain hbody) hline
  | rest hbody hcode => exact .rest (hplain hbody) (by simp [htext, hcode])

theorem shares_nil : Shares [] ⟨[], none⟩ [] where
  lines_eq := rfl
  cut := .nil
  left := by simp [ofStream]
  gives := by
    rw [List.flatten_nil, ofStream]
    exact .rest (by simp) rfl
  all _ := rfl
  dotless code h := by
    rw [List.flatten_nil, ofStream] at h
    cases h
    simp [Text.lines]

theorem Shares.cons {s : Portion} {left : List (List UInt8)} (hcut : Cut lines) (hne : line ≠ [])
    (hfirst : FirstLine (line ++ lines.flatten) line lines.flatten) (h : Shares lines s left) :
    ∃ s left, Shares (line :: lines) s left := by
  have hstream : line ++ lines.flatten ≠ [] := by simp [hne]
  obtain hline | hline | ⟨text, htext, hd⟩ := noText_or_dotted_or_plain line
  · have hread := ofStream_of_noText hfirst hstream hline
    refine ⟨⟨[], some line⟩, lines, ⟨rfl, hcut, ?_, ?_, by simp, ?_⟩⟩ <;>
      rw [List.flatten_cons, hread]
    · exact .noText (by simp) hline
    · simp
  · have hread := ofStream_of_dotted hfirst hstream hline
    refine ⟨⟨[], some line⟩, lines, ⟨rfl, hcut, ?_, ?_, by simp, ?_⟩⟩ <;>
      rw [List.flatten_cons, hread]
    · exact .dot (by simp) hline rfl
    · simp [Text.lines]
  · have hread := ofStream_of_plain hfirst hstream htext hd
    refine ⟨⟨line :: s.body, s.stop⟩, left, ⟨?_, h.cut, ?_, ?_, h.all, ?_⟩⟩
    · simpa [Portion.lines] using h.lines_eq
    · rw [List.flatten_cons, hread, h.left]
    · rw [List.flatten_cons, hread]
      exact h.gives.grow htext hd
    · intro code hcode
      rw [List.flatten_cons, hread] at hcode
      obtain ⟨more, hmore, rfl⟩ : ∃ more, (ofStream lines.flatten).1 = .ok more ∧
          text ++ more = code := by
        cases hresult : (ofStream lines.flatten).1 with
        | error fault => rw [hresult] at hcode; cases hcode
        | ok more => rw [hresult] at hcode; exact ⟨more, rfl, Except.ok.inj hcode⟩
      rw [htext] at hfirst
      refine head?_of_mem_lines hfirst hd (fun hnil ↦ ?_) (h.dotless more hmore)
      rw [hnil, ofStream] at hmore
      exact (Except.ok.inj hmore).symm

theorem exists_shares (h : Cut lines) : ∃ s left, Shares lines s left := by
  induction h with
  | nil => exact ⟨_, _, shares_nil⟩
  | @last line hne hn => exact shares_nil.cons .nil hne (by simpa using FirstLine.last hn)
  | @cons body lines hn hcut ih =>
    obtain ⟨s, left, h⟩ := ih
    refine h.cons hcut (by simp) ?_
    simpa using @FirstLine.newline body lines.flatten hn

theorem readings_nil (n : Nat) : readings n [] = (List.replicate n (.ok []), []) := by
  induction n with
  | zero => rfl
  | succ n ih =>
    rw [readings, ofStream]
    simp [ih, List.replicate_succ]

theorem exists_divided (h : Cut lines) (n : Nat) : ∃ ps left, Divided lines n ps left := by
  induction n generalizing lines with
  | zero => exact ⟨[], lines, ⟨rfl, rfl, rfl, .nil, by simp, by simp [readings]⟩⟩
  | succ n ih =>
    obtain ⟨s, rest, hs⟩ := exists_shares h
    have hread : readings (n + 1) lines.flatten = ((ofStream lines.flatten).1 ::
        (readings n rest.flatten).1, (readings n rest.flatten).2) := by
      rw [readings, ← hs.left]
    obtain ⟨ps, left, hd⟩ := ih hs.cut
    refine ⟨s :: ps, left, ⟨congrArg (· + 1) hd.length_eq, ?_, ?_, ?_, ?_, ?_⟩⟩
    · rw [List.flatMap_cons, List.append_assoc, ← hd.lines_eq]
      exact hs.lines_eq
    all_goals rw [hread]
    · exact hd.left_eq
    · exact .cons hs.gives hd.gives
    · rintro (_ | i) t ht hnone
      · obtain rfl := Option.some.inj ht
        obtain rfl := hs.all hnone
        refine ⟨hd.lines_eq.symm, fun result hresult ↦ ?_⟩
        rw [List.flatten_nil, readings_nil] at hresult
        exact List.eq_of_mem_replicate hresult
      · exact hd.ended i t ht hnone
    · intro code hcode
      obtain hcode | hcode := List.mem_cons.1 hcode
      · exact hs.dotless code hcode.symm
      · exact hd.dotless code hcode

theorem Cut.not_noText (h : Cut lines) (hv : Utf8.Valid lines.flatten) :
    ∀ line ∈ lines, ¬ NoText line := by
  have hvalid {line : List UInt8} (hline : Utf8.Valid line) : ¬ NoText line := by
    rw [noText_iff]
    exact Option.ne_none_iff_isSome.2 hline
  induction h with
  | nil => simp
  | last => exact List.forall_mem_singleton.2 (hvalid (by simpa using hv))
  | @cons body lines hn _ ih =>
    have hsplit := valid_splitLine hv
    rw [List.flatten_cons, List.append_assoc, List.singleton_append,
      (FirstLine.newline hn).splitLine_eq] at hsplit
    exact List.forall_mem_cons.2 ⟨hvalid hsplit.1, ih hsplit.2⟩

theorem exists_codes {ps : List Portion} {results : List (Except SystemFault (List Char))}
    (h : List.Forall₂ Portion.Gives ps results)
    (htext : ∀ s ∈ ps, ∀ line ∈ s.lines, ¬ NoText line) :
    ∃ codes : List (List Char), results = codes.map .ok ∧
      (List.zipWith (fun code s ↦ code.flatMap String.utf8EncodeChar ++ s.stop.getD []) codes
        ps).flatten = (ps.flatMap Portion.lines).flatten := by
  induction h with
  | nil => exact ⟨[], rfl, rfl⟩
  | cons hgives _ ih =>
    obtain ⟨hs, htext⟩ := List.forall_mem_cons.1 htext
    obtain ⟨codes, rfl, hcodes⟩ := ih htext
    cases hgives with
    | @dot body line code _ _ hcode =>
      exact ⟨code :: codes, rfl, by simp [Portion.lines, hcodes, hcode]⟩
    | @noText body line _ hline => exact absurd hline (hs line (by simp [Portion.lines]))
    | @rest body code _ hcode =>
      exact ⟨code :: codes, rfl, by simp [Portion.lines, hcodes, hcode]⟩

/-- Calls on one stream share out its lines. Every stream can be cut into lines. Each call takes
lines of text up to one that starts with a dot, and its result is the text before it, or up to one
that is not text, and then it fails; or it takes all that is left, and later calls give an empty
text. So no line of a result starts with a dot, and if the stream is text, then the results and the
lines that ended them are what was taken of it. -/
theorem calls_share_lines :
    (∀ input, ∃ lines, Cut lines ∧ lines.flatten = input) ∧
    ∀ lines n, Cut lines → ∃ ps left, Divided lines n ps left ∧
      (Utf8.Valid lines.flatten → ∃ codes : List (List Char),
        (readings n lines.flatten).1 = codes.map .ok ∧
        (List.zipWith (fun code s ↦ code.flatMap String.utf8EncodeChar ++ s.stop.getD []) codes
          ps).flatten ++ left.flatten = lines.flatten) := by
  refine ⟨exists_cut, fun lines n h ↦ ?_⟩
  obtain ⟨ps, left, hd⟩ := exists_divided h n
  refine ⟨ps, left, hd, fun hv ↦ ?_⟩
  have htext := h.not_noText hv
  rw [hd.lines_eq] at htext
  obtain ⟨codes, hcodes, hflat⟩ := exists_codes hd.gives fun s hs line hline ↦
    htext line (List.mem_append_left _ (List.mem_flatMap.2 ⟨s, hs, hline⟩))
  refine ⟨codes, hcodes, ?_⟩
  rw [hflat, ← List.flatten_append, ← hd.lines_eq]

theorem calls_share_lines_fault :
    Cut [[97, 10], [46, 10], [255, 10], [98]] ∧
    (∃ ps left, Divided [[97, 10], [46, 10], [255, 10], [98]] 3 ps left) ∧
    readings 3 [97, 10, 46, 10, 255, 10, 98] =
      ([.ok ['a', '\n'], .error .invalidText, .ok ['b']], []) := by
  have h : Cut [[97, 10], [46, 10], [255, 10], [98]] :=
    @Cut.cons [97] _ (by decide) (@Cut.cons [46] _ (by decide) (@Cut.cons [255] _ (by decide)
      (.last (by decide) (by decide))))
  obtain ⟨ps, left, hd, -⟩ := calls_share_lines.2 _ 3 h
  exact ⟨h, ⟨ps, left, hd⟩, by decide +kernel⟩

end RegisterLang.Input
