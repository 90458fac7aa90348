import RegisterLang.Proofs.Token.Scan

namespace RegisterLang

inductive Shape where
  | blanks
  | digits
  | letters
  | paren
  | operator
  | comment
  deriving DecidableEq, Repr

namespace Shape

open Lexeme (isBlank isDigit isLetter isOperator)

def Fits : Shape → List Char → Prop
  | blanks, text => text ≠ [] ∧ ∀ c ∈ text, isBlank c = true
  | digits, text => text ≠ [] ∧ ∀ c ∈ text, isDigit c = true
  | letters, text => text ≠ [] ∧ ∀ c ∈ text, isLetter c = true
  | paren, text => text = ['('] ∨ text = [')']
  | operator, text => ∃ c, text = [c] ∧ isOperator c = true
  | comment, text => ∃ body, '}' ∉ body ∧ text = '{' :: (body ++ ['}'])

def of? (c : Char) : Option Shape :=
  if isBlank c then some blanks
  else if isDigit c then some digits
  else if c = '(' ∨ c = ')' then some paren
  else if isLetter c then some letters
  else if isOperator c then some operator
  else if c = '{' then some comment
  else none

/-- Characters that cannot follow a segment without being taken into it. -/
def absorbs : Shape → Char → Bool
  | blanks => isBlank
  | digits => isDigit
  | letters => isLetter
  | operator => isOperator
  | paren | comment => fun _ ↦ false

variable {c : Char}

theorem eq_of_isBlank (h : isBlank c = true) : c = ' ' ∨ c = '\t' ∨ c = '\n' := by
  simpa [isBlank, or_assoc] using h

theorem eq_of_isOperator (h : isOperator c = true) :
    c = '+' ∨ c = '-' ∨ c = '*' ∨ c = '/' ∨ c = '%' ∨ c = '=' := by
  unfold isOperator Kind.operator? at h
  split at h <;> simp at h ⊢

theorem isDigit_eq_false (h : isLetter c = true) : isDigit c = false := by
  refine Bool.eq_false_iff.2 fun hd ↦ ?_
  simp only [isLetter, isDigit, Char.le_def, UInt32.le_iff_toNat_le, Bool.or_eq_true,
    Bool.and_eq_true, decide_eq_true_eq] at h hd
  obtain (h | h) | rfl := h
  · have : 'a'.val.toNat = 97 := rfl
    have : '9'.val.toNat = 57 := rfl
    omega
  · have : 'A'.val.toNat = 65 := rfl
    have : '9'.val.toNat = 57 := rfl
    omega
  · exact absurd hd (by decide)

theorem isBlank_eq_false {p : Char → Bool} (hp : p ' ' = false ∧ p '\t' = false ∧ p '\n' = false)
    (h : p c = true) : isBlank c = false := by
  refine Bool.eq_false_iff.2 fun hb ↦ ?_
  rcases eq_of_isBlank hb with rfl | rfl | rfl
  · rw [hp.1] at h
    cases h
  · rw [hp.2.1] at h
    cases h
  · rw [hp.2.2] at h
    cases h

theorem of?_eq_of_absorbs {shape : Shape} (h : shape.absorbs c = true) : of? c = some shape := by
  cases shape with
  | blanks => exact if_pos h
  | digits =>
    have hb : isBlank c = false := isBlank_eq_false (by decide) h
    rw [of?, hb, if_neg Bool.false_ne_true]
    exact if_pos h
  | letters =>
    have hb : isBlank c = false := isBlank_eq_false (by decide) h
    have hp : ¬ (c = '(' ∨ c = ')') := by
      rintro (rfl | rfl) <;> exact absurd h (by decide)
    rw [of?, hb, isDigit_eq_false h, if_neg Bool.false_ne_true, if_neg Bool.false_ne_true,
      if_neg hp]
    exact if_pos h
  | operator =>
    rcases eq_of_isOperator h with rfl | rfl | rfl | rfl | rfl | rfl <;> decide
  | paren | comment => cases h

theorem absorbs_of_of? {shape : Shape} (h : of? c = some shape) (hp : shape ≠ .paren)
    (hc : shape ≠ .comment) : shape.absorbs c = true := by
  unfold of? at h
  split at h
  · next hx => cases h; exact hx
  split at h
  · next hx => cases h; exact hx
  split at h
  · cases h; contradiction
  split at h
  · next hx => cases h; exact hx
  split at h
  · next hx => cases h; exact hx
  split at h
  · cases h; contradiction
  · cases h

theorem Fits.of?_eq {shape : Shape} {text : List Char} (h : shape.Fits text)
    (hs : shape ≠ .comment) : ∀ c ∈ text, of? c = some shape := by
  intro c hc
  cases shape with
  | blanks | digits | letters =>
    have hclass := h.2 c hc
    exact of?_eq_of_absorbs hclass
  | paren => rcases h with rfl | rfl <;> cases List.mem_singleton.1 hc <;> rfl
  | operator =>
    obtain ⟨d, rfl, hd⟩ := h
    cases List.mem_singleton.1 hc
    exact of?_eq_of_absorbs hd
  | comment => contradiction

theorem Fits.exists_cons {shape : Shape} {text : List Char} (h : shape.Fits text) :
    ∃ c cs, text = c :: cs ∧ of? c = some shape := by
  by_cases hs : shape = .comment
  · subst hs
    obtain ⟨body, -, rfl⟩ := h
    exact ⟨'{', _, rfl, by decide⟩
  · cases text with
    | nil => cases shape <;> simp [Fits] at h
    | cons c cs => exact ⟨c, cs, rfl, h.of?_eq hs c (.head _)⟩

theorem fits_of_run {shape : Shape} {run : List Char} (hs : shape ∈ [blanks, digits, letters])
    (hne : run ≠ []) (h : ∀ c ∈ run, shape.absorbs c = true) : shape.Fits run := by
  cases shape with
  | blanks | digits | letters => exact ⟨hne, h⟩
  | paren | operator | comment => simp at hs

end Shape

def Kind.marks : List Kind :=
  [leftParen, rightParen, plus, minus, multiply, divide, modulus, assignment]

structure Segment where
  shape : Shape
  text : List Char
  fits : shape.Fits text

namespace Segment

variable {s : Segment} {ss : List Segment} {rest : List Char}

theorem eq_of_text_eq {s t : Segment} (h : s.text = t.text) : s = t := by
  obtain ⟨c, cs, hs, hc⟩ := s.fits.exists_cons
  obtain ⟨d, ds, ht, hd⟩ := t.fits.exists_cons
  obtain ⟨rfl, rfl⟩ := List.cons.inj (hs.symm.trans (h.trans ht))
  obtain ⟨shape, text, fits⟩ := s
  obtain ⟨shape', text', fits'⟩ := t
  cases Option.some.inj (hc.symm.trans hd)
  cases h
  rfl

def content (s : Segment) : List Char :=
  match s.shape with
  | .comment => s.text.tail.dropLast
  | _ => s.text

def kind (s : Segment) : Kind :=
  match s.shape with
  | .blanks => .whitespace
  | .digits => .integer
  | .comment => .comment
  | .letters => (Kind.keyword? (String.ofList s.text)).getD .identifier
  | .paren | .operator =>
    (Kind.marks.find? fun k ↦ k.literal = some (String.ofList s.text)).getD .identifier

def value (s : Segment) : String :=
  if s.kind.literal.isSome then "" else String.ofList s.content

def token (offset : Nat) (s : Segment) : Token :=
  ⟨s.kind, ⟨offset, Text.size s.text⟩, s.value⟩

def tokens (offset : Nat) : List Segment → List Token
  | [] => []
  | s :: ss => s.token offset :: tokens (offset + Text.size s.text) ss

def flat (ss : List Segment) : List Char := ss.flatMap text

def Apart : List Segment → List Char → Prop
  | [], _ => True
  | s :: ss, rest => (∀ c ∈ (flat ss ++ rest).head?, s.shape.absorbs c = false) ∧ Apart ss rest

theorem ne_nil (s : Segment) : s.text ≠ [] := by
  obtain ⟨c, cs, h, -⟩ := s.fits.exists_cons
  rw [h]
  exact List.cons_ne_nil c cs

theorem size_pos (s : Segment) : 0 < Text.size s.text := by
  obtain ⟨c, cs, h, -⟩ := s.fits.exists_cons
  have hc := Char.utf8Size_pos c
  rw [h, Text.size_cons]
  omega

@[simp]
theorem flat_nil : flat [] = [] := rfl

@[simp]
theorem flat_cons (s : Segment) (ss : List Segment) : flat (s :: ss) = s.text ++ flat ss := rfl

theorem exists_place_of_mem_tokens (before : List Char) (ss : List Segment) (rest : List Char) :
    ∀ t ∈ tokens (Text.size before) ss, ∃ xs, ∃ s : Segment, ∃ ys,
      before ++ (flat ss ++ rest) = xs ++ (s.text ++ ys) ∧ t = s.token (Text.size xs) := by
  induction ss generalizing before with
  | nil => simp [tokens]
  | cons s ss ih =>
    have h := ih (before ++ s.text)
    rw [Text.size_append, List.append_assoc] at h
    rw [flat_cons, List.append_assoc, tokens, List.forall_mem_cons]
    exact ⟨⟨before, s, flat ss ++ rest, rfl, rfl⟩, h⟩

end Segment

/-- What no token can cover: the fault, the text that it is blamed on, and what stands behind. -/
inductive Obstacle : LexicalFault → List Char → List Char → Prop where
  | character {c : Char} (h : Shape.of? c = none) (rest : List Char) :
      Obstacle (.illegalCharacter c) [c] rest
  | operators {run rest : List Char} (h : ∀ c ∈ run, Lexeme.isOperator c = true)
      (long : 2 ≤ run.length) (hrest : ∀ c ∈ rest.head?, Lexeme.isOperator c = false) :
      Obstacle (.illegalOperator (String.ofList run)) run rest
  | openComment {body : List Char} (h : '}' ∉ body) :
      Obstacle .unterminatedComment ('{' :: body) []

section Munch

variable {p : Char → Bool} {run rest : List Char}

theorem takeWhile_of_run (h : ∀ c ∈ run, p c = true) (hrest : ∀ c ∈ rest.head?, p c = false) :
    (run ++ rest).takeWhile p = run := by
  rw [List.takeWhile_append_of_pos h]
  cases rest with
  | nil => simp
  | cons c rest => simp [hrest c rfl]

theorem dropWhile_of_run (h : ∀ c ∈ run, p c = true) (hrest : ∀ c ∈ rest.head?, p c = false) :
    (run ++ rest).dropWhile p = rest := by
  rw [List.dropWhile_append_of_pos h]
  cases rest with
  | nil => rfl
  | cons c rest => simp [hrest c rfl]

theorem head?_dropWhile (p : Char → Bool) (cs : List Char) :
    ∀ c ∈ (cs.dropWhile p).head?, p c = false := by
  intro c hc
  have h := List.head?_dropWhile_not p cs
  rw [Option.mem_def.1 hc] at h
  exact h

theorem exists_run {c : Char} (h : p c = true) (cs : List Char) :
    ∃ run rest, c :: cs = run ++ rest ∧ run ≠ [] ∧ (∀ d ∈ run, p d = true) ∧
      ∀ d ∈ rest.head?, p d = false :=
  ⟨(c :: cs).takeWhile p, (c :: cs).dropWhile p, List.takeWhile_append_dropWhile.symm,
    by simp [h], List.all_eq_true.1 List.all_takeWhile, head?_dropWhile p _⟩

end Munch

namespace Segment

theorem exists_front (c : Char) (cs : List Char) :
    (∃ s rest, c :: cs = text s ++ rest ∧ ∀ d ∈ rest.head?, s.shape.absorbs d = false) ∨
      ∃ fault taken rest, c :: cs = taken ++ rest ∧ Obstacle fault taken rest := by
  cases hs : Shape.of? c with
  | none => exact .inr ⟨_, [c], cs, rfl, .character hs cs⟩
  | some shape =>
    cases shape with
    | blanks | digits | letters =>
      have hc := Shape.absorbs_of_of? hs (by decide) (by decide)
      obtain ⟨run, rest, he, hne, hall, hrest⟩ := exists_run hc cs
      exact .inl ⟨⟨_, run, Shape.fits_of_run (by decide) hne hall⟩, rest, he, hrest⟩
    | paren =>
      have hc : c = '(' ∨ c = ')' := by
        unfold Shape.of? at hs
        repeat' split at hs
        all_goals first | assumption | cases hs
      exact .inl ⟨⟨.paren, [c], by simpa [Shape.Fits] using hc⟩, cs, rfl, fun _ _ ↦ rfl⟩
    | operator =>
      have hc := Shape.absorbs_of_of? hs (by decide) (by decide)
      obtain ⟨run, rest, he, hne, hall, hrest⟩ := exists_run hc cs
      obtain ⟨d, run, rfl⟩ := List.exists_cons_of_ne_nil hne
      cases run with
      | nil => exact .inl ⟨⟨.operator, [d], d, rfl, hall d (.head _)⟩, rest, he, hrest⟩
      | cons e run => exact .inr ⟨_, _, rest, he, .operators hall (by simp) hrest⟩
    | comment =>
      have hc : c = '{' := by
        unfold Shape.of? at hs
        repeat' split at hs
        all_goals first | assumption | cases hs
      subst hc
      by_cases hclose : '}' ∈ cs
      · obtain ⟨body, rest, rfl, hbody⟩ := List.eq_append_cons_of_mem hclose
        exact .inl ⟨⟨.comment, '{' :: (body ++ ['}']), body, hbody, rfl⟩, rest, by simp,
          fun _ _ ↦ rfl⟩
      · exact .inr ⟨_, '{' :: cs, [], by simp, .openComment hclose⟩

theorem exists_segments (cs : List Char) :
    ∃ ss rest, cs = flat ss ++ rest ∧ Apart ss rest ∧
      (rest = [] ∨ ∃ fault taken more, rest = taken ++ more ∧ Obstacle fault taken more) := by
  induction hn : cs.length using Nat.strongRecOn generalizing cs with
  | ind n ih =>
    cases cs with
    | nil => exact ⟨[], [], rfl, trivial, .inl rfl⟩
    | cons c cs =>
      obtain ⟨s, more, he, hs⟩ | ⟨fault, taken, more, he, ho⟩ := exists_front c cs
      · have hlt : more.length < n := by
          have hpos := List.length_pos_iff.2 s.ne_nil
          rw [← hn, he, List.length_append]
          omega
        obtain ⟨ss, rest, rfl, hapart, hrest⟩ := ih more.length hlt more rfl
        exact ⟨s :: ss, rest, by simp [he], ⟨hs, hapart⟩, hrest⟩
      · exact ⟨[], c :: cs, rfl, trivial, .inr ⟨fault, taken, more, he, ho⟩⟩

end Segment

namespace Lexeme

theorem next_cons (c : Char) (cs : List Char) : next (c :: cs) =
    match Shape.of? c with
    | some .blanks => some (run .whitespace isBlank (c :: cs))
    | some .digits => some (run .integer isDigit (c :: cs))
    | some .letters => some (word (c :: cs))
    | some .paren => some ⟨[c], .ok (if c = '(' then .leftParen else .rightParen, ""), cs⟩
    | some .operator => some (operator (c :: cs))
    | some .comment => some (comment cs)
    | none => some ⟨[c], .error (.illegalCharacter c), c :: cs⟩ := by
  unfold next Shape.of?
  by_cases hopen : c = '('
  · subst hopen
    rfl
  · by_cases hclose : c = ')'
    · subst hclose
      rfl
    · simp only [hopen, hclose, or_self, if_false]
      repeat' split
      all_goals first | rfl | contradiction

theorem word_of_letters {text rest : List Char} (h : ∀ c ∈ text, isLetter c = true)
    (hrest : ∀ c ∈ rest.head?, isLetter c = false) (fits : Shape.letters.Fits text) :
    word (text ++ rest) =
      ⟨text, .ok (Segment.kind ⟨.letters, text, fits⟩, Segment.value ⟨.letters, text, fits⟩),
        rest⟩ := by
  rw [word, takeWhile_of_run h hrest, dropWhile_of_run h hrest]
  cases hk : Kind.keyword? (String.ofList text) with
  | none => simp [Segment.value, Segment.kind, hk, Segment.content, Kind.literal]
  | some k => simp [Segment.value, Segment.kind, hk, Kind.literal_of_keyword? hk]

theorem decide_ne_close {body : List Char} (h : '}' ∉ body) :
    ∀ c ∈ body, decide (c ≠ '}') = true := by
  intro c hc
  exact decide_eq_true fun he ↦ h (he ▸ hc)

theorem next_segment (s : Segment) {rest : List Char}
    (h : ∀ c ∈ rest.head?, s.shape.absorbs c = false) :
    next (s.text ++ rest) = some ⟨s.text, .ok (s.kind, s.value), rest⟩ := by
  obtain ⟨c, cs, htext, hc⟩ := s.fits.exists_cons
  have hnext := next_cons c (cs ++ rest)
  rw [hc, ← List.cons_append, ← htext] at hnext
  rw [hnext]
  obtain ⟨shape, text, fits⟩ := s
  cases shape with
  | blanks | digits =>
    simp only [run, takeWhile_of_run fits.2 h, dropWhile_of_run fits.2 h]
    rfl
  | letters => exact congrArg some (word_of_letters fits.2 h fits)
  | paren =>
    rcases fits with rfl | rfl
    · obtain ⟨rfl, rfl⟩ := List.cons.inj htext
      rfl
    · obtain ⟨rfl, rfl⟩ := List.cons.inj htext
      rfl
  | operator =>
    obtain ⟨d, rfl, hd⟩ := fits
    have hall : ∀ c ∈ [d], isOperator c = true := by simpa using hd
    simp only [operator, takeWhile_of_run hall h, dropWhile_of_run hall h]
    rcases Shape.eq_of_isOperator hd with rfl | rfl | rfl | rfl | rfl | rfl <;> rfl
  | comment =>
    obtain ⟨body, hbody, rfl⟩ := fits
    cases htext
    have hstop : ∀ c ∈ ('}' :: rest).head?, decide (c ≠ '}') = false := by simp
    simp only [comment, List.append_assoc, List.cons_append, List.nil_append,
      takeWhile_of_run (decide_ne_close hbody) hstop,
      dropWhile_of_run (decide_ne_close hbody) hstop]
    simp [Segment.value, Segment.kind, Segment.content, Kind.literal]

theorem next_character {c : Char} (h : Shape.of? c = none) (rest : List Char) :
    next (c :: rest) = some ⟨[c], .error (.illegalCharacter c), c :: rest⟩ := by
  rw [next_cons, h]

theorem next_operators {run rest : List Char} (hall : ∀ c ∈ run, isOperator c = true)
    (long : 2 ≤ run.length) (hrest : ∀ c ∈ rest.head?, isOperator c = false) :
    next (run ++ rest) = some ⟨run, .error (.illegalOperator (String.ofList run)), rest⟩ := by
  obtain ⟨c, d, run, rfl⟩ : ∃ c d more, run = c :: d :: more := by
    match run, long with
    | c :: d :: more, _ => exact ⟨c, d, more, rfl⟩
  have hc : Shape.of? c = some .operator := Shape.of?_eq_of_absorbs (hall c (.head _))
  have hnext : next (c :: d :: run ++ rest) = some (operator (c :: d :: run ++ rest)) := by
    rw [List.cons_append, next_cons, hc]
  rw [hnext, operator, takeWhile_of_run hall hrest, dropWhile_of_run hall hrest]

theorem next_openComment {body : List Char} (h : '}' ∉ body) :
    next ('{' :: body) = some ⟨'{' :: body, .error .unterminatedComment, []⟩ := by
  have hstop : ∀ c ∈ ([] : List Char).head?, decide (c ≠ '}') = false := by simp
  have hdrop := dropWhile_of_run (decide_ne_close h) hstop
  have htake := takeWhile_of_run (decide_ne_close h) hstop
  rw [List.append_nil] at hdrop htake
  have hnext : next ('{' :: body) = some (comment body) := next_cons '{' body
  rw [hnext, comment, hdrop, htake]

theorem next_obstacle {fault : LexicalFault} {taken rest : List Char}
    (h : Obstacle fault taken rest) :
    ∃ l, next (taken ++ rest) = some l ∧ l.taken = taken ∧ l.outcome = .error fault := by
  cases h with
  | character hc rest => exact ⟨_, next_character hc rest, rfl, rfl⟩
  | operators hall long hrest => exact ⟨_, next_operators hall long hrest, rfl, rfl⟩
  | openComment hbody => exact ⟨_, by rw [List.append_nil]; exact next_openComment hbody, rfl, rfl⟩

end Lexeme

namespace Tokens

theorem scanFrom_of_end {cs : List Char} (h : Lexeme.next cs = none) (offset : Nat) :
    scanFrom offset cs = ⟨[], none⟩ := by
  rw [scanFrom]
  split
  · rfl
  · next hn => cases hn.symm.trans h

theorem scanFrom_nil (offset : Nat) : scanFrom offset [] = ⟨[], none⟩ := scanFrom_of_end rfl offset

theorem scanFrom_of_next {offset : Nat} {cs taken rest : List Char} {kind : Kind} {value : String}
    (h : Lexeme.next cs = some ⟨taken, .ok (kind, value), rest⟩) :
    scanFrom offset cs =
      ⟨⟨kind, ⟨offset, Text.size taken⟩, value⟩ ::
        (scanFrom (offset + Text.size taken) rest).tokens,
        (scanFrom (offset + Text.size taken) rest).error⟩ := by
  rw [scanFrom]
  split
  · next hn => cases hn.symm.trans h
  · next l hn =>
    cases hn.symm.trans h
    rfl

theorem scanFrom_of_fault {offset : Nat} {cs : List Char} {l : Lexeme} {fault : LexicalFault}
    (h : Lexeme.next cs = some l) (hl : l.outcome = .error fault) :
    scanFrom offset cs = ⟨[], some ⟨fault, ⟨offset, Text.size l.taken⟩⟩⟩ := by
  rw [scanFrom]
  split
  · next hn => cases hn.symm.trans h
  · next l' hn =>
    cases hn.symm.trans h
    split
    · next ho =>
      cases ho.symm.trans hl
      rfl
    · next ho => cases ho.symm.trans hl

open Segment in
theorem scanFrom_flat {ss : List Segment} {rest : List Char} (h : Apart ss rest) (offset : Nat) :
    scanFrom offset (flat ss ++ rest) =
      ⟨Segment.tokens offset ss ++ (scanFrom (offset + Text.size (flat ss)) rest).tokens,
        (scanFrom (offset + Text.size (flat ss)) rest).error⟩ := by
  induction ss generalizing offset with
  | nil => rfl
  | cons s ss ih =>
    rw [flat_cons, List.append_assoc, scanFrom_of_next (Lexeme.next_segment s h.1), ih h.2,
      Text.size_append, ← Nat.add_assoc]
    rfl

theorem scanFrom_obstacle {fault : LexicalFault} {taken rest : List Char}
    (h : Obstacle fault taken rest) (offset : Nat) :
    scanFrom offset (taken ++ rest) = ⟨[], some ⟨fault, ⟨offset, Text.size taken⟩⟩⟩ := by
  obtain ⟨l, hn, rfl, ho⟩ := Lexeme.next_obstacle h
  exact scanFrom_of_fault hn ho

open Segment in
theorem exists_segments_of_scanFrom (offset : Nat) (cs : List Char) :
    ∃ ss rest, cs = flat ss ++ rest ∧ Apart ss rest ∧
      (scanFrom offset cs).tokens = Segment.tokens offset ss ∧
      match (scanFrom offset cs).error with
      | none => rest = []
      | some e => ∃ taken more, rest = taken ++ more ∧ Obstacle e.fault taken more ∧
          e.span = ⟨offset + Text.size (flat ss), Text.size taken⟩ := by
  obtain ⟨ss, rest, rfl, hapart, rfl | ⟨fault, taken, more, rfl, ho⟩⟩ := exists_segments cs
  · refine ⟨ss, [], rfl, hapart, ?_⟩
    rw [scanFrom_flat hapart, scanFrom_nil]
    exact ⟨List.append_nil _, rfl⟩
  · refine ⟨ss, taken ++ more, rfl, hapart, ?_⟩
    rw [scanFrom_flat hapart, scanFrom_obstacle ho]
    exact ⟨List.append_nil _, taken, more, rfl, ho, rfl⟩

end Tokens

end RegisterLang
