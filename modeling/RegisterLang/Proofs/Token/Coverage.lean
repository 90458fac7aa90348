import RegisterLang.Proofs.Token.Writing

namespace RegisterLang

def Tokens.items (t : Tokens) : List (Except LexicalError Token) :=
  t.tokens.map .ok ++ t.error.toList.map .error

namespace Scanner

inductive Items.Yields : Items → List (Except LexicalError Token) → Prop where
  | done {i i' : Items} (h : i.next = (none, i')) : Yields i []
  | item {i i' : Items} {x : Except LexicalError Token} {xs : List (Except LexicalError Token)}
      (h : i.next = (some x, i')) (more : Yields i' xs) : Yields i (x :: xs)

/-- What a scanner on a source text yields. There may be no scanner, because the text starts with an
error. -/
def Yields (source : String) (t : Tokens) : Prop :=
  match ofHead (.ofText source.toList) with
  | .error e => t = ⟨[], some e⟩
  | .ok s => (Items.ofScanner s).Yields t.items

theorem Items.Yields.unique {i : Items} {xs ys : List (Except LexicalError Token)}
    (h : Yields i xs) (h' : Yields i ys) : xs = ys := by
  induction h generalizing ys with
  | done h =>
    cases h' with
    | done => rfl
    | item h' => cases h.symm.trans h'
  | item h _ ih =>
    cases h' with
    | done h' => cases h.symm.trans h'
    | item h' more =>
      cases h.symm.trans h'
      rw [ih more]

theorem advance_token (s : Scanner) {l : Lexeme} {kind : Kind} {value : String}
    (h : Lexeme.next s.head.rest = some l) (hl : l.outcome = .ok (kind, value)) :
    s.advance = (.ok (), ⟨s.head.past l.taken l.rest,
      some ⟨kind, ⟨s.head.offset, Text.size l.taken⟩, value⟩⟩) := by
  simp [advance, h, Lexeme.place, hl, Lexeme.passed]

theorem advance_fault (s : Scanner) {l : Lexeme} {fault : LexicalFault}
    (h : Lexeme.next s.head.rest = some l) (hl : l.outcome = .error fault) :
    s.advance = (.error ⟨fault, ⟨s.head.offset, Text.size l.taken⟩⟩,
      { s with head := s.head.past l.passed l.rest }) := by
  simp [advance, h, Lexeme.place, hl]

theorem yields_nothing {head : Head} : Items.Yields ⟨⟨head, none⟩, none⟩ [] := .done rfl

theorem yields_error {head : Head} (e : LexicalError) :
    Items.Yields ⟨⟨head, none⟩, some e⟩ [.error e] :=
  .item rfl yields_nothing

theorem yields_scanFrom (text : List Char) (offset : Nat) (cs : List Char) (token : Token) :
    Items.Yields ⟨⟨⟨text, cs, offset⟩, some token⟩, none⟩
      (.ok token :: (Tokens.scanFrom offset cs).items) := by
  fun_induction Tokens.scanFrom offset cs generalizing token with
  | case1 offset cs hnext =>
    have hi : Items.next ⟨⟨⟨text, cs, offset⟩, some token⟩, none⟩ =
        (some (.ok token), ⟨⟨⟨text, cs, offset⟩, none⟩, none⟩) := by
      simp [Items.next, advance, hnext]
    exact .item hi yields_nothing
  | case2 offset cs l hnext fault hl =>
    have ha := advance_fault ⟨⟨text, cs, offset⟩, some token⟩ hnext hl
    have hi : Items.next ⟨⟨⟨text, cs, offset⟩, some token⟩, none⟩ =
        (some (.ok token), ⟨⟨Head.past ⟨text, cs, offset⟩ l.passed l.rest, none⟩,
          some ⟨fault, ⟨offset, Text.size l.taken⟩⟩⟩) := by
      simp [Items.next, ha]
    exact .item hi (yields_error _)
  | case3 offset cs l hnext kind value hl width more ih =>
    have ha := advance_token ⟨⟨text, cs, offset⟩, some token⟩ hnext hl
    have hi : Items.next ⟨⟨⟨text, cs, offset⟩, some token⟩, none⟩ =
        (some (.ok token), ⟨⟨⟨text, l.rest, offset + width⟩, some ⟨kind, ⟨offset, width⟩, value⟩⟩,
          none⟩) := by
      simp [Items.next, ha, Head.past, width]
    exact .item hi (ih _)

theorem items_injective {t u : Tokens} (h : t.items = u.items) : t = u := by
  obtain ⟨ts, e⟩ := t
  obtain ⟨us, f⟩ := u
  simp only [Tokens.items] at h
  induction ts generalizing us with
  | nil =>
    cases us with
    | nil => cases e <;> cases f <;> simp_all
    | cons u us => cases e <;> simp at h
  | cons t ts ih =>
    cases us with
    | nil => cases f <;> simp at h
    | cons u us =>
      simp only [List.map_cons, List.cons_append, List.cons.injEq, Except.ok.injEq] at h
      cases ih us h.2
      rw [h.1]

theorem yields_iff {source : String} (h : source.utf8ByteSize ≤ sourceLimit) {t : Tokens} :
    Yields source t ↔ t = Tokens.scanFrom 0 source.toList := by
  have hsize : ¬ sourceLimit < Text.size source.toList := by
    rw [Text.size_toList]
    omega
  have hunique : ∀ {s : Scanner} {u : Tokens}, (Items.ofScanner s).Yields u.items →
      ((Items.ofScanner s).Yields t.items ↔ t = u) := fun hu ↦
    ⟨fun ht ↦ items_injective (ht.unique hu), fun he ↦ he ▸ hu⟩
  simp only [Yields, ofHead, Head.ofText, hsize, if_false]
  cases hnext : Lexeme.next source.toList with
  | none =>
    rw [Tokens.scanFrom_of_end hnext, advance, hnext]
    exact hunique yields_nothing
  | some l =>
    obtain ⟨taken, outcome, rest⟩ := l
    cases outcome with
    | error fault => rw [Tokens.scanFrom_of_fault hnext rfl, advance_fault _ hnext rfl]
    | ok token =>
      rw [Tokens.scanFrom_of_next hnext, advance_token _ hnext rfl]
      exact hunique (yields_scanFrom source.toList (0 + Text.size taken) rest _)

end Scanner

def Token.spelling (t : Token) : List Char :=
  if t.kind = .comment then '{' :: (t.text.toList ++ ['}']) else t.text.toList

/-- Spans that follow each other without a gap from one offset to another, none of them empty. -/
def Span.Tile : Nat → List Span → Nat → Prop
  | start, [], stop => start = stop
  | start, span :: spans, stop => span.index = start ∧ 0 < span.size ∧ Tile span.stop spans stop

open Lexeme (isBlank isDigit isLetter isOperator) in
/-- What a fault says of the text that it is blamed on, given the text on both sides: a character
that starts no token, all of a run of two or more operators, or all that follows a brace which
nothing closes. -/
def LexicalFault.Blames (before blamed after : List Char) : LexicalFault → Prop
  | .illegalCharacter c => blamed = [c] ∧ isBlank c = false ∧ isDigit c = false ∧
      isLetter c = false ∧ isOperator c = false ∧ c ≠ '(' ∧ c ≠ ')' ∧ c ≠ '{'
  | .illegalOperator run => blamed = run.toList ∧ 2 ≤ blamed.length ∧
      (∀ c ∈ blamed, isOperator c = true) ∧ (∀ c ∈ before.getLast?, isOperator c = false) ∧
      ∀ c ∈ after.head?, isOperator c = false
  | .unterminatedComment => (∃ body, blamed = '{' :: body ∧ '}' ∉ body) ∧ after = []
  | .sourceTooLarge _ => False

namespace Segment

open Lexeme (isOperator)

theorem tile_tokens (ss : List Segment) (offset : Nat) :
    Span.Tile offset ((tokens offset ss).map Token.span) (offset + Text.size (flat ss)) := by
  induction ss generalizing offset with
  | nil => rfl
  | cons s ss ih =>
    refine ⟨rfl, s.size_pos, ?_⟩
    rw [flat_cons, Text.size_append, ← Nat.add_assoc]
    exact ih (offset + Text.size s.text)

theorem kind_ne_comment {s : Segment} (h : s.shape ≠ .comment) : s.kind ≠ .comment := by
  intro hk
  have hd := s.denotes_kind
  rw [hk] at hd
  obtain ⟨shape, text, fits⟩ := s
  cases shape with
  | blanks | digits => cases hd
  | paren | operator => cases hd
  | letters =>
    obtain ⟨hmem, -⟩ | ⟨he, -⟩ := hd
    · exact absurd hmem (by decide)
    · cases he
  | comment => exact h rfl

theorem text_eq (s : Segment) :
    s.text = if s.kind = .comment then '{' :: (s.content ++ ['}']) else s.content := by
  by_cases hs : s.shape = .comment
  · obtain ⟨shape, text, fits⟩ := s
    cases hs
    obtain ⟨body, -, rfl⟩ := fits
    simp [kind, content]
  · rw [if_neg (kind_ne_comment hs)]
    unfold content
    split
    · contradiction
    · rfl

theorem spelling_token (offset : Nat) (s : Segment) : (s.token offset).spelling = s.text := by
  rw [Token.spelling, text_token, String.toList_ofList, s.text_eq]
  rfl

theorem spelling_tokens (ss : List Segment) (offset : Nat) :
    (tokens offset ss).flatMap Token.spelling = flat ss := by
  induction ss generalizing offset with
  | nil => rfl
  | cons s ss ih => rw [tokens, List.flatMap_cons, spelling_token, ih, flat_cons]

theorem fragment?_tokens (before : List Char) (ss : List Segment) (rest : List Char) :
    ∀ t ∈ tokens (Text.size before) ss,
      t.span.fragment? (before ++ (flat ss ++ rest)) = some t.spelling := by
  intro t ht
  obtain ⟨xs, s, ys, htext, rfl⟩ := exists_place_of_mem_tokens before ss rest t ht
  rw [htext, spelling_token]
  exact Span.fragment?_append xs s.text ys

theorem getLast?_text {s : Segment} (h : s.shape ≠ .operator) :
    ∀ d ∈ s.text.getLast?, isOperator d = false := by
  intro d hd
  refine Bool.eq_false_iff.2 fun ho ↦ ?_
  have hof : Shape.of? d = some .operator := Shape.of?_eq_of_absorbs ho
  by_cases hs : s.shape = .comment
  · have hfits := s.fits
    rw [hs] at hfits
    obtain ⟨body, -, htext⟩ := hfits
    rw [htext, ← List.cons_append, List.getLast?_concat] at hd
    cases hd
    cases hof
  · have hshape := s.fits.of?_eq hs d (List.mem_of_getLast? hd)
    exact h (Option.some.inj (hshape.symm.trans hof))

theorem getLast?_flat {ss : List Segment} {c : Char} {rest : List Char} (h : Apart ss (c :: rest))
    (hc : isOperator c = true) : ∀ d ∈ (flat ss).getLast?, isOperator d = false := by
  induction ss with
  | nil => simp
  | cons s ss ih =>
    intro d hd
    rw [flat_cons, List.getLast?_append] at hd
    cases hl : (flat ss).getLast? with
    | some e =>
      rw [hl, Option.some_or] at hd
      exact ih h.2 d (hl.trans hd)
    | none =>
      rw [hl, Option.none_or] at hd
      have hnil : flat ss = [] := List.getLast?_eq_none_iff.1 hl
      refine getLast?_text (fun hs ↦ ?_) d hd
      have habsorbs := h.1 c (by rw [hnil]; rfl)
      rw [hs] at habsorbs
      cases hc.symm.trans habsorbs

end Segment

theorem Obstacle.blames {fault : LexicalFault} {ss : List Segment} {taken rest : List Char}
    (h : Obstacle fault taken rest) (hs : Segment.Apart ss (taken ++ rest)) :
    fault.Blames (Segment.flat ss) taken rest := by
  cases h with
  | @character c hc rest =>
    unfold Shape.of? at hc
    repeat' split at hc
    all_goals cases hc
    rename_i hblank hdigit hparen hletter hoperator hbrace
    rw [not_or] at hparen
    exact ⟨rfl, Bool.eq_false_iff.2 hblank, Bool.eq_false_iff.2 hdigit, Bool.eq_false_iff.2 hletter,
      Bool.eq_false_iff.2 hoperator, hparen.1, hparen.2, hbrace⟩
  | operators hall long hrest =>
    refine ⟨String.toList_ofList.symm, long, hall, ?_, hrest⟩
    cases taken with
    | nil => simp at long
    | cons c run => exact Segment.getLast?_flat hs (hall c (.head _))
  | openComment hbody => exact ⟨⟨_, rfl, hbody⟩, rfl⟩

/-- The tokens that are yielded for a source text tile it from its start, and the span of each shows
how it is spelled. Without an error they make up the whole text. An error stands right behind them,
on the text that it is about. -/
theorem tokens_tile_source (source : String) (h : source.utf8ByteSize < 4 * 1024 * 1024 * 1024) :
    ∃ ts error, (∀ t, Scanner.Yields source t ↔ t = ⟨ts, error⟩) ∧
      ∃ stop, Span.Tile 0 (ts.map Token.span) stop ∧
        (∀ t ∈ ts, t.span.fragment? source.toList = some t.spelling) ∧
        match error with
        | none => stop = source.utf8ByteSize ∧ ts.flatMap Token.spelling = source.toList
        | some e => ∃ before blamed after, source.toList = before ++ (blamed ++ after) ∧
            Text.size before = stop ∧ e.span = ⟨stop, Text.size blamed⟩ ∧
            e.fault.Blames before blamed after := by
  have hle : source.utf8ByteSize ≤ sourceLimit := by
    rw [sourceLimit]
    omega
  obtain ⟨ss, rest, hcs, hapart, hts, herror⟩ :=
    Tokens.exists_segments_of_scanFrom 0 source.toList
  refine ⟨_, _, fun t ↦ Scanner.yields_iff hle, Text.size (Segment.flat ss), ?_, ?_, ?_⟩
  · rw [hts]
    simpa using Segment.tile_tokens ss 0
  · rw [hts, hcs]
    exact Segment.fragment?_tokens [] ss rest
  · split
    · next he =>
      rw [he] at herror
      subst herror
      rw [List.append_nil] at hcs
      rw [hts, Segment.spelling_tokens, ← hcs, Text.size_toList]
      exact ⟨rfl, rfl⟩
    · next e he =>
      rw [he] at herror
      obtain ⟨taken, more, rfl, ho, hspan⟩ := herror
      exact ⟨_, taken, more, hcs, rfl, by rw [hspan, Nat.zero_add], ho.blames hapart⟩

theorem tokens_tile_source_operators :
    "x\x7bé\x7d+-1".utf8ByteSize < 4 * 1024 * 1024 * 1024 ∧
    ∃ ts, Scanner.Yields "x\x7bé\x7d+-1" ⟨ts, some ⟨.illegalOperator "+-", ⟨5, 2⟩⟩⟩ ∧
      Span.Tile 0 (ts.map Token.span) 5 := by
  obtain ⟨ts, error, hy, stop, ht, -, he⟩ := tokens_tile_source "x\x7bé\x7d+-1" (by decide)
  have hscan : (Tokens.scanFrom 0 "x\x7bé\x7d+-1".toList).error =
      some ⟨.illegalOperator "+-", ⟨5, 2⟩⟩ := by decide +kernel
  have hyields := (hy _).1 ((Scanner.yields_iff (by decide)).2 rfl)
  rw [hyields] at hscan
  subst hscan
  obtain ⟨_, _, _, _, _, hspan, _⟩ := he
  rw [← (Span.mk.inj hspan).1] at ht
  exact ⟨by decide, ts, (hy _).2 rfl, ht⟩

end RegisterLang
