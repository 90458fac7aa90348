import RegisterLang.Proofs.Grammar.Words

namespace RegisterLang

namespace Text

theorem append_inj_of_size {xs ys xs' ys' : List Char} (h : xs ++ ys = xs' ++ ys')
    (hsize : size xs = size xs') : xs = xs' := by
  have hcut := cut?_size xs ys
  rw [h, hsize, cut?_size] at hcut
  exact (Prod.mk.inj (Option.some.inj hcut)).1.symm

end Text

namespace Segment

variable {s : Segment} {ss : List Segment} {rest other : List Char}

theorem flat_append (ss more : List Segment) : flat (ss ++ more) = flat ss ++ flat more := by
  simp [flat]

theorem tokens_append (ss more : List Segment) (offset : Nat) :
    tokens offset (ss ++ more) =
      tokens offset ss ++ tokens (offset + Text.size (flat ss)) more := by
  induction ss generalizing offset with
  | nil => rfl
  | cons s ss ih =>
    rw [List.cons_append, tokens, ih, flat_cons, Text.size_append, ← Nat.add_assoc]
    rfl

theorem Apart.change_rest (h : Apart (ss ++ [s]) rest)
    (hother : ∀ c ∈ other.head?, s.shape.absorbs c = false) : Apart (ss ++ [s]) other := by
  induction ss with
  | nil => exact ⟨by simpa using hother, trivial⟩
  | cons u ss ih =>
    have hne : flat (ss ++ [s]) ≠ [] := by
      rw [flat_append]
      simp [s.ne_nil]
    rw [List.cons_append] at h ⊢
    refine ⟨fun c hc ↦ h.1 c ?_, ih h.2⟩
    rw [List.head?_append_of_ne_nil _ hne] at hc ⊢
    exact hc

theorem letters_of_word (h : s.word = Kind.blockEnd.word) : s.shape = .letters := by
  obtain ⟨hkind, hcontent⟩ := Prod.mk.inj h
  have htext : s.text = "END".toList := by
    rw [s.text_eq, hkind, if_neg (by decide), ← String.toList_ofList (l := s.content), hcontent]
    rfl
  obtain ⟨c, cs, hcs, hc⟩ := s.fits.exists_cons
  obtain ⟨rfl, -⟩ := List.cons.inj (hcs.symm.trans htext)
  have hE : Shape.of? 'E' = some .letters := by decide
  exact Option.some.inj (hc.symm.trans hE)

end Segment

namespace Grammar

open Segment

/-- The program that a source text starts with: all of the text up to and including the `END` that
is the last word of its tree. -/
def IsProgramOf (program source : String) : Prop :=
  ∃ (rest : String) (tree : Tree .program) (before : List Token) (last : Token)
    (after : List Token),
    source = program ++ rest ∧ IsTreeOf tree source ∧
    (Tokens.ofSource source).significant.tokens = before ++ last :: after ∧
    (before ++ [last]).map Token.word = tree.words ∧ last.kind = .blockEnd ∧
    last.span.stop = program.utf8ByteSize

variable {source program other : String}

theorem IsProgramOf.unique (h : IsProgramOf program source) (h' : IsProgramOf other source) :
    other = program := by
  obtain ⟨rest, tree, before, last, after, hsource, htree, hts, hwords, -, hstop⟩ := h
  obtain ⟨rest', tree', before', last', after', hsource', htree', hts', hwords', -, hstop'⟩ := h'
  obtain rfl := words_prefix_unique htree.derives htree'.derives
  have hlength : before.length = before'.length := by
    have h := congrArg List.length (hwords.trans hwords'.symm)
    simpa using h
  have hlast : last = last' := by
    have h := List.append_inj_right (hts.symm.trans hts') hlength
    exact (List.cons.inj h).1
  have hsize : Text.size program.toList = Text.size other.toList := by
    rw [Text.size_toList, Text.size_toList, ← hstop, ← hstop', hlast]
  have happend : program.toList ++ rest.toList = other.toList ++ rest'.toList := by
    rw [← String.toList_append, ← String.toList_append, ← hsource, ← hsource']
  exact String.toList_inj.1 (Text.append_inj_of_size happend hsize).symm

theorem Tree.words_program (tree : Tree .program) :
    ∃ ws, tree.words = ws ++ [Kind.blockEnd.word] := by
  cases tree with
  | program body => exact ⟨Kind.programStart.word :: body.words, rfl⟩

theorem IsTreeOf.exists_segments {tree : Tree .program} (h : IsTreeOf tree source) :
    ∃ (before : List Segment) (last : Segment) (after : List Segment) (rest : List Char),
      source.toList = flat (before ++ [last]) ++ (flat after ++ rest) ∧
      Apart (before ++ [last]) [] ∧
      (Tokens.ofSource source).tokens = Segment.tokens 0 (before ++ [last] ++ after) ∧
      words (before ++ [last]) = tree.words ∧ last.word = Kind.blockEnd.word := by
  obtain ⟨ss, rest, hcs, hapart, hts⟩ := Tokens.exists_segments_of_ofSource source
  have hwords : (Tokens.ofSource source).words = words ss := by
    rw [← words_tokens ss 0 (Tokens.ofSource source).error, ← hts]
  have hderives := h.derives
  rw [hwords] at hderives
  obtain ⟨cut, after, rfl, hcut, hlast⟩ := exists_cut ss hderives.length_le
  rw [← List.prefix_iff_eq_take.1 hderives] at hcut
  obtain ⟨ws, hws⟩ := tree.words_program
  obtain rfl | ⟨before, last, rfl⟩ := List.eq_nil_or_concat' cut
  · rw [hws] at hcut
    simp [words] at hcut
  · have hskip : last.kind.isSkippable = false := hlast last (by simp)
    refine ⟨before, last, after, rest, ?_, ?_, hts, hcut, ?_⟩
    · rw [hcs, flat_append, List.append_assoc]
    · exact apart_nil_iff.2 (apart_nil_iff.1 hapart.nil).left_of_append
    · rw [hws, words_append, words_cons hskip] at hcut
      exact (List.append_singleton_inj.1 hcut).2

theorem isProgramOf_of_segments {tree : Tree .program} {before after : List Segment}
    {last : Segment}
    {rest : List Char} (htree : IsTreeOf tree source)
    (hcs : source.toList = flat (before ++ [last]) ++ rest)
    (hts : (Tokens.ofSource source).tokens = Segment.tokens 0 (before ++ [last] ++ after))
    (hwords : words (before ++ [last]) = tree.words) (hlast : last.word = Kind.blockEnd.word) :
    IsProgramOf (String.ofList (flat (before ++ [last]))) source := by
  have hkind : last.kind = .blockEnd := congrArg Prod.fst hlast
  have hskip : (!(last.token (Text.size (flat before))).kind.isSkippable) = true := by
    rw [token, hkind]
    rfl
  refine ⟨String.ofList rest, tree,
    (Segment.tokens 0 before).filter fun t ↦ !t.kind.isSkippable,
    last.token (Text.size (flat before)),
    (Segment.tokens (Text.size (flat (before ++ [last]))) after).filter fun t ↦ !t.kind.isSkippable,
    ?_, htree, ?_, ?_, hkind, ?_⟩
  · rw [← String.ofList_append, ← hcs, String.ofList_toList]
  · rw [Tokens.significant, hts, tokens_append, tokens_append, List.filter_append,
      List.filter_append, Nat.zero_add, Nat.zero_add]
    simp [Segment.tokens, hskip]
  · rw [← hwords, ← words_tokens (before ++ [last]) 0 none, Tokens.words, Tokens.significant,
      tokens_append, List.filter_append, Nat.zero_add]
    simp [Segment.tokens, hskip]
  · rw [Text.utf8ByteSize_ofList, flat_append, Text.size_append, flat_cons, flat_nil,
      List.append_nil]
    rfl

theorem isTreeOf_append {tree : Tree .program} {before : List Segment} {last : Segment}
    {t : String} (hnesting : tree.nesting ≤ nestingLimit) (hapart : Apart (before ++ [last]) [])
    (hwords : words (before ++ [last]) = tree.words) (hlast : last.word = Kind.blockEnd.word)
    (ht : ∀ c ∈ t.toList.head?, Lexeme.isLetter c = false)
    (hsize : (String.ofList (flat (before ++ [last])) ++ t).utf8ByteSize ≤ sourceLimit) :
    IsTreeOf tree (String.ofList (flat (before ++ [last])) ++ t) := by
  have hrest : ∀ c ∈ t.toList.head?, last.shape.absorbs c = false := by
    rw [letters_of_word hlast]
    exact ht
  have hscan := Tokens.scanFrom_flat (hapart.change_rest hrest) 0
  refine ⟨?_, hnesting⟩
  rw [Tokens.ofSource, if_neg (Nat.not_lt.2 hsize), String.toList_append, String.toList_ofList,
    hscan, ← hwords, ← words_tokens (before ++ [last]) 0 none]
  simp [Tokens.words, Tokens.significant]

/-- Every text that is accepted starts with one program, which ends with an `END`. Whatever is
written behind that word, as long as no letter makes it longer, is never looked at: the text is
accepted with the same instructions, and so with the same op code and the same text in every target
language. -/
theorem text_behind_program_is_not_read (source : String) (h : (instructions source).2 = .ok ()) :
    ∃ program, IsProgramOf program source ∧ (∀ other, IsProgramOf other source → other = program) ∧
      ∀ t : String, (∀ c ∈ t.toList.head?, Lexeme.isLetter c = false) →
        (program ++ t).utf8ByteSize < 4 * 1024 * 1024 * 1024 →
        (instructions (program ++ t)).2 = .ok () ∧
        instructions (program ++ t) = instructions source ∧
        assemble (program ++ t) = assemble source ∧
        ∀ d : Dialect, renderIn d (program ++ t) = renderIn d source := by
  obtain ⟨tree, htree⟩ := compile_ok_iff.1 h
  obtain ⟨before, last, after, rest, hcs, hapart, hts, hwords, hlast⟩ := htree.exists_segments
  have hprogram := isProgramOf_of_segments htree hcs hts hwords hlast
  refine ⟨_, hprogram, fun other ho ↦ hprogram.unique ho, fun t ht hsize ↦ ?_⟩
  have hsize' : (String.ofList (flat (before ++ [last])) ++ t).utf8ByteSize ≤ sourceLimit := by
    rw [sourceLimit]
    omega
  have htree' := isTreeOf_append htree.nesting_le hapart hwords hlast ht hsize'
  have hcompile {σ : Type} (give : σ → Instruction → σ) (start : σ) :
      compile give start (String.ofList (flat (before ++ [last])) ++ t) =
        compile give start source := by
    rw [compile_of_isTreeOf htree', compile_of_isTreeOf htree]
  refine ⟨?_, hcompile .., ?_, fun d ↦ ?_⟩
  · rw [instructions, hcompile]
    exact h
  · rw [assemble, assemble, hcompile]
  · rw [renderIn, renderIn, hcompile]

theorem text_behind_program_is_not_read_unclosed :
    (instructions "BEGIN LOOP BREAK END END BEGIN END").2 = .ok () ∧
    instructions "BEGIN LOOP BREAK END END+-@\x7bé" =
      instructions "BEGIN LOOP BREAK END END BEGIN END" ∧
    assemble "BEGIN LOOP BREAK END END+-@\x7bé" =
      assemble "BEGIN LOOP BREAK END END BEGIN END" := by
  have htree : IsTreeOf (.program (.sequence (.loop (.sequence .leave .empty)) .empty))
      "BEGIN LOOP BREAK END END BEGIN END" := ⟨by decide +kernel, by decide⟩
  have h : (instructions "BEGIN LOOP BREAK END END BEGIN END").2 = .ok () :=
    compile_ok_iff.2 ⟨_, htree⟩
  obtain ⟨program, -, hunique, hbehind⟩ := text_behind_program_is_not_read _ h
  have hprogram : IsProgramOf "BEGIN LOOP BREAK END END" "BEGIN LOOP BREAK END END BEGIN END" := by
    refine ⟨" BEGIN END", _,
      (Tokens.ofSource "BEGIN LOOP BREAK END END BEGIN END").significant.tokens.take 4,
      ⟨.blockEnd, ⟨21, 3⟩, ""⟩,
      (Tokens.ofSource "BEGIN LOOP BREAK END END BEGIN END").significant.tokens.drop 5,
      ?_, htree, ?_, ?_, rfl, ?_⟩ <;> decide +kernel
  obtain rfl := hunique _ hprogram
  have hsame := hbehind "+-@\x7bé" (by simp [Lexeme.isLetter]) (by decide)
  exact ⟨h, hsame.2.1, hsame.2.2.1⟩

end Grammar

end RegisterLang
