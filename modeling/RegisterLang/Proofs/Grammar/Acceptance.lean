import RegisterLang.Proofs.Grammar.Completeness
import RegisterLang.Proofs.Grammar.Soundness

namespace RegisterLang

/-- The words of a source text up to its end or its first lexical error, without blanks and
comments. -/
def Tokens.words (t : Tokens) : List Word := t.significant.tokens.map Token.word

namespace Grammar

/-- A tree of a source text: it derives the start of the text and is not nested too deeply. -/
structure IsTreeOf (tree : Tree .program) (source : String) : Prop where
  derives : tree.words <+: (Tokens.ofSource source).words
  nesting_le : tree.nesting ≤ nestingLimit

variable {σ : Type} {give : σ → Instruction → σ} {start : σ} {source : String}

theorem drive_program (give : σ → Instruction → σ) (start : σ) (tree : Tree .program)
    {ts : List Token} (more : List Token) (hw : ts.map Token.word = tree.words)
    (hd : tree.nesting ≤ nestingLimit) (ending : Option LexicalError) (size : Nat) :
    ∃ s, drive give [.production .program] ⟨ts ++ more, ending, size, 0, start⟩ = (s, .ok ()) ∧
      s.backend = tree.instructions.foldl give start := by
  cases tree with
  | program body =>
    obtain ⟨a, as, rfl, ha, hw⟩ := List.map_eq_cons_iff.1 hw
    obtain ⟨xs, as, rfl, hx, hw⟩ := List.map_eq_append_iff.1 hw
    obtain ⟨z, rfl, hb⟩ := List.map_eq_singleton_iff.1 hw
    have hk : Production.block.Ends ((z :: more).map Token.word) := by
      rw [List.map_cons, hb]
      exact Production.ends_cons_of rfl
    have hz : z.kind = .blockEnd := congrArg Prod.fst hb
    refine ⟨⟨z :: more, ending, size, 0, _⟩, ?_, rfl⟩
    simp only [drive_production, expand, List.cons_append, List.append_assoc, List.nil_append]
    rw [drive_word ha (by simp), drive_give,
      drive_tree body rfl hx hk (by simp) (by simpa [Tree.nesting] using hd)]
    simp [drive, hz]

theorem compile_of_isTreeOf {tree : Tree .program} (h : IsTreeOf tree source) :
    compile give start source = (tree.instructions.foldl give start, .ok ()) := by
  obtain ⟨more, hmore⟩ := h.derives
  obtain ⟨ts, us, hts, hw, -⟩ := List.append_eq_map_iff.1 hmore
  obtain ⟨s, hs, hb⟩ := drive_program give start tree us hw h.nesting_le
    (Tokens.ofSource source).significant.error source.utf8ByteSize
  obtain ⟨-, hn⟩ | ⟨w, ws, hn, -⟩ := tree.words_start
  · cases hn
  · obtain ⟨t, ts, rfl, -⟩ := List.map_eq_cons_iff.1 (hw.trans hn)
    rw [← hts] at hs
    simp only [compile, hts, List.cons_append] at hs ⊢
    rw [hs, hb]

theorem exists_isTreeOf_of_compile {b : σ} (h : compile give start source = (b, .ok ())) :
    ∃ tree, IsTreeOf tree source ∧ b = tree.instructions.foldl give start := by
  unfold compile at h
  simp only at h
  split at h
  · cases h
  · obtain ⟨rfl, hok⟩ := Prod.mk.inj h
    obtain ⟨is, hp, hb⟩ := passes_of_drive (Nat.zero_le _) (Prod.ext rfl hok)
    obtain ⟨tree, taken, more, ht, rfl, hw, hd⟩ := hp.derives_program
    refine ⟨tree, ⟨⟨more.map Token.word, ?_⟩, by simpa using hd⟩, hb⟩
    rw [← hw, ← List.map_append, ← ht]
    rfl

theorem words_prefix_unique {tree other : Tree .program} {ws : List Word}
    (h : tree.words <+: ws) (h' : other.words <+: ws) : tree = other := by
  obtain ⟨xs, hx⟩ := h
  obtain ⟨ys, hy⟩ := h'
  exact (tree.determined other (hx.trans hy.symm) (fun _ _ ↦ rfl) (fun _ _ ↦ rfl)).1

theorem compile_ok_iff : (compile give start source).2 = .ok () ↔ ∃ tree, IsTreeOf tree source := by
  constructor
  · intro h
    obtain ⟨tree, ht, -⟩ := exists_isTreeOf_of_compile (Prod.ext rfl h)
    exact ⟨tree, ht⟩
  · rintro ⟨tree, ht⟩
    rw [compile_of_isTreeOf ht]

theorem instructions_of_isTreeOf {tree : Tree .program} (h : IsTreeOf tree source) :
    (instructions source).1.toList = tree.instructions := by
  rw [instructions, compile_of_isTreeOf h]
  simp

/-- A source text is accepted if and only if a program of the grammar stands at its front, nested no
deeper than the limit. There is only one such program, only one tree of it, and the recorded
instructions are the translation of the tree. -/
theorem instructions_ok_iff_derivable (source : String)
    (h : source.utf8ByteSize < 4 * 1024 * 1024 * 1024) :
    ((instructions source).2 = .ok () ↔
      ∃ tree : Tree .program, tree.words <+: (Tokens.scanFrom 0 source.toList).words ∧
        tree.nesting ≤ nestingLimit) ∧
    ∀ tree : Tree .program, tree.words <+: (Tokens.scanFrom 0 source.toList).words →
      (∀ other : Tree .program, other.words <+: (Tokens.scanFrom 0 source.toList).words →
        other = tree) ∧
      (tree.nesting ≤ nestingLimit → (instructions source).1.toList = tree.instructions) := by
  have hs : Tokens.ofSource source = Tokens.scanFrom 0 source.toList := by
    rw [Tokens.ofSource, if_neg (by rw [sourceLimit]; omega)]
  refine ⟨?_, fun tree ht ↦ ⟨fun other ho ↦ words_prefix_unique ho ht, fun hn ↦ ?_⟩⟩
  · rw [instructions, compile_ok_iff]
    exact exists_congr fun tree ↦
      ⟨fun ht ↦ ⟨hs ▸ ht.derives, ht.nesting_le⟩, fun ht ↦ ⟨hs ▸ ht.1, ht.2⟩⟩
  · exact instructions_of_isTreeOf ⟨hs ▸ ht, hn⟩

theorem instructions_ok_iff_derivable_subtraction :
    "BEGIN PRINT -(x) - 2 END ELSE @".utf8ByteSize < 4 * 1024 * 1024 * 1024 ∧
    (instructions "BEGIN PRINT -(x) - 2 END ELSE @").1.toList =
      [.programStart, .loadVariable "x", .negate, .push, .loadInteger "2", .apply .subtract,
        .print, .programEnd] :=
  ⟨by decide, (((instructions_ok_iff_derivable _ (by decide)).2
    (.program (.sequence (.print (.expression
      (.term (.minus (.group (.expression (.term (.unsigned (.identifier "x")) .noFactors)
        .noTerms))) .noFactors)
      (.moreTerms .subtract rfl (.term (.unsigned (.integer "2")) .noFactors) .noTerms))) .empty))
    (by decide +kernel)).2 (by decide))⟩

end Grammar

end RegisterLang
