import RegisterLang.Dialect.Target
import RegisterLang.Proofs.Grammar.Discipline
import RegisterLang.Proofs.Token.Scan

namespace RegisterLang

def Instruction.Worded : Instruction → Prop
  | .read name | .loadVariable name | .store name => Kind.identifier.Spells name
  | .loadInteger text => Kind.integer.Spells text
  | _ => True

namespace Instruction

def outdent : Instruction → Nat
  | .otherwise | .branchEnd | .loopEnd => 1
  | _ => 0

def indent : Instruction → Nat
  | .branch _ | .loopStart | .otherwise => 1
  | _ => 0

end Instruction

namespace Grammar

/-- Items that give well worded instructions, or that ask first for a token which is not ahead. -/
def Stated (items : List Item) (ahead : Option Token) : Prop :=
  (∀ i, .give i ∈ items → i.Worded) ∨
    ∃ kind rest, items = .token kind :: rest ∧ ahead.map Token.kind ≠ some kind

theorem spells_text {t : Token} {kind : Kind} (h : t.kind.Spells t.value) (hk : t.kind = kind)
    (hl : kind.literal = none) : kind.Spells t.text := by
  subst hk
  simpa [Token.text, hl] using h

theorem stated_of_kind {kind : Kind} {rest : List Item} {t : Token}
    (h : t.kind = kind → ∀ i, .give i ∈ rest → i.Worded) :
    Stated (.token kind :: rest) (some t) := by
  by_cases hk : t.kind = kind
  · refine .inl fun i hi ↦ h hk i ?_
    simpa using hi
  · exact .inr ⟨kind, rest, rfl, by simpa using hk⟩

theorem stated_statementItems {t : Token} (h : t.kind.Spells t.value) :
    Stated (statementItems t) (some t) := by
  unfold statementItems
  split
  · exact .inl (by simp [conditional, Instruction.Worded])
  · exact .inl (by simp [loopStatement, Instruction.Worded])
  · exact .inl (by simp [Instruction.Worded])
  · exact .inl (by simp [Instruction.Worded])
  · exact .inl (by simp)
  · refine stated_of_kind fun hk i hi ↦ ?_
    obtain rfl : i = .store t.text := by simpa using hi
    exact spells_text h hk rfl

theorem stated_expand (p : Production) {ahead : Option Token}
    (h : ∀ t, ahead = some t → t.kind.Spells t.value) : Stated (expand p ahead) ahead := by
  cases p with
  | program => exact .inl (by simp [expand, Instruction.Worded])
  | expression | term => exact .inl (by simp [expand])
  | block =>
    refine .inl ?_
    simp only [expand]
    split
    · simp
    · split <;> simp
  | statement =>
    cases ahead with
    | none => exact .inl (by simp [expand])
    | some t => exact stated_statementItems (h t rfl)
  | alternative | signed =>
    refine .inl ?_
    simp only [expand]
    split <;> simp [Instruction.Worded]
  | readTarget =>
    cases ahead with
    | none => exact .inl (by simp [expand])
    | some t =>
      refine stated_of_kind fun hk i hi ↦ ?_
      obtain rfl : i = .read t.text := by simpa using hi
      exact spells_text (h t rfl) hk rfl
  | moreTerms | moreFactors =>
    refine .inl ?_
    simp only [expand]
    split <;> simp [operatorTail, Instruction.Worded]
  | factor =>
    cases ahead with
    | none => exact .inl (by simp [expand, parenthesised])
    | some t =>
      simp only [expand]
      split
      · refine stated_of_kind fun hk i hi ↦ ?_
        obtain rfl : i = .loadInteger t.text := by simpa using hi
        exact spells_text (h t rfl) hk rfl
      · refine stated_of_kind fun hk i hi ↦ ?_
        obtain rfl : i = .loadVariable t.text := by simpa using hi
        exact spells_text (h t rfl) hk rfl
      · exact .inl (by simp [parenthesised])

theorem Stated.worded {item : Item} {items : List Item} {ahead : Option Token}
    (h : Stated (item :: items) ahead)
    (hi : ∀ kind, item = .token kind → ahead.map Token.kind = some kind) :
    ∀ i, .give i ∈ item :: items → i.Worded := by
  obtain h | ⟨kind, rest, hitems, hne⟩ := h
  · exact h
  · cases hitems
    exact absurd (hi kind rfl) hne

theorem stated_append {items more : List Item} {ahead : Option Token} (h : Stated items ahead)
    (hm : ∀ i, .give i ∈ more → i.Worded) : Stated (items ++ more) ahead := by
  obtain h | ⟨kind, rest, rfl, hne⟩ := h
  · refine .inl fun i hi ↦ ?_
    obtain hi | hi := List.mem_append.1 hi
    · exact h i hi
    · exact hm i hi
  · exact .inr ⟨kind, rest ++ more, rfl, hne⟩

theorem Runs.worded {ending : Option LexicalError} {size depth : Nat} {items : List Item}
    {ts left : List Token} {is : List Instruction} {result : Except SourceError Unit}
    (h : Runs ending size items depth ts is left result)
    (hts : ∀ t ∈ ts, t.kind.Spells t.value) (hitems : Stated items ts.head?) :
    ∀ i ∈ is, i.Worded := by
  induction h with
  | done | tooDeep | broken | unmet => exact List.forall_mem_nil _
  | @give i items depth ts left is result _ ih =>
    have hw := hitems.worded (by simp)
    refine List.forall_mem_cons.2 ⟨hw i (.head _), ih hts (.inl fun j hj ↦ hw j (.tail _ hj))⟩
  | enter _ _ ih | leave _ ih | sight _ ih =>
    have hw := hitems.worded (by simp)
    exact ih hts (.inl fun j hj ↦ hw j (.tail _ hj))
  | token _ _ ih =>
    have hw := hitems.worded (by simp)
    exact ih (List.forall_mem_cons.1 hts).2 (.inl fun j hj ↦ hw j (.tail _ hj))
  | @production p items depth ts left is result _ ih =>
    have hw := hitems.worded (by simp)
    refine ih hts (stated_append (stated_expand p fun t ht ↦ ?_) fun j hj ↦ hw j (.tail _ hj))
    exact hts t (List.mem_of_head? ht)

theorem worded_of_mem_instructions (source : String) :
    ∀ i ∈ (instructions source).1.toList, i.Worded := by
  obtain ⟨is, left, result, h⟩ := exists_reading source
  rw [h.instructions_eq]
  cases h with
  | refused => exact List.forall_mem_nil _
  | run hread _ h =>
    subst hread
    refine h.worded (fun t ht ↦ ?_) (.inl (by simp))
    exact Tokens.spells_of_mem_ofSource (List.mem_filter.1 ht).1

end Grammar

namespace Dialect

def code (d : Dialect) : Instruction → String
  | .programStart => d.header
  | .programEnd => d.footer
  | .branch condition => d.branch condition
  | .otherwise => d.otherwise
  | .branchEnd => d.branchEnd
  | .loopStart => d.loopStart
  | .loopEnd => d.loopEnd
  | .exitLoop => d.exitLoop
  | .print => d.print
  | .read name => d.read name
  | .loadVariable name => d.loadVariable name
  | .loadInteger text => d.loadInteger text
  | .store name => d.store name
  | .push => d.push
  | .apply operation => d.apply operation
  | .negate => d.negate

theorem write_eq (d : Dialect) (depth : Nat) {i : Instruction} (hs : i ≠ .programStart)
    (he : i ≠ .programEnd) :
    d.write depth i = (line (depth - i.outdent) (d.code i), depth - i.outdent + i.indent) := by
  cases i <;> first | rfl | contradiction

structure IsStatement (code : String) : Prop where
  newline_notMem : '\n' ∉ code.toList
  head_ne : ∃ c, code.toList.head? = some c ∧ c ≠ ' '

theorem newline_notMem_of_letters {name : String} (h : Kind.identifier.Spells name) :
    '\n' ∉ name.toList :=
  fun hn ↦ absurd (h.2 _ hn) (by decide)

theorem newline_notMem_of_digits {text : String} (h : Kind.integer.Spells text) :
    '\n' ∉ text.toList :=
  fun hn ↦ absurd (h.2 _ hn) (by decide)

section

variable {c : Char} {cs : List Char} {code more : String}

/-- Characters are compared one by one here, so that the bytes of a literal need not be decoded. -/
theorem newline_notMem_ofList (h : '\n' ∉ cs) : '\n' ∉ (String.ofList cs).toList := by
  rwa [String.toList_ofList]

theorem isStatement_ofList (h : '\n' ∉ c :: cs) (hc : c ≠ ' ') :
    IsStatement (String.ofList (c :: cs)) :=
  ⟨newline_notMem_ofList h, c, by rw [String.toList_ofList]; rfl, hc⟩

theorem IsStatement.append (h : IsStatement code) (hm : '\n' ∉ more.toList) :
    IsStatement (code ++ more) := by
  obtain ⟨hn, c, hc, hne⟩ := h
  exact ⟨by simp [hn, hm], c, by simp [hc], hne⟩

end

def Lined (d : Dialect) : Prop :=
  ∀ i : Instruction, i ≠ .programStart → i ≠ .programEnd → i.Worded → IsStatement (d.code i)

theorem lined {d : Dialect} (hd : d = rust ∨ d = swift) : d.Lined := by
  intro i hs he h
  cases i with
  | programStart => exact absurd rfl hs
  | programEnd => exact absurd rfl he
  | branch condition =>
    obtain rfl | rfl := hd <;> cases condition <;>
      exact ((isStatement_ofList (by decide) (by decide)).append
        (newline_notMem_ofList (by decide))).append (newline_notMem_ofList (by decide))
  | apply operation =>
    obtain rfl | rfl := hd <;> cases operation <;>
      exact ((isStatement_ofList (by decide) (by decide)).append
        (newline_notMem_ofList (by decide))).append (newline_notMem_ofList (by decide))
  | otherwise | branchEnd | loopStart | loopEnd | exitLoop | print | push | negate =>
    obtain rfl | rfl := hd <;> exact isStatement_ofList (by decide) (by decide)
  | read | loadVariable | store =>
    have hn := newline_notMem_of_letters h
    obtain rfl | rfl := hd <;>
      exact ((isStatement_ofList (by decide) (by decide)).append hn).append
        (newline_notMem_ofList (by decide))
  | loadInteger =>
    have hn := newline_notMem_of_digits h
    obtain rfl | rfl := hd
    · exact ((isStatement_ofList (by decide) (by decide)).append hn).append
        (newline_notMem_ofList (by decide))
    · exact (isStatement_ofList (by decide) (by decide)).append hn

end Dialect

end RegisterLang
