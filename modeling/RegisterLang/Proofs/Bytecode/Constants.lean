import RegisterLang.Proofs.Bytecode.Layout
import RegisterLang.Proofs.Text.Numerals

namespace RegisterLang

def Instruction.integer? : Instruction → Option String
  | loadInteger text => some text
  | _ => none

def Op.constant? : Op → Option Int64
  | load value => some value
  | _ => none

def Program.constants (p : Program) : List Int64 := p.ops.toList.filterMap Op.constant?

theorem Condition.keyword_ne_integer (condition : Condition) : condition.keyword ≠ .integer := by
  cases condition <;> simp [keyword]

theorem Operation.kind_ne_integer (operation : Operation) : operation.kind ≠ .integer := by
  cases operation <;> simp [kind]

namespace Grammar

def integers (ws : List Word) : List String :=
  ws.filterMap fun w ↦ if w.1 = .integer then some w.2 else none

@[simp]
theorem integers_nil : integers [] = [] := rfl

@[simp]
theorem integers_append (ws vs : List Word) : integers (ws ++ vs) = integers ws ++ integers vs :=
  List.filterMap_append

@[simp]
theorem integers_cons_integer (text : String) (ws : List Word) :
    integers ((.integer, text) :: ws) = text :: integers ws := rfl

@[simp]
theorem integers_cons_identifier (name : String) (ws : List Word) :
    integers ((.identifier, name) :: ws) = integers ws := rfl

@[simp]
theorem integers_cons_word {k : Kind} (h : k ≠ .integer) (ws : List Word) :
    integers (k.word :: ws) = integers ws := by
  simp [integers, Kind.word, h]

namespace Tree

variable {q : Production}

theorem filterMap_integer?_instructions (t : Tree q) :
    t.instructions.filterMap Instruction.integer? = integers t.words := by
  induction t with
  | program body ih | otherwise body ih | loop body ih =>
    simp [instructions, words, ih, Instruction.integer?, List.filterMap_cons]
  | unsigned factor ih | plus factor ih | group factor ih => simp [instructions, words, ih]
  | empty | noAlternative | noTerms | noFactors | leave | target | identifier | integer =>
    simp [instructions, words, Instruction.integer?]
  | sequence first rest ihf ihr | expression first rest ihf ihr | term first rest ihf ihr =>
    simp [instructions, words, ihf, ihr]
  | conditional condition test body other iht ihb iho =>
    simp [instructions, words, iht, ihb, iho, Instruction.integer?, condition.keyword_ne_integer,
      List.filterMap_cons]
  | print value ih | read value ih | assign _ value ih | minus value ih =>
    simp [instructions, words, ih, Instruction.integer?]
  | moreTerms operation _ next rest ihn ihr | moreFactors operation _ next rest ihn ihr =>
    simp [instructions, words, ihn, ihr, Instruction.integer?, operation.kind_ne_integer,
      List.filterMap_cons]

theorem loadInteger_mem_instructions {t : Tree q} {text : String} :
    .loadInteger text ∈ t.instructions ↔ text ∈ integers t.words := by
  rw [← t.filterMap_integer?_instructions, List.mem_filterMap]
  constructor
  · exact fun h ↦ ⟨_, h, rfl⟩
  · rintro ⟨i, hi, htext⟩
    cases i <;> cases htext
    exact hi

theorem filterMap_constant?_code (t : Tree q) (base exit : Nat) :
    (t.code base exit).filterMap Op.constant? = (integers t.words).map literal := by
  induction t generalizing base exit with
  | program body ih | otherwise body ih | loop body ih =>
    simp [code, words, ih, Op.constant?, List.filterMap_cons]
  | unsigned factor ih | plus factor ih | group factor ih => simp [code, words, ih]
  | empty | noAlternative | noTerms | noFactors | leave | target | identifier | integer =>
    simp [code, words, Op.constant?]
  | sequence first rest ihf ihr | expression first rest ihf ihr | term first rest ihf ihr =>
    simp [code, words, ihf, ihr]
  | conditional condition test body other iht ihb iho =>
    simp [code, words, iht, ihb, iho, Op.constant?, condition.keyword_ne_integer,
      List.filterMap_cons]
  | print value ih | read value ih | assign _ value ih | minus value ih =>
    simp [code, words, ih, Op.constant?]
  | moreTerms operation _ next rest ihn ihr | moreFactors operation _ next rest ihn ihr =>
    simp [code, words, ihn, ihr, Op.constant?, operation.kind_ne_integer, List.filterMap_cons]

theorem toInt_literal {text : String} (h : Decimal.Numeral text.toList)
    (hle : Decimal.valueOf text.toList ≤ 2 ^ 63 - 1) :
    (literal text).toInt = Decimal.valueOf text.toList := by
  have hsome : Decimal.readInt64? text.toList ≠ none := by
    rw [Ne, Decimal.readInt64?_eq_none_iff h]
    omega
  obtain ⟨x, hx⟩ := Option.ne_none_iff_exists'.1 hsome
  rw [literal, hx, Option.getD_some]
  exact (Decimal.readInt64?_eq_some_iff.1 hx).unique (.plain h)

end Tree

end Grammar

end RegisterLang
