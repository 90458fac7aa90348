import RegisterLang.Proofs.Bytecode.Constants
import RegisterLang.Proofs.Machine.Arithmetic
import RegisterLang.Proofs.Semantics.Meaning

namespace RegisterLang

inductive Formula where
  | number (n : Nat)
  | named (name : String)
  | opposite (operand : Formula)
  | operation (operation : Operation) (left right : Formula)
  deriving DecidableEq, Repr

namespace Formula

variable (values : String → Int64)

def value : Formula → Int64
  | number n => Int64.ofInt n
  | named name => values name
  | opposite operand => Int64.ofInt (-operand.value.toInt)
  | operation op left right => Int64.ofInt (op.exact left.value.toInt right.value.toInt)

def dividesByZero : Formula → Bool
  | number _ | named _ => false
  | opposite operand => operand.dividesByZero
  | operation op left right =>
    left.dividesByZero || right.dividesByZero || (op.divides && right.value values = 0)

def evaluate (f : Formula) : Except RuntimeFault Int64 :=
  if f.dividesByZero values then .error .divisionByZero else .ok (f.value values)

theorem evaluate_opposite (f : Formula) :
    (opposite f).evaluate values = (do return -(← f.evaluate values)) := by
  simp only [evaluate, dividesByZero, value, Int64.ofInt_neg, Int64.ofInt_toInt]
  split <;> rfl

theorem evaluate_operation (op : Operation) (f g : Formula) :
    (operation op f g).evaluate values =
      (do op.apply (← f.evaluate values) (← g.evaluate values)) := by
  cases hf : f.dividesByZero values with
  | true => simp [evaluate, dividesByZero, hf, bind, Except.bind]
  | false =>
    cases hg : g.dividesByZero values with
    | true => simp [evaluate, dividesByZero, hf, hg, bind, Except.bind]
    | false =>
      simp [evaluate, dividesByZero, value, hf, hg, apply_eq, bind, Except.bind]

end Formula

namespace Grammar

/-- What the trees of a production stand for as formulas. The tail of an expression waits for the
formula on its left. -/
@[reducible]
def Grouping : Production → Type
  | .expression | .term | .signed | .factor => Formula
  | .moreTerms | .moreFactors => Formula → Formula
  | _ => Unit

/-- The formula of an expression: what binds tighter stands deeper in the tree, and operations of
one level are grouped from the left. -/
def Tree.formula : {q : Production} → Tree q → Grouping q
  | _, expression first rest => rest.formula first.formula
  | _, noTerms => fun left ↦ left
  | _, moreTerms operation _ next rest => fun left ↦
    rest.formula (.operation operation left next.formula)
  | _, term first rest => rest.formula first.formula
  | _, noFactors => fun left ↦ left
  | _, moreFactors operation _ next rest => fun left ↦
    rest.formula (.operation operation left next.formula)
  | _, unsigned factor | _, plus factor => factor.formula
  | _, minus factor => .opposite factor.formula
  | _, integer text => .number (Decimal.valueOf text.toList)
  | _, identifier name => .named name
  | _, group inner => inner.formula
  | _, program _ | _, empty | _, sequence _ _ | _, conditional _ _ _ _ | _, loop _ | _, leave
  | _, print _ | _, read _ | _, assign _ _ | _, noAlternative | _, otherwise _ | _, target _ => ()

def InRange (ws : List Word) : Prop :=
  ∀ text ∈ integers ws, Decimal.Numeral text.toList ∧ Decimal.valueOf text.toList ≤ 2 ^ 63 - 1

instance (ws : List Word) : Decidable (InRange ws) :=
  inferInstanceAs (Decidable (∀ text ∈ integers ws, _ ∧ _))

theorem inRange_append {ws vs : List Word} : InRange (ws ++ vs) ↔ InRange ws ∧ InRange vs := by
  simp only [InRange, integers_append, List.forall_mem_append]

theorem inRange_word {k : Kind} {ws : List Word} (hk : k ≠ .integer)
    (h : InRange (k.word :: ws)) : InRange ws := by
  rwa [InRange, integers_cons_word hk] at h

def Evaluated (values : String → Int64) : {q : Production} → Tree q → Prop
  | .expression, t | .term, t | .signed, t | .factor, t =>
    t.meaning values = t.formula.evaluate values
  | .moreTerms, t | .moreFactors, t => ∀ left : Formula,
    left.evaluate values >>= t.meaning values = (t.formula left).evaluate values
  | _, _ => True

theorem evaluated (values : String → Int64) {q : Production} (t : Tree q) (h : InRange t.words) :
    Evaluated values t := by
  induction t with
  | expression first rest ihf ihr | term first rest ihf ihr =>
    obtain ⟨hf, hr⟩ := inRange_append.1 h
    have hfirst : first.meaning values = first.formula.evaluate values := ihf hf
    calc (first.meaning values >>= rest.meaning values)
      _ = first.formula.evaluate values >>= rest.meaning values := by rw [hfirst]
      _ = (rest.formula first.formula).evaluate values := ihr hr first.formula
  | noTerms | noFactors =>
    intro left
    change left.evaluate values >>= pure = left.evaluate values
    exact bind_pure _
  | moreTerms operation _ next rest ihn ihr | moreFactors operation _ next rest ihn ihr =>
    obtain ⟨hn, hr⟩ := inRange_append.1 (inRange_word operation.kind_ne_integer h)
    have hnext : next.meaning values = next.formula.evaluate values := ihn hn
    intro left
    calc (left.evaluate values >>= fun x ↦
          next.meaning values >>= fun y ↦ operation.apply x y >>= rest.meaning values)
      _ = (Formula.operation operation left next.formula).evaluate values >>=
          rest.meaning values := by simp only [hnext, Formula.evaluate_operation, bind_assoc]
      _ = _ := ihr hr _
  | unsigned factor ih => exact ih h
  | plus factor ih => exact ih (inRange_word (by simp) h)
  | minus factor ih =>
    have hfactor : factor.meaning values = factor.formula.evaluate values :=
      ih (inRange_word (by simp) h)
    change (do return -(← factor.meaning values)) = factor.formula.opposite.evaluate values
    rw [hfactor, Formula.evaluate_opposite]
  | integer text =>
    obtain ⟨hdigits, hle⟩ := h text (by simp [Tree.words])
    have hliteral : Tree.literal text = Int64.ofInt (Decimal.valueOf text.toList) := by
      rw [← Tree.toInt_literal hdigits hle, Int64.ofInt_toInt]
    exact congrArg Except.ok hliteral
  | identifier name => rfl
  | group inner ih =>
    exact ih (inRange_append.1 (inRange_word (by simp) h)).1
  | program | empty | sequence | conditional | loop | leave | print | read | assign |
    noAlternative | otherwise | target => trivial

end Grammar

end RegisterLang
