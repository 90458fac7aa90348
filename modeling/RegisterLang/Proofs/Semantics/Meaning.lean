import RegisterLang.Machine.Basic
import RegisterLang.Proofs.Grammar.Tree

namespace RegisterLang

inductive Outcome (ε : Type) where
  | finished
  /-- A `BREAK` is on its way out of the innermost loop. -/
  | left
  | failed (fault : ε)
  /-- A loop has used up its rounds. -/
  | unfinished
  deriving DecidableEq, Repr

namespace Outcome

variable {ε σ : Type}

def andThen : Outcome ε × σ → (σ → Outcome ε × σ) → Outcome ε × σ
  | (finished, s), next => next s
  | stopped, _ => stopped

/-- Repeats a body until it is left, at most a number of times. -/
def rounds (body : σ → Outcome ε × σ) : Nat → σ → Outcome ε × σ
  | 0, s => (unfinished, s)
  | n + 1, s =>
    match body s with
    | (finished, s) => rounds body n s
    | (left, s) => (finished, s)
    | stopped => stopped

def result? : Outcome ε → Option (Except ε Unit)
  | finished => some (.ok ())
  | failed fault => some (.error fault)
  | left | unfinished => none

end Outcome

/-- What a program reads and changes: its variables, the rest of its input, and its output. -/
structure Scene where
  values : String → Int64
  input : List UInt8
  output : String

namespace Scene

def set (s : Scene) (name : String) (value : Int64) : Scene :=
  { s with values := fun other ↦ if other = name then value else s.values other }

def print (s : Scene) (value : Int64) : Scene :=
  { s with output := s.output ++ (Decimal.writeInt64 value ++ "\n") }

/-- Takes a line of input into a variable. A line that is not text is taken, but the run fails. -/
def read (s : Scene) (name : String) : Outcome Machine.Fault × Scene :=
  match readLine s.input with
  | (some line, input) => (.finished, { s with input }.set name (Machine.integerOf line))
  | (none, input) => (.failed (.system .invalidText), { s with input })

def given (s : Scene) (value : Except RuntimeFault Int64)
    (next : Int64 → Outcome Machine.Fault × Scene) : Outcome Machine.Fault × Scene :=
  match value with
  | .ok x => next x
  | .error fault => (.failed (.runtime fault), s)

end Scene

/-- The sign of the values that a condition asks for. -/
def Condition.sign : Condition → Int
  | positive => 1
  | negative => -1
  | zero => 0

theorem Condition.holds_iff_sign (c : Condition) (value : Int64) :
    c.holds value ↔ value.toInt.sign = c.sign := by
  cases c with
  | positive => simp [holds, sign, Int64.lt_iff_toInt_lt, Int.sign_eq_one_iff_pos]
  | negative => simp [holds, sign, Int64.lt_iff_toInt_lt, Int.sign_eq_neg_one_iff_neg]
  | zero => simp [holds, sign, ← Int64.toInt_inj]

namespace Grammar

/-- What the trees of a production stand for. Variables give an expression its value, and the tail
of an expression waits for the value on its left. A statement takes a bound on the rounds of each
loop. -/
@[reducible]
def Meaning : Production → Type
  | .expression | .term | .signed | .factor => (String → Int64) → Except RuntimeFault Int64
  | .moreTerms | .moreFactors => (String → Int64) → Int64 → Except RuntimeFault Int64
  | _ => Nat → Scene → Outcome Machine.Fault × Scene

namespace Tree

def meaning : {p : Production} → Tree p → Meaning p
  | _, program body => body.meaning
  | _, empty => fun _ s ↦ (.finished, s)
  | _, sequence first rest => fun clock s ↦
    Outcome.andThen (first.meaning clock s) (rest.meaning clock)
  | _, conditional condition test body other => fun clock s ↦
    s.given (test.meaning s.values) fun value ↦
      if value.toInt.sign = condition.sign then body.meaning clock s else other.meaning clock s
  | _, loop body => fun clock s ↦ Outcome.rounds (body.meaning clock) clock s
  | _, leave => fun _ s ↦ (.left, s)
  | _, print value => fun _ s ↦ s.given (value.meaning s.values) fun v ↦ (.finished, s.print v)
  | _, read into => into.meaning
  | _, assign name value => fun _ s ↦
    s.given (value.meaning s.values) fun v ↦ (.finished, s.set name v)
  | _, noAlternative => fun _ s ↦ (.finished, s)
  | _, otherwise body => body.meaning
  | _, target name => fun _ s ↦ s.read name
  | _, expression first rest => fun values ↦ do
    rest.meaning values (← first.meaning values)
  | _, noTerms => fun _ left ↦ .ok left
  | _, moreTerms operation _ next rest => fun values left ↦ do
    rest.meaning values (← operation.apply left (← next.meaning values))
  | _, term first rest => fun values ↦ do
    rest.meaning values (← first.meaning values)
  | _, noFactors => fun _ left ↦ .ok left
  | _, moreFactors operation _ next rest => fun values left ↦ do
    rest.meaning values (← operation.apply left (← next.meaning values))
  | _, unsigned factor => factor.meaning
  | _, plus factor => factor.meaning
  | _, minus factor => fun values ↦ return -(← factor.meaning values)
  | _, integer text => fun _ ↦ .ok ((Decimal.readInt64? text.toList).getD 0)
  | _, identifier name => fun values ↦ .ok (values name)
  | _, group inner => inner.meaning

/-- A program ends with a result and leaves a scene behind. One that runs for ever does not end. -/
def Ends (t : Tree .program) (s : Scene) (result : Except Machine.Fault Unit) (s' : Scene) : Prop :=
  ∃ clock outcome, t.meaning clock s = (outcome, s') ∧ outcome.result? = some result

end Tree

end Grammar

end RegisterLang
