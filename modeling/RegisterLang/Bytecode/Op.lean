import RegisterLang.Text.Decimal
import RegisterLang.Token.Kind

namespace RegisterLang

/-- One op. Jumps go to an index in the program. -/
inductive Op where
  | load (value : Int64)
  | loadVariable (name : String)
  | store (name : String)
  | read (name : String)
  | print
  | push
  | apply (operation : Operation)
  | negate
  | jumpUnless (condition : Condition) (target : Nat)
  | jump (target : Nat)
  | halt
  deriving DecidableEq, Repr

namespace Op

/-- The target of a jump that is not known yet: the last index of a 64-bit machine. -/
def pending : Nat := UInt64.size - 1

def name? : Op → Option String
  | loadVariable name | store name | read name => some name
  | _ => none

def render : Op → String
  | load value => "LOAD   " ++ Decimal.writeInt64 value
  | loadVariable name => "LOADV  " ++ name
  | store name => "STORE  " ++ name
  | read name => "READ   " ++ name
  | print => "PRINT"
  | push => "PUSH"
  | apply operation => "POP    " ++ operation.symbol
  | negate => "NEG"
  | jumpUnless condition target =>
    "JPNOT  " ++ condition.describe ++ ", " ++ Decimal.padZero 4 target
  | jump target => "JP     " ++ Decimal.padZero 4 target
  | halt => "HALT"

def retarget (target : Nat) : Op → Op
  | jumpUnless condition _ => jumpUnless condition target
  | jump _ => jump target
  | op => op

end Op

structure Program where
  ops : Array Op
  deriving DecidableEq, Repr

namespace Program

/-- One line per op, each with its index. -/
def listing (p : Program) : String :=
  String.join <| p.ops.toList.zipIdx.map fun (op, index) ↦
    Decimal.padZero 4 index ++ ": " ++ op.render ++ "\n"

/-- The variables that a program mentions, each once, in order of appearance. -/
def names (p : Program) : List String :=
  (p.ops.toList.filterMap Op.name?).eraseDups

end Program

end RegisterLang
