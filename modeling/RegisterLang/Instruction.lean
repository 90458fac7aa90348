import RegisterLang.Token.Kind

namespace RegisterLang

/-- What the grammar tells a backend, in the order of the program text. Instructions address an
abstract machine with one register, a stack for intermediate results, and named variables. -/
inductive Instruction where
  | programStart
  | programEnd
  | branch (condition : Condition)
  | otherwise
  | branchEnd
  | loopStart
  | loopEnd
  | exitLoop
  | print
  | read (name : String)
  | loadVariable (name : String)
  | loadInteger (text : String)
  | store (name : String)
  | push
  | apply (operation : Operation)
  | negate
  deriving DecidableEq, Repr

end RegisterLang
