import RegisterLang.Instruction

namespace RegisterLang

/-- How a text becomes a program. -/
structure Recipe where
  /-- What the name of the intermediate text ends in. -/
  extension : String
  /-- The command that builds the intermediate text, the first path, into the second. -/
  command : String → String → String

namespace Recipe

def intermediatePath (r : Recipe) (path : String) : String := path ++ r.extension

def buildCommand (r : Recipe) (path : String) : String := r.command (r.intermediatePath path) path

end Recipe

/-- A target language: how each instruction is spelled as a statement, and how the finished text is
built into a program. -/
structure Dialect where
  header : String
  footer : String
  /-- Levels of indentation that the header leaves open. -/
  bodyDepth : Nat
  branch : Condition → String
  otherwise : String
  branchEnd : String
  loopStart : String
  loopEnd : String
  exitLoop : String
  print : String
  read : String → String
  loadVariable : String → String
  loadInteger : String → String
  store : String → String
  push : String
  apply : Operation → String
  negate : String
  recipe : Recipe

namespace Dialect

def indent (depth : Nat) : String := String.ofList (List.replicate (4 * depth) ' ')

def line (depth : Nat) (code : String) : String := indent depth ++ code ++ "\n"

/-- The text of an instruction at a depth, and the depth behind it. -/
def write (d : Dialect) (depth : Nat) : Instruction → String × Nat
  | .programStart => (d.header, d.bodyDepth)
  | .programEnd => (d.footer, 0)
  | .branch condition => (line depth (d.branch condition), depth + 1)
  | .otherwise => (line (depth - 1) d.otherwise, depth - 1 + 1)
  | .branchEnd => (line (depth - 1) d.branchEnd, depth - 1)
  | .loopStart => (line depth d.loopStart, depth + 1)
  | .loopEnd => (line (depth - 1) d.loopEnd, depth - 1)
  | .exitLoop => (line depth d.exitLoop, depth)
  | .print => (line depth d.print, depth)
  | .read name => (line depth (d.read name), depth)
  | .loadVariable name => (line depth (d.loadVariable name), depth)
  | .loadInteger text => (line depth (d.loadInteger text), depth)
  | .store name => (line depth (d.store name), depth)
  | .push => (line depth d.push, depth)
  | .apply operation => (line depth (d.apply operation), depth)
  | .negate => (line depth d.negate, depth)

end Dialect

/-- Text written so far, and the depth at which it goes on. -/
structure Draft where
  text : String := ""
  depth : Nat := 0
  deriving DecidableEq, Repr

namespace Draft

def give (d : Dialect) (draft : Draft) (i : Instruction) : Draft :=
  let (text, depth) := d.write draft.depth i
  ⟨draft.text ++ text, depth⟩

end Draft

end RegisterLang
