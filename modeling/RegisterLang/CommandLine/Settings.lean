import RegisterLang.CommandLine.Arguments
import RegisterLang.Failure

namespace RegisterLang.CommandLine

inductive Origin where
  | file (path : String)
  | console
  deriving DecidableEq, Repr

inductive Language where
  | rust
  | swift
  deriving DecidableEq, Repr

inductive Task where
  | tokens
  | listing
  | interpret (stepLimit : Option Nat)
  | display
  | build (path : String) (keepIntermediate runAndDelete : Bool)
  deriving DecidableEq, Repr

structure Settings where
  origin : Origin
  language : Language
  task : Task
  deriving DecidableEq, Repr

def defaultOutput : String := "b.out"

namespace Reading

def origin (r : Reading) : Except InputFault Origin :=
  if r.has .readConsole then .ok .console
  else
    match r.value? .file with
    | some path => .ok (.file path)
    | none => .error .notGiven

def language (r : Reading) : Language :=
  if r.value? .target = some "swift" then .swift else .rust

/-- The first task in the order of tokens, listing, interpreting, display; else building. -/
def task (r : Reading) : Task :=
  if r.has .tokens then .tokens
  else if r.has .listing then .listing
  else if r.has .interpret then
    .interpret ((r.value? .stepLimit).bind fun text ↦ Decimal.readCount? text.toList)
  else if r.has .emitConsole then .display
  else
    .build ((r.value? .output).getD defaultOutput) (r.has .keepIntermediate) (r.has .runAndDelete)

def settings (r : Reading) : Except InputFault Settings := do
  return ⟨← r.origin, r.language, r.task⟩

end Reading

end RegisterLang.CommandLine
