import RegisterLang.Disk.Basic
import RegisterLang.Text.Utf8

namespace RegisterLang

/-- What surrounds a running program: the file tree, the standard streams, and where
commands are found. -/
structure World where
  disk : Disk := {}
  input : List UInt8 := []
  output : String := ""
  errors : List UInt8 := []
  searchPath : List String := ["/usr/bin", "/bin"]

inductive Ending where
  | exited (code : Nat)
  | signaled (signal : Nat)
  deriving DecidableEq, Repr

namespace Ending

def isSuccess (e : Ending) : Bool := e = .exited 0

def code? : Ending → Option Int
  | exited code => some code
  | signaled _ => none

end Ending

namespace World

/-- The time at which a world starts, in nanoseconds since the epoch. -/
def startOfTime : Nat := 1767225600000000000

def empty (here : Place) : World :=
  let disk : Disk := { now := startOfTime }
  { disk := { disk.addDirectory here with here } }

def print (w : World) (text : String) : World := { w with output := w.output ++ text }

def printError (w : World) (text : String) : World :=
  { w with errors := w.errors ++ Utf8.encode text }

end World

end RegisterLang
