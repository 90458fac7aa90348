import RegisterLang.Host.Shell.Signal
import RegisterLang.Host.Shell.Syntax
import RegisterLang.Host.System.Call
import RegisterLang.Host.Text.Octet

namespace RegisterLang.Shell

structure Variable where
  name : String
  value : Option String := none
  exported : Bool := false
  fixed : Bool := false
  deriving DecidableEq, Repr

structure Job where
  id : Nat
  members : List Nat
  status : Option Nat := none

/-- What a shell knows: variables, functions, options, jobs, and where it is. -/
structure Process where
  name : String := "sh"
  arguments : List String := []
  bindings : List Variable := []
  functions : List (String × Command) := []
  aliases : List (String × String) := []
  /-- What is done about signals; zero stands for the end of the shell. An empty action ignores. -/
  traps : List (Nat × String) := []
  deaf : List Nat := []
  options : List Char := []
  status : Nat := 0
  line : Nat := 1
  speaker : Option String := none
  shell : Nat := 0
  parent : Nat := 0
  location : String := "/"
  loops : Nat := 0
  calls : Nat := 0
  setAside : List (List (String × Option Variable)) := []
  outputStatus : Nat := 0
  jobs : List Job := []
  lastJob : Option Nat := none
  found : List (String × Nat) := []
  /-- The descriptors that redirections have taken, and under which number what they led to is kept,
  if they led anywhere. -/
  kept : List (Nat × Option Nat) := []
  reached : Nat := 1
  optionOffset : Option Nat := none
  writeFailed : Bool := false
  documents : List (Nat × Word) := []
  nextDocument : Nat := 0

/-- Why what a shell does is left before its end. -/
inductive Stop where
  | exit (code : Nat)
  | killed (signal : Nat)
  | refused
  | leaveLoop (levels : Nat)
  | nextRound (levels : Nat)
  | leaveFunction
  deriving DecidableEq, Repr

abbrev Run := Strand Process Stop

def process : Run Process := get

def modifyProcess (f : Process → Process) : Run Unit := modify f

def setStatus (status : Nat) : Run Unit := modifyProcess ({ · with status })

def disk : Run Disk := Strand.disk

def attempt {α : Type} (act : Run α) : Run (Except Stop α) := Strand.attempt act

def write (descriptor : Nat) (bytes : ByteArray) : Run Bool := do
  if bytes.isEmpty then return true
  match ← Strand.writeAt descriptor bytes with
  | .ok () => return true
  | .error _ => return false

def say (octets : String) : Run Unit := do
  unless ← write 1 (Octet.toBytes octets) do modifyProcess ({ · with writeFailed := true })

def complain (octets : String) : Run Unit := do
  let _ ← write 2 (Octet.toBytes (octets ++ "\n"))

def complainHere (octets : String) : Run Unit := do
  let p ← process
  let speaker := match p.speaker with
    | some name => name ++ ": "
    | none => ""
  complain (p.name ++ ": " ++ toString p.line ++ ": " ++ speaker ++ octets)

def refuse {α : Type} (octets : String) : Run α := do
  complainHere octets
  setStatus 2
  throw .refused

namespace Process

def lookUp? (p : Process) (name : String) : Option Variable := p.bindings.find? (·.name = name)

def value? (p : Process) (name : String) : Option String := (p.lookUp? name).bind (·.value)

def putVariable (p : Process) (v : Variable) : Process :=
  if (p.lookUp? v.name).isSome then
    { p with bindings := p.bindings.map fun w ↦ if w.name = v.name then v else w }
  else { p with bindings := p.bindings ++ [v] }

def has (p : Process) (option : Char) : Bool := p.options.contains option

def separators (p : Process) : List Char := ((p.value? "IFS").getD " \t\n").toList

def group (count : Nat) (name : String) : Nat :=
  let codes := name.toList.map Char.toNat
  codes.foldl (· + ·) (codes.headD 0 * 16) % count

def environment (p : Process) : List (String × String) :=
  (p.bindings.filterMap fun v ↦ if v.exported then v.value.map (v.name, ·) else none).mergeSort
    fun a b ↦ group 39 a.1 ≤ group 39 b.1

end Process

def assign (name value : String) (exported : Bool := false) : Run Unit := do
  let p ← process
  let old := (p.lookUp? name).getD { name }
  if old.fixed then refuse (name ++ ": is read only")
  else
    modifyProcess (·.putVariable
      { old with value := some value, exported := old.exported || exported || p.has 'a' })
    if name = "OPTIND" then modifyProcess ({ · with optionOffset := none })
    if name = "PATH" then modifyProcess ({ · with found := [] })

def unassign (name : String) : Run Unit := do
  match (← process).lookUp? name with
  | none => return
  | some v =>
    if v.fixed then refuse (name ++ ": is read only")
    else modifyProcess fun p ↦ { p with bindings := p.bindings.filter (·.name ≠ name) }

/-- Gives variables back what they were before. -/
def restore (saved : List (String × Option Variable)) : Run Unit :=
  modifyProcess fun p ↦ saved.foldl (fun p (name, old) ↦
    match old with
    | some v => p.putVariable v
    | none => { p with bindings := p.bindings.filter (·.name ≠ name) }) p

end RegisterLang.Shell
