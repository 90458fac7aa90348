import RegisterLang.Host.Shell.Builtin.Control
import RegisterLang.Host.Shell.Builtin.Setting
import RegisterLang.Host.Shell.Format
import RegisterLang.Host.Shell.Source
import RegisterLang.Host.System.Load

namespace RegisterLang.Shell

namespace Builtin

def echo (args : List String) : Run Nat := do
  say (Format.echo args)
  return 0

def printf (args : List String) : Run Nat := do
  let (_, operands) ← options "" args
  match operands with
  | [] => refuse "usage: printf format [arg ...]"
  | format :: rest =>
    let printed := Format.printf format rest
    for complaint in printed.complaints ++ printed.fault.toList do complainHere complaint
    say (String.ofList printed.text)
    if printed.fault.isSome then
      setStatus 2
      throw .refused
    return if printed.complaints.isEmpty then 0 else 1

def truth (result : Bool) : Nat := if result then 0 else 1

def test (args : List String) : Run Nat := do
  return truth (← Test.evaluate 5 args)

def bracket (args : List String) : Run Nat := do
  if args.getLast? = some "]" then test args.dropLast else refuse "missing ]"

def times (_ : List String) : Run Nat := do
  say "0m0.000000s 0m0.000000s\n0m0.000000s 0m0.000000s\n"
  return 0

def noJob (_ : List String) : Run Nat := refuse "No current job"

end Builtin

def Process.searchPath (p : Process) : List String :=
  match p.value? "PATH" with
  | some path => path.splitOn ":"
  | none => []

def usualPath : List String :=
  ["/usr/local/sbin", "/usr/local/bin", "/usr/sbin", "/usr/bin", "/sbin", "/bin"]

def firstRunnable (d : Disk) : List String → Nat → SystemFault → Except SystemFault Nat
  | [], _, reason => .error reason
  | path :: rest, n, reason =>
    match d.look (Octet.toText path) with
    | .ok (_, node) =>
      if node.isFile && node.allows .execute then .ok n
      else firstRunnable d rest (n + 1) .notPermitted
    | .error .noSuchFile | .error .notDirectory => firstRunnable d rest (n + 1) reason
    | .error fault => firstRunnable d rest (n + 1) fault

/-- Where a command is found, remembered from the last time if it was. -/
def findCommand (directories : List String) (name : String) : Run (Except SystemFault Nat) := do
  let p ← process
  let usual := directories = p.searchPath
  match if usual then p.found.lookup name else none with
  | some n => return .ok n
  | none =>
    match firstRunnable (← disk) (Strand.candidates directories name) 0 .noSuchFile with
    | .error fault => return .error fault
    | .ok n =>
      if usual then modifyProcess fun p ↦ { p with found := p.found ++ [(name, n)] }
      return .ok n

def commandFault : SystemFault → String
  | .noSuchFile | .notDirectory => "not found"
  | fault => fault.describe

namespace Builtin

def hash (args : List String) : Run Nat := do
  let (found, operands) ← options "r" args
  if found.any (·.1 = 'r') then modifyProcess ({ · with found := [] })
  if operands.isEmpty then
    let p ← process
    unless found.any (·.1 = 'r') do
      for (name, n) in p.found.mergeSort fun a b ↦ Process.group 31 a.1 ≤ Process.group 31 b.1 do
        say (((Strand.candidates p.searchPath name)[n]?).getD name ++ "\n")
    return 0
  else
    let mut status := 0
    for name in operands do
      modifyProcess fun p ↦ { p with found := p.found.filter (·.1 ≠ name) }
      unless name.toList.contains '/' do
        match ← findCommand (← process).searchPath name with
        | .ok _ => pure ()
        | .error fault =>
          complainHere (name ++ ": " ++ commandFault fault)
          status := 1
    return status

/-- The commands that need nothing of the evaluator. -/
def table : List (String × (List String → Run Nat)) :=
  [(":", fun _ ↦ return 0), ("true", fun _ ↦ return 0), ("false", fun _ ↦ return 1), ("echo", echo),
    ("printf", printf), ("test", test), ("[", bracket), ("exit", exit), ("return", leave),
    ("break", leaveLoop), ("continue", nextRound), ("kill", kill), ("trap", trap), ("wait", wait),
    ("read", read), ("export", exportNames), ("readonly", fixNames), ("local", declareLocal),
    ("unset", unset), ("getopts", getOptions), ("set", setCommand), ("shift", shift),
    ("cd", changeDirectory), ("chdir", changeDirectory), ("pwd", printDirectory),
    ("alias", defineAlias), ("unalias", unalias), ("umask", mask), ("times", times),
    ("hash", hash), ("jobs", fun _ ↦ return 0), ("bg", noJob), ("fg", noJob),
    ("ulimit", fun _ ↦ do say "unlimited\n"; return 0)]

/-- The commands that run others. -/
def runners : List String := ["eval", ".", "exec", "command", "type"]

def isBuiltin (name : String) : Bool := runners.contains name || table.any (·.1 = name)

end Builtin

def findFile? (d : Disk) (directories : List String) (name : String) : Option String :=
  (Strand.candidates directories name).find? fun path ↦
    match d.look (Octet.toText path) with
    | .ok (_, node) => node.isFile && node.allows .read
    | .error _ => false

def describe (brief : Bool) (name : String) : Run (Option String) := do
  let p ← process
  if keywords.contains name then
    return some (if brief then name else name ++ " is a shell keyword")
  else
    match p.aliases.lookup name with
    | some text =>
      return some (if brief then "alias " ++ name ++ "=" ++ Builtin.quote text
        else name ++ " is an alias for " ++ text)
    | none =>
      if p.functions.any (·.1 = name) then
        return some (if brief then name else name ++ " is a shell function")
      else if Builtin.isBuiltin name then
        let kind := if isSpecialBuiltin name then "special shell builtin" else "shell builtin"
        return some (if brief then name else name ++ " is a " ++ kind)
      else
        let known := p.found.any (·.1 = name)
        if name.toList.contains '/' then
          if (← disk).holds (Octet.toText name) then
            return some (if brief then name else name ++ " is " ++ name)
          else return none
        else
          match ← findCommand p.searchPath name with
          | .ok n =>
            let path := ((Strand.candidates p.searchPath name)[n]?).getD name
            return some (if brief then path
              else name ++ " is " ++ (if known then "a tracked alias for " else "") ++ path)
          | .error _ => return none

def describeAll (brief : Bool) (names : List String) : Run Nat := do
  let mut status := 0
  for name in names do
    match ← describe brief name with
    | some text => say (text ++ "\n")
    | none =>
      unless brief do say (name ++ ": not found\n")
      status := 127
  return status

end RegisterLang.Shell
