import RegisterLang.Host.Disk.Mode
import RegisterLang.Host.Shell.Builtin.Variable
import RegisterLang.Text.Blank

namespace RegisterLang.Shell.Builtin

def optionNames : List (String × Option Char) :=
  [("errexit", some 'e'), ("noglob", some 'f'), ("ignoreeof", some 'I'), ("interactive", some 'i'),
    ("monitor", some 'm'), ("noexec", some 'n'), ("stdin", some 's'), ("xtrace", some 'x'),
    ("verbose", some 'v'), ("vi", some 'V'), ("emacs", some 'E'), ("noclobber", some 'C'),
    ("allexport", some 'a'), ("notify", some 'b'), ("nounset", some 'u'), ("privileged", some 'p'),
    ("nolog", none), ("debug", none)]

def isOption (c : Char) : Bool := optionNames.any (·.2 = some c)

def setOption (on : Bool) (c : Char) : Run Unit :=
  modifyProcess fun p ↦
    let others := p.options.filter (· ≠ c)
    { p with options := if on then c :: others else others }

def listOptions (asCommands : Bool) : Run Unit := do
  let p ← process
  unless asCommands do say "Current option settings\n"
  for (name, letter) in optionNames do
    let on := letter.any p.has
    if asCommands then say ("set " ++ (if on then "-o " else "+o ") ++ name ++ "\n")
    else say (Text.padRight 16 ' ' name ++ (if on then "on" else "off") ++ "\n")

def setNamedOption (on : Bool) (name : String) : Run Unit := do
  match optionNames.lookup name with
  | some (some c) => setOption on c
  | some none => return
  | none => refuse ("Illegal option " ++ (if on then "-o " else "+o ") ++ name)

def setLetters (on : Bool) (next : Option String) : List Char → Run Bool
  | [] => return false
  | c :: cs => do
    if c = 'o' then
      match next with
      | some name =>
        setNamedOption on name
        let _ ← setLetters on none cs
        return true
      | none =>
        listOptions (!on)
        setLetters on none cs
    else if isOption c then
      setOption on c
      setLetters on next cs
    else refuse ("Illegal option " ++ (if on then "-" else "+") ++ c.toString)

def readOptions : List String → Run (Option (List String))
  | [] => return none
  | arg :: rest => do
    match arg.toList with
    | ['-', '-'] => return some rest
    | ['-'] =>
      setOption false 'x'
      setOption false 'v'
      return if rest.isEmpty then none else some rest
    | '-' :: cs =>
      match ← setLetters true rest.head? cs, rest with
      | true, _ :: rest => readOptions rest
      | _, rest => readOptions rest
    | '+' :: cs =>
      match ← setLetters false rest.head? cs, rest with
      | true, _ :: rest => readOptions rest
      | _, rest => readOptions rest
    | _ => return some (arg :: rest)

def setCommand (args : List String) : Run Nat := do
  if args.isEmpty then
    for v in sorted (← process).bindings do
      if let some value := v.value then say (v.name ++ "=" ++ quote value ++ "\n")
  else
    if let some arguments ← readOptions args then
      modifyProcess ({ · with arguments, optionOffset := none })
  return 0

def shift (args : List String) : Run Nat := do
  let n ← match args with
    | [] => pure 1
    | text :: _ => count text
  let p ← process
  if p.arguments.length < n then refuse "can't shift that many"
  else
    modifyProcess fun p ↦ { p with arguments := p.arguments.drop n, optionOffset := none }
    return 0

def physicalPath : Run String :=
  Strand.ask fun id s ↦
    Octet.ofText ("/" ++ "/".intercalate (((s.resident? id).map Resident.here).getD []))

/-- A path from a location, unless it is absolute. -/
def stepFrom (location target : String) : String :=
  let start := if Disk.isAbsolute target then [] else Disk.names location
  let names := (Disk.names target).foldl (fun names name ↦
    if name = "." then names else if name = ".." then names.dropLast else names ++ [name]) start
  "/" ++ "/".intercalate names

/-- Goes to a directory, by its name as given or by where it really is. -/
def enter (target : String) (physical : Bool) : Run Bool := do
  let p ← process
  let path := if physical then target else stepFrom p.location target
  let moved ← Strand.call fun id s ↦
    match (s.diskOf id).look (Octet.toText path) with
    | .ok (place, node) =>
      if node.isDirectory && node.allows .execute then
        (s.modifyResident id ({ · with here := place }), true)
      else (s, false)
    | .error _ => (s, false)
  if moved then
    let location ← if physical then physicalPath else pure path
    let old := p.location
    modifyProcess ({ · with location })
    assign "OLDPWD" old true
    assign "PWD" location true
  return moved

/-- Where a directory is looked for, one after the other. -/
def directoryPath (p : Process) (target : String) : List String :=
  let isDotted := (Disk.names target).head?.any fun name ↦ name = "." || name = ".."
  match p.value? "CDPATH" with
  | some path => if Disk.isAbsolute target || isDotted then [""] else path.splitOn ":" ++ [""]
  | none => [""]

def enterFrom (target : String) (physical back : Bool) : List String → Run Bool
  | [] => return false
  | start :: rest => do
    let path := if start.isEmpty then target else start ++ "/" ++ target
    if ← enter path physical then
      if back || !start.isEmpty then say ((← process).location ++ "\n")
      return true
    else enterFrom target physical back rest

def changeDirectory (args : List String) : Run Nat := do
  let (found, operands) ← options "LP" args
  let p ← process
  let back := operands.head? = some "-"
  let target := match operands with
    | [] => (p.value? "HOME").getD ""
    | text :: _ => if back then (p.value? "OLDPWD").getD "" else text
  if target.isEmpty then return 0
  else if ← enterFrom target (found.getLast?.any (·.1 = 'P')) back (directoryPath p target) then
    return 0
  else refuse ("can't cd to " ++ target)

def printDirectory (args : List String) : Run Nat := do
  let (found, _) ← options "LP" args
  let path ← if found.getLast?.any (·.1 = 'P') then physicalPath else do
    pure (← process).location
  say (path ++ "\n")
  return 0

def defineAlias (args : List String) : Run Nat := do
  let line (name text : String) : String := name ++ "=" ++ quote text ++ "\n"
  if args.isEmpty then
    for (name, text) in (← process).aliases do say (line name text)
    return 0
  else
    let mut status := 0
    for operand in args do
      match splitOperand operand with
      | (name, some text) =>
        modifyProcess fun p ↦ { p with
          aliases := (name, text) :: p.aliases.filter (·.1 ≠ name) }
      | (name, none) =>
        match (← process).aliases.lookup name with
        | some text => say (line name text)
        | none =>
          complain ("alias: " ++ name ++ " not found")
          status := 1
    return status

def unalias (args : List String) : Run Nat := do
  let (found, names) ← options "a" args
  if found.isEmpty then
    let mut status := 0
    for name in names do
      if (← process).aliases.any (·.1 = name) then
        modifyProcess fun p ↦ { p with aliases := p.aliases.filter (·.1 ≠ name) }
      else
        complain ("unalias: " ++ name ++ " not found")
        status := 1
    return status
  else
    modifyProcess ({ · with aliases := [] })
    return 0

def maskLetters (bits : Nat) : String :=
  (if bits / 4 % 2 = 0 then "r" else "") ++ (if bits / 2 % 2 = 0 then "w" else "") ++
    (if bits % 2 = 0 then "x" else "")

def mask (args : List String) : Run Nat := do
  let (found, operands) ← options "S" args
  let m ← Strand.ask fun id s ↦ ((s.resident? id).map Resident.mask).getD 0
  let setMask (mask : Nat) : Run Nat := do
    Strand.call fun id s ↦ (s.modifyResident id ({ · with mask := mask % 512 }), ())
    return 0
  match operands with
  | [] =>
    if found.isEmpty then
      say (Text.padLeft 4 '0' (String.ofList (Nat.toDigits 8 m)) ++ "\n")
    else
      say ("u=" ++ maskLetters (m / 64) ++ ",g=" ++ maskLetters (m / 8) ++ ",o=" ++ maskLetters m ++
        "\n")
    return 0
  | text :: _ =>
    if text.toList.head?.any Char.isDigit then
      match Arithmetic.takeDigits 8 none text.toList with
      | (some n, []) => setMask n
      | _ => refuse ("Illegal number: " ++ text)
    else
      match Mode.Change.parse? text with
      | some change => setMask (511 - change.apply 0 false (511 - m) % 512)
      | none => refuse ("Illegal mode: " ++ text)

end RegisterLang.Shell.Builtin
