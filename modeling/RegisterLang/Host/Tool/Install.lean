import RegisterLang.Host.Tool.Copy
import RegisterLang.Host.Tool.Directory
import RegisterLang.Host.Tool.Owner

namespace RegisterLang.Tool.Install

def table : OptionTable :=
  { short := "bcCdDg:m:o:pst:TvS:Z"
    long := OptionTable.plain
      [("compare", "C"), ("directory", "d"), ("preserve-timestamps", "p"), ("strip", "s"),
        ("no-target-directory", "T"), ("verbose", "v")] ++
      OptionTable.valued
        [("group", "g"), ("mode", "m"), ("owner", "o"), ("suffix", "S"),
          ("target-directory", "t"), ("strip-program", "strip-program")] ++
      [{ name := "backup", key := "backup", need := .maybe }] }

structure Request where
  transfer : Transfer.Request
  mode : Mode.Change
  user : Option Nat := none
  group : Option Nat := none
  compare : Bool := false
  strip : Bool := false
  parents : Bool := false

def Request.modeFor (r : Request) (isDirectory : Bool) : Nat := r.mode.apply 0 isDirectory 0

def makeDirectory (r : Request) (path : String) (mode : Nat) : Tool (Except SystemFault Unit) := do
  let made ← Strand.changeDisk (·.makeDirectory (Octet.toText path) mode)
  if made.toOption.isSome && r.transfer.verbose then
    sayLine ((← get).name ++ ": creating directory " ++ quoted path)
  return made

def ensure (r : Request) : List String → Tool Bool
  | [] => return true
  | path :: rest => do
    match ← makeDirectory r path 493 with
    | .ok () => ensure r rest
    | .error fault =>
      if ← isDirectory path then ensure r rest
      else
        let fault := if ← occupied path then .notDirectory else fault
        complain ("cannot create directory " ++ quoted path ++ ": " ++ fault.describe)
        return false

def setOwner (r : Request) (path : String) : Tool Bool := do
  if r.user.all (· = 1000) && r.group.all (· = 1000) then return true
  complain ("cannot change ownership of " ++ quoted path ++ ": Operation not permitted")
  return false

def setMode (r : Request) (path : String) (isDirectory : Bool) : Tool Bool := do
  match ← Strand.changeDisk (·.setMode (Octet.toText path) (r.modeFor isDirectory)) with
  | .ok () => return true
  | .error fault =>
    complain ("cannot change permissions of " ++ quoted path ++ ": " ++ fault.describe)
    return false

def directory (r : Request) (path : String) : Tool Bool := do
  let all := steps path
  unless ← ensure r all.dropLast do return false
  let made ← makeDirectory r path (r.modeFor true)
  if made.toOption.isNone && (← occupied path) && !(← isDirectory path) then
    complain ("cannot create directory " ++ quoted path ++ ": File exists")
    return false
  unless ← setOwner r path do return false
  setMode r path true

/-- Whether the target is the same already, with the mode it should have. -/
def isInPlace (r : Request) (source target : String) : Tool Bool := do
  match ← look source, ← look target false with
  | .ok (_, node), .ok (_, old) =>
    match node.content, old.content with
    | .file bytes, .file held => return bytes == held && old.mode = r.modeFor false
    | _, _ => return false
  | _, _ => return false

def file (r : Request) (source target : String) : Tool Bool := do
  match ← look source with
  | .error fault =>
    complain ("cannot stat " ++ quoted source ++ ": " ++ fault.describe)
    return false
  | .ok (_, node) =>
    if node.isDirectory then
      complain ("omitting directory " ++ quoted source)
      return false
    if r.compare then
      if ← isInPlace r source target then return true
    let (done, _) ← Transfer.item r.transfer 2 {} true source target
    unless done do return false
    if r.strip then
      let stripped := match node.content with
        | .file bytes => (Node.program? bytes).isSome
        | _ => false
      unless stripped do
        report ("strip: " ++ target ++ ": file format not recognized\n")
        complain "strip process terminated abnormally"
        let _ ← Strand.changeDisk (·.remove (Octet.toText target))
        throw 1
    unless ← setOwner r target do return false
    setMode r target false

def number? (found : OptionList) (key what : String) (known : List (String × Nat)) :
    Tool (Option Nat) := do
  match found.value? key with
  | none => return none
  | some text =>
    match Owner.find? known text with
    | some n => return some n
    | none => fail 1 ("invalid " ++ what ++ " " ++ cited text)

/-- Copies files to a place with a mode of their own. -/
def main (args : List String) : Tool Nat := do
  let (found, operands) ← options table args
  let into := found.value? "t"
  let alone := found.has "T"
  if found.has "d" && found.has "s" then
    fail 1 "the strip option may not be used when installing a directory"
  if found.has "d" && into.isSome then
    fail 1 "target directory not allowed when installing a directory"
  let backup ← Backup.policy found
  if operands.isEmpty then failWithHelp 1 "missing file operand"
  if !found.has "d" && into.isNone && operands.length = 1 then
    failWithHelp 1 ("missing destination file operand after " ++ quoted (operands.headD ""))
  if alone && !found.has "d" then
    if into.isSome then
      fail 1 "cannot combine --target-directory (-t) and --no-target-directory (-T)"
    if operands.length > 2 then extraOperand (operands[2]?.getD "")
  let text := (found.value? "m").getD "755"
  let some mode := Mode.Change.parse? text | fail 1 ("invalid mode " ++ cited text)
  let r : Request :=
    { transfer :=
        { removeFirst := true, dropMode := true, verbose := found.has "v", backup
          keepTimes := found.has "p", mask := ← mask }
      mode
      user := ← number? found "o" "user" Owner.users
      group := ← number? found "g" "group" Owner.groups
      compare := found.has "C", strip := found.has "s", parents := found.has "D" }
  if found.has "d" then
    forAll operands (directory r)
  else
    let sources := if into.isSome then operands else operands.dropLast
    let last := operands.getLastD ""
    if let some path := into then
      if r.parents then
        unless ← ensure r (steps path) do return 1
    let goal ← match into with
      | some path =>
        match ← look path with
        | .ok (_, node) =>
          if node.isDirectory then pure (some path)
          else fail 1 ("target " ++ quoted path ++ ": Not a directory")
        | .error fault => fail 1 ("failed to access " ++ quoted path ++ ": " ++ fault.describe)
      | none =>
        if alone then pure none
        else if ← isDirectory last then pure (some last)
        else if operands.length > 2 then
          let fault := match ← look last with
            | .ok _ => SystemFault.notDirectory
            | .error fault => fault
          fail 1 ("target " ++ quoted last ++ ": " ++ fault.describe)
        else pure none
    forAll sources fun source ↦ do
      match goal with
      | some path => file r source (below path (baseName source))
      | none =>
        if r.parents then
          unless ← ensure r (steps last).dropLast do return false
        file r source last

end RegisterLang.Tool.Install
