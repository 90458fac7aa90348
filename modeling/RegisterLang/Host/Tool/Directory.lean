import RegisterLang.Host.Disk.Mode
import RegisterLang.Host.Tool.Options

namespace RegisterLang.Tool

def steps (path : String) : List String :=
  let names := Disk.names path
  let start := if Disk.isAbsolute path then "/" else ""
  (List.range names.length).map fun n ↦ start ++ "/".intercalate (names.take (n + 1))

namespace MakeDirectory

def table : OptionTable :=
  { short := "pm:vZ"
    long := OptionTable.plain [("parents", "p"), ("verbose", "v")] ++
      OptionTable.valued [("mode", "m")] ++ [{ name := "context", key := "Z", need := .maybe }] }

structure Request where
  parents : Bool
  verbose : Bool
  mode : Option Mode.Change
  mask : Nat

def Request.newMode (r : Request) : Nat :=
  match r.mode with
  | some change => change.apply r.mask true 511
  | none => Node.masked 511 r.mask

def refused (path : String) (fault : SystemFault) : Tool Bool := do
  complain ("cannot create directory " ++ cited path ++ ": " ++ fault.describe)
  return false

def announce (r : Request) (path : String) : Tool Unit := do
  if r.verbose then sayLine ((← get).name ++ ": created directory " ++ quoted path)

def ensure (r : Request) (path : String) : Tool Bool := do
  match ← Strand.changeDisk (·.makeDirectory (Octet.toText path)
      (Node.masked 511 r.mask ||| 192)) with
  | .ok () =>
    announce r path
    return true
  | .error fault =>
    match ← look path with
    | .ok (_, node) =>
      if !node.isDirectory then refused path .notDirectory
      else if !node.allows .execute then refused path .notPermitted
      else return true
    | .error _ => refused path fault

/-- Makes each directory that is not there yet, until one cannot be made. -/
def ensureAll (r : Request) : List String → Tool Bool
  | [] => return true
  | path :: rest => do if ← ensure r path then ensureAll r rest else return false

def make (r : Request) (path : String) : Tool Bool := do
  let ready ← if r.parents then ensureAll r (steps path).dropLast else pure true
  if !ready then return false
  match ← Strand.changeDisk (·.makeDirectory (Octet.toText path) r.newMode) with
  | .ok () =>
    announce r path
    return true
  | .error fault =>
    if r.parents && fault = .fileExists && (← isDirectory path) then return true
    else refused path fault

def main (args : List String) : Tool Nat := do
  let (found, operands) ← options table args
  if operands.isEmpty then missingOperand
  let mode ← match found.value? "m" with
    | none => pure none
    | some text =>
      match Mode.Change.parse? text with
      | some change => pure (some change)
      | none => fail 1 ("invalid mode " ++ cited text)
  let r : Request :=
    { parents := found.has "p", verbose := found.has "v", mode, mask := ← mask }
  forAll operands (make r)

end MakeDirectory

namespace RemoveDirectory

def table : OptionTable :=
  { short := "pv"
    long := OptionTable.plain
      [("parents", "p"), ("path", "p"), ("verbose", "v"), ("ignore-fail-on-non-empty", "i")] }

/-- Removes a directory, then those above it as long as they are empty. -/
def removeAll (verbose lenient : Bool) (what : String) : List String → Tool Bool
  | [] => return true
  | path :: rest => do
    if verbose then sayLine ((← get).name ++ ": removing directory, " ++ quoted path)
    match ← Strand.changeDisk (·.removeDirectory (Octet.toText path)) with
    | .ok () => removeAll verbose lenient "directory " rest
    | .error fault =>
      if lenient && (fault = .notEmpty || fault = .fileExists) then return true
      complain ("failed to remove " ++ what ++ quoted path ++ ": " ++ fault.describe)
      return false

def main (args : List String) : Tool Nat := do
  let (found, operands) ← options table args
  if operands.isEmpty then missingOperand
  forAll operands fun operand ↦
    let parents := (steps operand).dropLast.reverse
    removeAll (found.has "v") (found.has "i") ""
      (operand :: if found.has "p" then parents else [])

end RemoveDirectory

namespace Fifo

def table : OptionTable :=
  { short := "m:Z"
    long := OptionTable.valued [("mode", "m")] ++
      [{ name := "context", key := "Z", need := .maybe }] }

def create (path : String) (mode : Nat) : Tool (Except SystemFault Unit) :=
  Strand.call fun id s ↦
    let d := s.diskOf id
    let made : Except SystemFault (System) := do
      let p ← d.locate (Octet.toText path) false
      if (d.get? p).isSome then .error .fileExists
      else
        let (s, number) := s.addPipe { named := true }
        let d ← d.create p { content := .pipe number, mode }
        .ok (s.setDisk d)
    match made with
    | .ok s => (s, .ok ())
    | .error fault => (s, .error fault)

def make (path : String) (mode : Nat) : Tool Bool := do
  match ← create path mode with
  | .ok () => return true
  | .error fault =>
    complain ("cannot create fifo " ++ quoted path ++ ": " ++ fault.describe)
    return false

def modeOf (found : OptionList) : Tool Nat := do
  let mask ← mask
  match found.value? "m" with
  | none => return Node.masked 438 mask
  | some text =>
    match Mode.Change.parse? text with
    | some change => return change.apply mask false 438
    | none => fail 1 "invalid mode"

def main (args : List String) : Tool Nat := do
  let (found, operands) ← options table args
  if operands.isEmpty then missingOperand
  let mode ← modeOf found
  forAll operands (make · mode)

/-- Makes special files by their kind. -/
def mainSpecial (args : List String) : Tool Nat := do
  let (found, operands) ← options table args
  let mode ← modeOf found
  let kind := (operands.getD 1 "").toList.headD ' '
  let wanted := if kind = 'p' then 2 else 4
  if operands.length < wanted && (operands.length < 2 || kind ≠ 'p') then
    match operands.getLast? with
    | none => missingOperand
    | some last =>
      complain ("missing operand after " ++ cited last)
      if operands.length = 2 then
        report "Special files require major and minor device numbers.\n"
      failWithHelp 1 ""
  if let extra :: _ := operands.drop wanted then
    complain ("extra operand " ++ cited extra)
    if kind = 'p' && operands.length = 4 then
      report "Fifos do not have major and minor device numbers.\n"
    failWithHelp 1 ""
  let path := operands.headD ""
  if kind = 'p' then
    match ← create path mode with
    | .ok () => return 0
    | .error fault => fail 1 (quotedIfNeeded path ++ ": " ++ fault.describe)
  else if kind = 'b' || kind = 'c' || kind = 'u' then
    for (text, name) in (operands.drop 2).zip ["major", "minor"] do
      if text.isEmpty || !text.toList.all Char.isDigit then
        fail 1 ("invalid " ++ name ++ " device number " ++ cited text)
    fail 1 (quotedIfNeeded path ++ ": Operation not permitted")
  else failWithHelp 1 ("invalid device type " ++ cited (operands.getD 1 ""))

end Fifo

end RegisterLang.Tool
