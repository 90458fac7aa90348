import RegisterLang.Host.Tool.Link

namespace RegisterLang.Tool.Remove

def table : OptionTable :=
  { short := "dfirvIR"
    long := OptionTable.plain
      [("force", "f"), ("dir", "d"), ("recursive", "r"), ("verbose", "v"),
        ("one-file-system", "x"), ("no-preserve-root", "n")] ++
      [{ name := "preserve-root", key := "p", need := .maybe },
        { name := "interactive", key := "interactive", need := .maybe }] }

inductive Asking where
  | never
  | once
  | always
  deriving DecidableEq, Repr

structure Request where
  whole : Bool
  emptyDirectories : Bool
  force : Bool
  verbose : Bool
  asking : Asking

/-- What became of a file, so that its directory can go or must stay. -/
inductive Outcome where
  | removed
  | kept
  | failed
  deriving DecidableEq, Repr

def refused (path reason : String) : Tool Outcome := do
  complain ("cannot remove " ++ quoted path ++ ": " ++ reason)
  return .failed

def kind (node : Node) : String :=
  match node.content with
  | .file bytes => if bytes.isEmpty then "regular empty file" else "regular file"
  | .directory => "directory"
  | .link _ => "symbolic link"
  | .pipe _ => "fifo"
  | .device _ => "character special file"

def take (r : Request) (path : String) (isDirectory : Bool) : Tool Outcome := do
  let result ← Strand.changeDisk fun d ↦
    if isDirectory then d.removeDirectory (Octet.toText path) else d.remove (Octet.toText path)
  match result with
  | .ok () =>
    if r.verbose then
      sayLine ("removed " ++ (if isDirectory then "directory " else "") ++ quoted path)
    return .removed
  | .error fault => refused path fault.describe

/-- Removes a file, or all that a directory holds and then the directory. -/
def remove (r : Request) : Nat → Bool → String → Tool Outcome
  | 0, _, path => refused path "File name too long"
  | n + 1, top, path => do
    match ← look path false with
    | .error fault =>
      if r.force && (fault = .noSuchFile || fault = .notDirectory) then return .removed
      else refused path fault.describe
    | .ok (place, node) =>
      if !node.isDirectory then
        let agreed ← if r.asking = .always then
            consentsTo ("remove " ++ kind node ++ " " ++ quoted path ++ "? ")
          else pure true
        if agreed then take r path false else return .kept
      else
        let children := (← Strand.disk).children place
        if !r.whole && !r.emptyDirectories then refused path "Is a directory"
        else if top && [".", ".."].contains (baseName path) then
          complain ("refusing to remove '.' or '..' directory: skipping " ++ quoted path)
          return .failed
        else if top && place.isEmpty then
          complain ("it is dangerous to operate recursively on " ++ quoted path ++
            (if path = "/" then "" else " (same as '/')"))
          complain "use --no-preserve-root to override this failsafe"
          return .failed
        else if !r.whole then
          let agreed ← if r.asking = .always && children.isEmpty then
              consentsTo ("remove directory " ++ quoted path ++ "? ")
            else pure true
          if agreed then take r path true else return .kept
        else if !(node.allows .read && node.allows .execute) && !children.isEmpty then
          refused path SystemFault.notPermitted.describe
        else
          let enters ← if r.asking = .always && !children.isEmpty then
              consentsTo ("descend into directory " ++ quoted path ++ "? ")
            else pure true
          if !enters then return .kept
          else
            let mut outcome := Outcome.removed
            for name in children do
              match ← remove r n false (below path (Octet.ofText name)) with
              | .removed => pure ()
              | .kept => if outcome = .removed then outcome := .kept
              | .failed => outcome := .failed
            if outcome ≠ .removed then return outcome
            else
              let agreed ← if r.asking = .always then
                  consentsTo ("remove directory " ++ quoted path ++ "? ")
                else pure true
              if agreed then take r path true else return .kept

def hint (args : List String) : Tool Unit := do
  for arg in args do
    if arg.toList.head? = some '-' && arg.length > 1 then
      if ← occupied arg then
        report ("Try '" ++ (← get).name ++ " ./" ++ quotedIfNeeded arg ++ "' to remove the file " ++
          quoted arg ++ ".\n")

def askingOf? : String → Option Asking
  | "never" | "no" | "none" => some .never
  | "once" => some .once
  | "always" | "yes" | "" => some .always
  | _ => none

def main (args : List String) : Tool Nat := do
  let t := table.withHelp
  let (found, operands) ← match t.read (args.length + 1) args with
    | .ok result => pure result
    | .error message =>
      complain message
      hint args
      failWithHelp 1 ""
  if found.has "--help" || found.has "--version" then return 0
  let mut asking := Asking.never
  for (key, value) in found do
    match key with
    | "f" => asking := .never
    | "i" => asking := .always
    | "I" => asking := .once
    | "interactive" =>
      match askingOf? (value.getD "always") with
      | some a => asking := a
      | none =>
        failWithHelp 1 ("invalid argument " ++ cited (value.getD "") ++ " for '--interactive'\n" ++
          "Valid arguments are:\n  - 'never', 'no', 'none'\n  - 'once'\n  - 'always', 'yes'")
    | _ => pure ()
  let r : Request :=
    { whole := found.has "r" || found.has "R", emptyDirectories := found.has "d"
      force := found.last? ["f", "i", "I"] = some "f", verbose := found.has "v", asking }
  if operands.isEmpty then
    if r.force then return 0 else missingOperand
  if asking = .once && (r.whole || operands.length > 3) then
    let count := toString operands.length
    let agreed ← consentsTo ("remove " ++ count ++
      (if operands.length = 1 then " argument" else " arguments") ++
      (if r.whole then " recursively? " else "? "))
    if !agreed then return 0
  forAll operands fun operand ↦ do
    return (← remove r ((← Strand.disk).entries.length + 2) true operand) ≠ .failed

end RegisterLang.Tool.Remove
