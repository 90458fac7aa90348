import RegisterLang.Host.Tool.Path

namespace RegisterLang.Tool

def consents (question : String) : Tool Bool := do
  report question
  let answer ← iterate (fun sofar ↦ do
    match ← Strand.readLineAt 0 with
    | .error _ => return .inr sofar
    | .ok bytes =>
      let text := sofar ++ Octet.ofBytes bytes
      if bytes.isEmpty || text.toList.getLast? = some '\n' then return .inr text
      else return .inl text) ""
  return answer.toList.head?.any fun c ↦ c = 'y' || c = 'Y'

def consentsTo (question : String) : Tool Bool := do
  consents ((← get).name ++ ": " ++ question)

namespace Backup

/-- Whether and how what is replaced gets another name first. -/
structure Policy where
  wanted : Bool := false
  numbered : Option Bool := none
  suffix : String := "~"

def policy (found : OptionList) : Tool Policy := do
  let control := match found.value? "backup" with
    | some text => some text
    | none => none
  let suffix := (found.value? "S").orElse fun _ ↦ none
  let fromEnvironment ← setting? "VERSION_CONTROL"
  let words := (control.orElse fun _ ↦ fromEnvironment).getD "existing"
  let numbered ← match words with
    | "none" | "off" => pure none
    | "numbered" | "t" => pure (some (some true))
    | "simple" | "never" => pure (some (some false))
    | "existing" | "nil" => pure (some none)
    | other =>
      failWithHelp 1 ("invalid argument " ++ cited other ++ " for 'backup type'\n" ++
        "Valid arguments are:\n  - 'none', 'off'\n  - 'simple', 'never'\n" ++
        "  - 'existing', 'nil'\n  - 'numbered', 't'")
  let wanted := found.any fun o ↦ o.1 = "b" || o.1 = "backup" || o.1 = "S"
  return { wanted := wanted && numbered.isSome
           numbered := numbered.getD none
           suffix := (suffix.filter fun s ↦ !s.isEmpty).getD "~" }

def number? (path name : String) : Option Nat :=
  let start := path ++ ".~"
  if start.toList.isPrefixOf name.toList && name.toList.getLast? = some '~' then
    (String.ofList ((name.toList.drop start.length).dropLast)).toNat?
  else none

def nameFor (policy : Policy) (path : String) : Tool String := do
  let directory := dirName path
  let names := (((← Strand.disk).list (Octet.toText directory)).toOption.map (·.2)).getD []
  let numbers := names.filterMap fun name ↦ number? (baseName path) (Octet.ofText name)
  let highest := numbers.foldl max 0
  if policy.numbered.getD (!numbers.isEmpty) then
    return path ++ ".~" ++ toString (highest + 1) ++ "~"
  else return path ++ policy.suffix

end Backup

namespace Link

def table : OptionTable :=
  { short := "bdfinrst:vFLPS:T"
    long := OptionTable.plain
      [("directory", "d"), ("no-dereference", "n"), ("no-target-directory", "T"), ("force", "f"),
        ("interactive", "i"), ("logical", "L"), ("physical", "P"), ("relative", "r"),
        ("symbolic", "s"), ("verbose", "v")] ++
      OptionTable.valued [("suffix", "S"), ("target-directory", "t")] ++
      [{ name := "backup", key := "backup", need := .maybe }] }

structure Request where
  symbolic : Bool
  force : Bool
  interactive : Bool
  verbose : Bool
  relative : Bool
  follow : Bool
  directories : Bool
  backup : Backup.Policy

def failure (r : Request) (source target : String) (fault : SystemFault) : Tool Bool := do
  let both := if r.symbolic then source.isEmpty || fault = .nameTooLong
    else fault ≠ .fileExists && fault ≠ .noSpace
  complain ("failed to create " ++ (if r.symbolic then "symbolic" else "hard") ++ " link " ++
    quoted target ++ (if both then (if r.symbolic then " -> " else " => ") ++ quoted source else "")
    ++ ": " ++ fault.describe)
  return false

def create (r : Request) (source target : String) : Tool (Except SystemFault Unit) :=
  Strand.changeDisk fun d ↦
    if r.symbolic then d.symbolicLink (Octet.toText source) (Octet.toText target)
    else d.link (Octet.toText source) (Octet.toText target) r.follow

def identity (path : String) (follow : Bool) : Tool (Option (Ref × Nat)) := do
  let d ← Strand.disk
  match d.look (Octet.toText path) follow with
  | .ok (p, node) => return (d.ref? p).map fun ref ↦ (ref, d.nameCount p node)
  | .error _ => return none

/-- Gives a file one further name, in place of what has it if that is wanted. -/
def linkTo (r : Request) (source target : String) : Tool Bool := do
  let state ← look source r.follow
  match r.symbolic, state with
  | false, .error fault =>
    complain ("failed to access " ++ quoted source ++ ": " ++ fault.describe)
    return false
  | _, _ =>
  if !r.symbolic && (state.toOption.any fun (_, n) ↦ n.isDirectory) && !r.directories then
    complain (quotedIfNeeded source ++ ": hard link not allowed for directory")
    return false
  let source ← if r.relative && r.symbolic then do
      let d ← Strand.disk
      match canonical d .nothing source, canonical d .nothing (dirName target) with
      | .ok goal, .ok start => pure (relativePath start goal)
      | _, _ => pure source
    else pure source
  let tell : Tool Bool := do
    if r.verbose then
      sayLine (quoted target ++ (if r.symbolic then " -> " else " => ") ++ quoted source)
    return true
  match ← create r source target with
  | .ok () => tell
  | .error fault =>
    if fault ≠ .fileExists || !(r.force || r.interactive || r.backup.wanted) then
      failure r source target fault
    else
      match ← look target false with
      | .error fault => failure r source target fault
      | .ok (_, node) =>
        if node.isDirectory then
          complain (quotedIfNeeded target ++ ": cannot overwrite directory")
          return false
        let a ← identity source true
        let b ← identity target false
        let same := match a, b with
          | some (a, n), some (b, _) => a = b && (n = 1 || baseName source = baseName target)
          | _, _ => false
        if r.force && same then
          complain (quoted source ++ " and " ++ quoted target ++ " are the same file")
          return false
        let goes ← if r.interactive then consentsTo ("replace " ++ quoted target ++ "? ")
          else pure true
        if !goes then return false
        if r.backup.wanted then
          let kept ← Backup.nameFor r.backup target
          let _ ← Strand.changeDisk (·.rename (Octet.toText target) (Octet.toText kept))
        else
          let _ ← Strand.changeDisk (·.remove (Octet.toText target))
        match ← create r source target with
        | .ok () => tell
        | .error fault => failure r source target fault

/-- What is to be linked, and the directory or the name for it. -/
def arrange (found : OptionList) (operands : List String) :
    Tool (List String × (String ⊕ String)) := do
  match found.value? "t" with
  | some directory => return (operands, .inl directory)
  | none =>
    match operands.reverse with
    | [] => failWithHelp 1 "missing file operand"
    | target :: sources =>
      if found.has "T" then
        match sources with
        | [] => failWithHelp 1 ("missing destination file operand after " ++ quoted target)
        | [source] => return ([source], .inr target)
        | _ => extraOperand (operands[2]?.getD "")
      else if sources.isEmpty then return ([target], .inl ".")
      else
        let isGoal ← match ← look target (!found.has "n") with
          | .ok (_, node) => pure (node.isDirectory)
          | .error _ => pure false
        if isGoal then return (sources.reverse, .inl target)
        else if sources.length > 1 then
          let fault := match ← look target with
            | .ok _ => SystemFault.notDirectory
            | .error fault => fault
          fail 1 ("target " ++ quoted target ++ ": " ++ fault.describe)
        else return (sources.reverse, .inr target)

def main (args : List String) : Tool Nat := do
  let (found, operands) ← options table args
  if operands.isEmpty then failWithHelp 1 "missing file operand"
  if found.has "r" && !found.has "s" then
    fail 1 "cannot do --relative without --symbolic"
  let ask := found.last? ["f", "i"]
  let r : Request :=
    { symbolic := found.has "s", force := found.has "f", interactive := ask = some "i"
      verbose := found.has "v", relative := found.has "r"
      follow := found.last? ["L", "P"] = some "L"
      directories := found.has "d" || found.has "F", backup := ← Backup.policy found }
  let (sources, target) ← arrange found operands
  if let .inl directory := target then
    unless ← isDirectory directory do
      let fault := match ← look directory with
        | .ok _ => SystemFault.notDirectory
        | .error fault => fault
      fail 1 ("target " ++ quoted directory ++ ": " ++ fault.describe)
  forAll sources fun source ↦
    match target with
    | .inl directory => linkTo r source (below directory (baseName source))
    | .inr name => linkTo r source name

end Link

namespace PlainLink

def main (args : List String) : Tool Nat := do
  let (_, operands) ← options {} args
  match operands with
  | [] => missingOperand
  | [only] => failWithHelp 1 ("missing operand after " ++ cited only)
  | [source, target] =>
    let done ← changeTree (·.link (Octet.toText source) (Octet.toText target))
      ("cannot create link " ++ quoted target ++ " to " ++ quoted source)
    return if done then 0 else 1
  | _ :: _ :: extra :: _ => extraOperand extra

def unlinkMain (args : List String) : Tool Nat := do
  let (_, operands) ← options {} args
  match operands with
  | [] => missingOperand
  | [name] =>
    let done ← changeTree (·.remove (Octet.toText name)) ("cannot unlink " ++ quoted name)
    return if done then 0 else 1
  | _ :: extra :: _ => extraOperand extra

end PlainLink

end RegisterLang.Tool
