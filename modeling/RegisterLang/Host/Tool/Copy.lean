import RegisterLang.Host.Tool.Link
import RegisterLang.Host.Tool.Permission

namespace RegisterLang.Tool

namespace Transfer

/-- What becomes of a file that stands where a copy should go. -/
inductive Existing where
  | replace
  | ask
  | skip
  deriving DecidableEq, Repr

inductive Following where
  | never
  | operands
  | always
  deriving DecidableEq, Repr

structure Request where
  moving : Bool := false
  recursive : Bool := false
  following : Following := .always
  existing : Existing := .replace
  force : Bool := false
  onlyNewer : Bool := false
  onlyMissing : Bool := false
  verbose : Bool := false
  hard : Bool := false
  symbolic : Bool := false
  keepMode : Bool := false
  dropMode : Bool := false
  keepTimes : Bool := false
  keepLinks : Bool := false
  removeFirst : Bool := false
  attributesOnly : Bool := false
  parents : Bool := false
  backup : Backup.Policy := {}
  mask : Nat := 0

/-- What was copied so far: each source once, each target once, links as links. -/
structure Ledger where
  sources : List Place := []
  targets : List Place := []
  copies : List (Ref × String) := []
  root : Option (Place × String × String) := none

abbrev Result := Tool (Bool × Ledger)

def refused (l : Ledger) (message : String) : Result := do
  complain message
  return (false, l)

def faulty (l : Ledger) (message : String) (fault : SystemFault) : Result :=
  refused l (message ++ ": " ++ fault.describe)

def placeOf (path : String) (follow : Bool) : Tool (Option Place) := do
  return (← look path follow).toOption.map (·.1)

def refOf (path : String) (follow : Bool) : Tool (Option Ref) := do
  let d ← Strand.disk
  return (d.look (Octet.toText path) follow).toOption.bind fun (p, _) ↦ d.ref? p

def pair (source target : String) : String := quoted source ++ " -> " ++ quoted target

def announce (r : Request) (source target : String) (backup : Option String) : Tool Unit := do
  if r.verbose then
    sayLine ((if r.moving then "renamed " else "") ++ pair source target ++
      match backup with
      | some name => " (backup: " ++ quoted name ++ ")"
      | none => "")

def tellRemoved (r : Request) (target : String) : Tool Unit := do
  if r.verbose then sayLine ("removed " ++ quoted target)

def mayReplace (r : Request) (target : String) (node : Node) : Tool Bool := do
  if node.allows .write || node.isLink then consentsTo ("overwrite " ++ quoted target ++ "? ")
  else
    let shown := octalDigits 4 node.mode
    if r.moving || r.force || r.removeFirst then
      consentsTo ("replace " ++ quoted target ++ ", overriding mode " ++ shown ++ " (" ++
        modeLetters node.mode ++ ")? ")
    else
      consentsTo ("unwritable " ++ quoted target ++ " (mode " ++ shown ++ ", " ++
        modeLetters node.mode ++ "); try anyway? ")

def keepAttributes (r : Request) (source : Node) (target : String) (follow : Bool) : Tool Unit := do
  if r.keepMode && !source.isLink then
    let _ ← Strand.changeDisk (·.setMode (Octet.toText target) source.mode follow)
  if r.keepTimes then
    let _ ← Strand.changeDisk (·.setTimes (Octet.toText target) follow (some source.accessed)
      (some source.modified))

def newMode (r : Request) (source : Node) : Nat :=
  Node.masked (if r.dropMode then 438 else source.mode % 512) r.mask

def pump (input output : Nat) : Tool (Except SystemFault Unit) :=
  iterate (fun () ↦ do
    match ← Strand.readAt input blockSize with
    | .error fault => return .inr (.error fault)
    | .ok bytes =>
      if bytes.isEmpty then return .inr (.ok ())
      match ← Strand.writeAt output bytes with
      | .error fault => return .inr (.error fault)
      | .ok () => return .inl ()) ()

def copyContent (r : Request) (l : Ledger) (source target : String) (node : Node) (fresh : Bool) :
    Result := do
  match ← Strand.openAt (Octet.toText source) { read := true } with
  | .error fault => faulty l ("cannot open " ++ quoted source ++ " for reading") fault
  | .ok input =>
    let opening : Opening :=
      { write := true, create := fresh, fresh, truncate := !r.attributesOnly
        mode := if r.dropMode then 438 else node.mode % 512 }
    let mut opened ← Strand.openAt (Octet.toText target) opening
    if let .error _ := opened then
      if !fresh && r.force then
        let removed ← Strand.changeDisk (·.remove (Octet.toText target))
        if removed.toOption.isSome then
          tellRemoved r target
          opened ←
            Strand.openAt (Octet.toText target) { opening with create := true, fresh := true }
    match opened with
    | .error fault =>
      Strand.closeAt input
      let dangling := fault = .fileExists && ((← look target false).toOption.any (·.2.isLink))
      if dangling then refused l ("not writing through dangling symlink " ++ quoted target)
      else
        let fault := if fault = .isDirectory && Disk.wantsDirectory target then .notDirectory
          else fault
        faulty l ("cannot create regular file " ++ quoted target) fault
    | .ok output =>
      let result ← if r.attributesOnly then pure (.ok ()) else pump input output
      Strand.closeAt input
      Strand.closeAt output
      match result with
      | .error fault => faulty l ("error reading " ++ quoted source) fault
      | .ok () =>
        keepAttributes r node target true
        return (true, l)

def clear (r : Request) (target : String) (goal : Place) (node : Node) (old : Node) :
    Tool (Except SystemFault (Option String × Bool)) := do
  if r.backup.wanted && !old.isDirectory then
    let kept ← Backup.nameFor r.backup target
    match ← Strand.changeDisk (·.rename (Octet.toText target) (Octet.toText kept)) with
    | .ok () => return .ok (some kept, true)
    | .error fault => return .error fault
  else if r.hard || r.symbolic then
    if r.force && !old.isDirectory then
      return (← Strand.changeDisk (·.remove (Octet.toText target))).map fun () ↦ (none, true)
    else return .ok (none, false)
  else if !old.isDirectory && (r.removeFirst || (!node.isFile && r.following = .never) ||
      (r.keepLinks && 1 < (← Strand.disk).nameCount goal old)) then
    match ← Strand.changeDisk (·.remove (Octet.toText target)) with
    | .ok () =>
      tellRemoved r target
      return .ok (none, true)
    | .error fault => return .error fault
  else return .ok (none, false)

def copyLeaf (r : Request) (l : Ledger) (source target : String) (node : Node) (fresh : Bool)
    (backup : Option String) : Result := do
  announce r source target backup
  let goal := Octet.toText target
  if r.symbolic then
    if !Disk.isAbsolute source && dirName target ≠ "." then
      refused l (quotedIfNeeded target ++
        ": can make relative symbolic links only in current directory")
    else
      match ← Strand.changeDisk (·.symbolicLink (Octet.toText source) goal) with
      | .ok () => return (true, l)
      | .error fault =>
        faulty l ("cannot create symbolic link " ++ quoted target ++ " to " ++ quoted source) fault
  else
    let ref ← refOf source (r.following = .always)
    let before := if r.keepLinks then ref.bind fun ref ↦ l.copies.lookup ref else none
    match before with
    | some first =>
      match ← Strand.changeDisk (·.link (Octet.toText first) goal) with
      | .ok () => return (true, l)
      | .error fault =>
        faulty l ("cannot create hard link " ++ quoted target ++ " to " ++ quoted first) fault
    | none =>
      let l := match ref with
        | some ref => { l with copies := (ref, target) :: l.copies }
        | none => l
      if r.hard then
        match ← Strand.changeDisk (·.link (Octet.toText source) goal (r.following = .always)) with
        | .ok () => return (true, l)
        | .error fault =>
          faulty l ("cannot create hard link " ++ quoted target ++ " to " ++ quoted source) fault
      else
        match node.content with
        | .link text =>
          match ← Strand.changeDisk (·.symbolicLink text goal) with
          | .ok () =>
            keepAttributes r node target false
            return (true, l)
          | .error fault => faulty l ("cannot create symbolic link " ++ quoted target) fault
        | .pipe _ =>
          if r.recursive then
            let done : Except SystemFault Unit ← Strand.call fun id s ↦
              let (s', number) := s.addPipe { named := true }
              let made := do
                let d := s.diskOf id
                let p ← d.locate goal false
                d.create p { content := .pipe number, mode := newMode r node }
              match made with
              | .ok d => (s'.setDisk d, .ok ())
              | .error fault => (s, .error fault)
            match done with
            | .ok () => return (true, l)
            | .error fault => faulty l ("cannot create fifo " ++ quoted target) fault
          else copyContent r l source target node fresh
        | _ => copyContent r l source target node fresh

/-- For one file under two names: whether that is fine. `none` if the copy goes on. -/
def sameFile (r : Request) (source target : String) (node old : Node) : Tool (Option Bool) := do
  let follow := r.following = .always && !r.moving
  let a ← refOf source follow
  let b ← refOf target (!(node.isLink || r.moving || r.hard || r.symbolic || r.backup.wanted
    || r.removeFirst))
  if a.isSome && a = b then
    let p ← placeOf (dirName source) true
    let q ← placeOf (dirName target) true
    let sameName := p = q && baseName source = baseName target
    if r.hard && !sameName then return some true
    else if (r.backup.wanted || r.removeFirst || (r.force && old.isLink)) && !sameName then
      return none
    else if r.hard && old.isLink then return some true
    else return some false
  else return none

mutual

/-- Copies or moves one file, or a tree with all that it holds. -/
def item (r : Request) : Nat → Ledger → Bool → String → String → Result
  | 0, l, _, source, _ => refused l ("cannot stat " ++ quoted source)
  | n + 1, l, top, source, target => do
    let follow := !r.moving && match r.following with
      | .always => true
      | .operands => top
      | .never => false
    match ← look source follow with
    | .error fault => faulty l ("cannot stat " ++ quoted source) fault
    | .ok (place, node) =>
      if node.isDirectory && !r.recursive && !r.moving then
        refused l ("-r not specified; omitting directory " ++ quoted source)
      else if top && !r.moving && l.sources.contains place then
        complain ("warning: source " ++ (if node.isDirectory then "directory " else "file ") ++
          quoted source ++ " specified more than once")
        return (true, l)
      else
        let l := if top then { l with sources := place :: l.sources } else l
        let lstat := !node.isFile || r.moving || r.symbolic || r.hard || r.backup.wanted ||
          r.removeFirst
        match ← look target (!lstat) with
        | .error .noSuchFile => create r n l top source target place node none
        | .error fault => faulty l ("cannot stat " ++ quoted target) fault
        | .ok (goal, old) =>
          match ← sameFile r source target node old with
          | some true => return (true, l)
          | some false =>
            if r.moving && r.backup.wanted then create r n l top source target place node none
            else refused l (pairAnd source target ++ " are the same file")
          | none =>
          if r.onlyMissing then return (true, l)
          else if r.onlyNewer && !node.isDirectory && node.modified ≤ old.modified then
            return (true, l)
          else if !node.isDirectory && old.isDirectory then
            refused l ("cannot overwrite directory " ++ quoted target ++ " with non-directory")
          else if !node.isDirectory && r.existing = .skip then
            if r.moving then refused l ("not replacing " ++ quoted target) else return (true, l)
          else
            let agreed ← if r.existing = .ask && !node.isDirectory then mayReplace r target old
              else pure true
            if !agreed then return (false, l)
            else if !node.isDirectory && l.targets.contains goal then
              refused l ("will not overwrite just-created " ++ quoted target ++ " with " ++
                quoted source)
            else if node.isDirectory && !old.isDirectory then
              refused l ("cannot overwrite non-directory " ++ quoted target ++ " with directory " ++
                quoted source)
            else if r.moving then create r n l top source target place node (some old)
            else if node.isDirectory then create r n l top source target place node (some old)
            else
              match ← clear r target goal node old with
              | .error fault => faulty l ("cannot remove " ++ quoted target) fault
              | .ok (backup, fresh) =>
                let (done, l) ← copyLeaf r l source target node fresh backup
                return (done, { l with targets := goal :: l.targets })
where
  pairAnd (source target : String) : String := quoted source ++ " and " ++ quoted target

def create (r : Request) : Nat → Ledger → Bool → String → String → Place → Node → Option Node →
    Result
  | n, l, top, source, target, place, node, old => do
    if r.moving then rename r l source target place old
    else if node.isDirectory then
      match n with
      | 0 => refused l ("cannot stat " ++ quoted source)
      | n + 1 => directory r n l top source target place node old
    else
      let (done, l) ← copyLeaf r l source target node true none
      let goal ← placeOf target false
      return (done, { l with targets := goal.toList ++ l.targets })

def rename (r : Request) (l : Ledger) (source target : String) (place : Place) (old : Option Node) :
    Result := do
  let kept ← match old with
    | some _ => if r.backup.wanted then some <$> Backup.nameFor r.backup target else pure none
    | none => pure none
  if let some name := kept then
    let _ ← Strand.changeDisk (·.rename (Octet.toText target) (Octet.toText name))
  match ← Strand.changeDisk (·.rename (Octet.toText source) (Octet.toText target)) with
  | .ok () =>
    announce r source target kept
    let goal ← placeOf target false
    return (true, { l with targets := goal.toList ++ l.targets })
  | .error fault =>
    let goal := ((← Strand.disk).locate (Octet.toText target) false).toOption
    if fault = .invalidArgument && goal.any place.isPrefixOf then
      refused l ("cannot move " ++ quoted source ++ " to a subdirectory of itself, " ++
        quoted target)
    else if [SystemFault.fileExists, .isDirectory, .notEmpty, .noSpace].contains fault then
      faulty l ("cannot overwrite " ++ quoted target) fault
    else faulty l ("cannot move " ++ quoted source ++ " to " ++ quoted target) fault

def directory (r : Request) : Nat → Ledger → Bool → String → String → Place → Node → Option Node →
    Result
  | n, l, top, source, target, place, node, old => do
    match l.root with
    | some (root, origin, goal) =>
      if place = root && !top then
        return ← refused l ("cannot copy a directory, " ++ quoted origin ++ ", into itself, " ++
          quoted goal)
    | none => pure ()
    let made ← match old with
      | some _ => pure (.ok ())
      | none =>
        Strand.changeDisk (·.makeDirectory (Octet.toText target)
          (Node.masked (node.mode % 512) r.mask ||| 448))
    match made with
    | .error fault => faulty l ("cannot create directory " ++ quoted target) fault
    | .ok () =>
      if old.isNone then announce r source target none
      let goal ← placeOf target true
      let l := if top then { l with root := goal.map fun g ↦ (g, source, target) } else l
      if !node.allows .read || !node.allows .execute then
        faulty l ("cannot access " ++ quoted source) .notPermitted
      else
        let mut l := l
        let mut good := true
        match n with
        | 0 => good := false
        | n + 1 =>
          for name in (← Strand.disk).children place do
            let octets := Octet.ofText name
            let (done, after) ← item r n l false (below source octets) (below target octets)
            l := after
            unless done do good := false
        if old.isNone then
          let mode := if r.keepMode then node.mode else Node.masked (node.mode % 512) r.mask
          let _ ← Strand.changeDisk (·.setMode (Octet.toText target) mode)
        keepAttributes r node target true
        return (good, l)

end

def ensureParents (r : Request) (directory source : String) : Tool Bool := do
  let mut good := true
  for path in (if dirName source = "." then [] else
      (List.range (Disk.names (dirName source)).length).map fun n ↦
        "/".intercalate ((Disk.names (dirName source)).take (n + 1))) do
    let goal := below directory path
    if good && !(← isDirectory goal) then
      let mode := ((← look path).toOption.map (·.2.mode)).getD 511
      match ← Strand.changeDisk (·.makeDirectory (Octet.toText goal)
          (Node.masked (mode % 512) r.mask ||| 448)) with
      | .ok () => if r.verbose then sayLine (path ++ " -> " ++ goal)
      | .error fault =>
        complain ("cannot make directory " ++ quoted goal ++ ": " ++ fault.describe)
        good := false
  return good

/-- Copies or moves the operands, to a name or into a directory. -/
def run (r : Request) (found : OptionList) (operands : List String) : Tool Nat := do
  let directory := found.value? "t"
  if operands.isEmpty then failWithHelp 1 "missing file operand"
  if directory.isNone && operands.length = 1 then
    failWithHelp 1 ("missing destination file operand after " ++ quoted (operands.headD ""))
  if found.has "T" then
    if directory.isSome then
      fail 1 "cannot combine --target-directory (-t) and --no-target-directory (-T)"
    if operands.length > 2 then extraOperand (operands[2]?.getD "")
  let last := operands.getLastD ""
  let (sources, into) ← match directory with
    | some path =>
      if ← isDirectory path then pure (operands, some path)
      else
        let fault := match ← look path with
          | .ok _ => SystemFault.notDirectory
          | .error fault => fault
        fail 1 ("target directory " ++ quoted path ++ ": " ++ fault.describe)
    | none =>
      if found.has "T" then pure (operands.dropLast, none)
      else if ← isDirectory last then pure (operands.dropLast, some last)
      else if operands.length > 2 then
        let fault := match ← look last with
          | .ok _ => SystemFault.notDirectory
          | .error fault => fault
        fail 1 ("target " ++ quoted last ++ ": " ++ fault.describe)
      else pure (operands.dropLast, none)
  if r.parents && into.isNone then
    failWithHelp 1 "with --parents, the destination must be a directory"
  let mut status := 0
  let mut l : Ledger := {}
  for source in sources do
    let bound := 2 * ((← Strand.disk).entries.length + sources.length) + 8
    let (done, after) ← match into with
      | none => item r bound l true source last
      | some directory =>
        if r.parents then do
          if ← ensureParents r directory source then
            item r bound l true source (below directory source)
          else pure (false, l)
        else
          let name := baseName source
          item r bound l true source (if name = ".." then directory else below directory name)
    l := { after with root := none }
    unless done do status := 1
  return status

def readUpdate (found : OptionList) (r : Request) : Tool Request := do
  let mut r := r
  for (key, value) in found do
    if key = "u" || key = "update" then
      match value with
      | none | some "older" => r := { r with onlyNewer := true, onlyMissing := false }
      | some "none" => r := { r with onlyMissing := true, onlyNewer := false }
      | some "all" => r := { r with onlyMissing := false, onlyNewer := false }
      | some other =>
        failWithHelp 1 ("invalid argument " ++ cited other ++ " for '--update'\n" ++
          "Valid arguments are:\n  - 'all'\n  - 'none'\n  - 'older'")
  return r

def existingOf (found : OptionList) : Existing :=
  match found.last? ["f", "i", "n"] with
  | some "i" => .ask
  | some "n" => .skip
  | _ => .replace

end Transfer

namespace Copy

def table : OptionTable :=
  { short := "abdfHilLnprst:uvxPRS:TZ"
    long := OptionTable.plain
      [("archive", "a"), ("attributes-only", "attributes-only"), ("copy-contents", "copy-contents"),
        ("debug", "debug"), ("dereference", "L"), ("force", "f"), ("interactive", "i"),
        ("link", "l"),
        ("no-clobber", "n"), ("no-dereference", "P"), ("no-target-directory", "T"),
        ("one-file-system", "x"), ("parents", "parents"), ("path", "parents"), ("recursive", "R"),
        ("remove-destination", "remove-destination"),
        ("strip-trailing-slashes", "strip-trailing-slashes"), ("symbolic-link", "s"),
        ("verbose", "v")] ++
      OptionTable.valued
        [("no-preserve", "no-preserve"), ("sparse", "sparse"), ("suffix", "S"),
          ("target-directory", "t")] ++
      [{ name := "backup", key := "backup", need := .maybe },
        { name := "context", key := "Z", need := .maybe },
        { name := "preserve", key := "preserve", need := .maybe },
        { name := "reflink", key := "reflink", need := .maybe },
        { name := "update", key := "update", need := .maybe }] }

def attributes (option : String) (text : String) : Tool (List String) := do
  let known := ["mode", "timestamps", "ownership", "links", "context", "xattr", "all"]
  let mut result := []
  for word in text.splitOn "," do
    match known.find? fun name ↦ word.toList.isPrefixOf name.toList && !word.isEmpty with
    | some name => result := result ++ (if name = "all" then known else [name])
    | none =>
      failWithHelp 1 ("invalid argument " ++ cited word ++ " for '--" ++ option ++ "'\n" ++
        "Valid arguments are:" ++ String.join (known.map fun name ↦ "\n  - '" ++ name ++ "'"))
  return result

def main (args : List String) : Tool Nat := do
  let (found, operands) ← options table args
  let recursive := found.has "r" || found.has "R" || found.has "a"
  let following : Transfer.Following := match found.last? ["L", "P", "H", "d", "a"] with
    | some "L" => .always
    | some "H" => .operands
    | some _ => .never
    | none => if recursive && !found.has "l" then .never else .always
  let mut r : Transfer.Request :=
    { recursive, following, existing := Transfer.existingOf found, force := found.has "f"
      verbose := found.has "v" || found.has "debug", hard := found.has "l"
      symbolic := found.has "s"
      removeFirst := found.has "remove-destination", parents := found.has "parents"
      attributesOnly := found.has "attributes-only", mask := ← mask
      backup := ← Backup.policy found }
  for (key, value) in found do
    match key with
    | "a" => r := { r with keepMode := true, keepTimes := true, keepLinks := true }
    | "p" => r := { r with keepMode := true, keepTimes := true }
    | "d" => r := { r with keepLinks := true }
    | "preserve" =>
      for name in ← attributes "preserve" (value.getD "mode,ownership,timestamps") do
        match name with
        | "mode" => r := { r with keepMode := true }
        | "timestamps" => r := { r with keepTimes := true }
        | "links" => r := { r with keepLinks := true }
        | _ => pure ()
    | "no-preserve" =>
      for name in ← attributes "no-preserve" (value.getD "") do
        match name with
        | "mode" => r := { r with keepMode := false, dropMode := true }
        | "timestamps" => r := { r with keepTimes := false }
        | "links" => r := { r with keepLinks := false }
        | _ => pure ()
    | _ => pure ()
  r ← Transfer.readUpdate found r
  if r.hard && r.symbolic then fail 1 "cannot make both hard and symbolic links"
  if found.has "n" then
    complain ("warning: behavior of -n is non-portable and may change in future; " ++
      "use --update=none instead")
  Transfer.run r found operands

end Copy

namespace Move

def table : OptionTable :=
  { short := "bfint:uvS:TZ"
    long := OptionTable.plain
      [("debug", "debug"), ("force", "f"), ("interactive", "i"), ("no-clobber", "n"),
        ("no-copy", "no-copy"), ("no-target-directory", "T"),
        ("strip-trailing-slashes", "strip-trailing-slashes"), ("verbose", "v")] ++
      OptionTable.valued [("suffix", "S"), ("target-directory", "t")] ++
      [{ name := "backup", key := "backup", need := .maybe },
        { name := "context", key := "Z", need := .maybe },
        { name := "update", key := "update", need := .maybe }] }

def main (args : List String) : Tool Nat := do
  let (found, operands) ← options table args
  let r : Transfer.Request :=
    { moving := true, recursive := true, following := .never
      existing := Transfer.existingOf found, verbose := found.has "v", mask := ← mask
      backup := ← Backup.policy found }
  let r ← Transfer.readUpdate found r
  if r.backup.wanted && r.existing = .skip then
    failWithHelp 1 "options --backup and --no-clobber are mutually exclusive"
  Transfer.run r found operands

end Move

end RegisterLang.Tool
