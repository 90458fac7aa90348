import RegisterLang.Host.Tool.Options

namespace RegisterLang.Tool

/-- How much of a path has to exist. -/
inductive Existence where
  | all
  | allButLast
  | nothing
  deriving DecidableEq, Repr

/-- The place where a path leads, which need not exist to the end. -/
def walkLeniently (d : Disk) : Nat → Nat → Place → List String → Except SystemFault Place
  | _, _, p, [] => .ok p
  | 0, _, _, _ => .error .tooManyLinks
  | n + 1, links, p, name :: rest =>
    if name = "." then walkLeniently d n links p rest
    else if name = ".." then walkLeniently d n links p.dropLast rest
    else
      let q := p ++ [name]
      match (d.get? q).map Node.content with
      | some (.link target) =>
        match links with
        | 0 => .error .tooManyLinks
        | links + 1 =>
          walkLeniently d n links (if Disk.isAbsolute target then [] else p)
            (Disk.names target ++ rest)
      | _ => walkLeniently d n links q rest

def canonical (d : Disk) (e : Existence) (path : String) : Except SystemFault Place :=
  let text := Octet.toText path
  match e with
  | .all => (d.look text).map (·.1)
  | .allButLast => do
    let p ← d.locate text
    if Disk.wantsDirectory text && (d.get? p).any (!·.isDirectory) then .error .notDirectory
    else if !p.isEmpty && (d.get? p.dropLast).isNone then .error .noSuchFile
    else return p
  | .nothing =>
    if text.isEmpty then .error .noSuchFile
    else
      walkLeniently d Disk.walkLimit Disk.linkLimit (if Disk.isAbsolute text then [] else d.here)
        (Disk.names text)

def placePath (p : Place) : String := Octet.ofText ("/" ++ "/".intercalate p)

def commonNames : Place → Place → Place
  | a :: as, b :: bs => if a = b then a :: commonNames as bs else []
  | _, _ => []

def relativePath (start goal : Place) : String :=
  let shared := (commonNames start goal).length
  let names := List.replicate (start.length - shared) ".." ++ goal.drop shared
  if names.isEmpty then "." else Octet.ofText ("/".intercalate names)

namespace BaseName

def table : OptionTable :=
  { short := "as:z", ordered := true
    long := OptionTable.plain [("multiple", "a"), ("zero", "z")] ++
      OptionTable.valued [("suffix", "s")] }

def withoutSuffix (suffix name : String) : String :=
  if name ≠ suffix && suffix.toList.isSuffixOf name.toList then
    String.ofList (name.toList.take (name.length - suffix.length)) else name

def main (args : List String) : Tool Nat := do
  let (found, operands) ← options table args
  let stop := if found.has "z" then "\x00" else "\n"
  let suffix := found.value? "s"
  let several := found.has "a" || suffix.isSome
  match several, operands with
  | _, [] => missingOperand
  | true, paths =>
    for path in paths do say (withoutSuffix (suffix.getD "") (baseName path) ++ stop)
    return 0
  | false, _ :: _ :: extra :: _ => extraOperand extra
  | false, path :: rest =>
    say (withoutSuffix (rest.headD "") (baseName path) ++ stop)
    return 0

end BaseName

namespace DirName

def main (args : List String) : Tool Nat := do
  let (found, operands) ← options
    { short := "z", ordered := true, long := OptionTable.plain [("zero", "z")] } args
  if operands.isEmpty then missingOperand
  for path in operands do say (dirName path ++ (if found.has "z" then "\x00" else "\n"))
  return 0

end DirName

namespace ReadLink

def table : OptionTable :=
  { short := "efmnqsvz"
    long := OptionTable.plain
      [("canonicalize", "f"), ("canonicalize-existing", "e"), ("canonicalize-missing", "m"),
        ("no-newline", "n"), ("quiet", "q"), ("silent", "s"), ("verbose", "v"), ("zero", "z")] }

def linkText (path : String) : Tool (Except SystemFault String) := do
  match ← look path false with
  | .ok (_, node) =>
    match node.content with
    | .link target => return .ok (Octet.ofText target)
    | _ => return .error .invalidArgument
  | .error fault => return .error fault

def main (args : List String) : Tool Nat := do
  let (found, operands) ← options table args
  if operands.isEmpty then missingOperand
  let mode := match found.last? ["e", "f", "m"] with
    | some "e" => some Existence.all
    | some "f" => some .allButLast
    | some _ => some .nothing
    | none => none
  let plain := found.has "n" && operands.length = 1
  if found.has "n" && operands.length > 1 then
    complain "ignoring --no-newline with multiple arguments"
  let stop := if plain then "" else if found.has "z" then "\x00" else "\n"
  forAll operands fun operand ↦ do
    let result ← match mode with
      | some e => do pure ((canonical (← Strand.disk) e operand).map placePath)
      | none => linkText operand
    match result with
    | .ok text =>
      say (text ++ stop)
      return true
    | .error fault =>
      if found.last? ["q", "s", "v"] = some "v" then
        complain (quotedIfNeeded operand ++ ": " ++ fault.describe)
      return false

end ReadLink

namespace RealPath

def table : OptionTable :=
  { short := "eLmPqsz"
    long := OptionTable.plain
      [("canonicalize-existing", "e"), ("canonicalize-missing", "m"), ("logical", "L"),
        ("physical", "P"), ("quiet", "q"), ("strip", "s"), ("no-symlinks", "s"), ("zero", "z")] ++
      OptionTable.valued [("relative-to", "to"), ("relative-base", "base")] }

/-- Where a path leads if names are only read, and links not followed. -/
def literal (d : Disk) (path : String) : Place :=
  let text := Octet.toText path
  (Disk.names text).foldl (fun p name ↦
    if name = "." then p else if name = ".." then p.dropLast else p ++ [name])
    (if Disk.isAbsolute text then [] else d.here)

def place (found : OptionList) (path : String) : Tool (Except SystemFault Place) := do
  let d ← Strand.disk
  let e := match found.last? ["e", "m"] with
    | some "e" => Existence.all
    | some _ => .nothing
    | none => .allButLast
  if path.isEmpty then return .error .noSuchFile
  else if (found.last? ["L", "P", "s"]).any (· ≠ "P") then
    let p := literal d path
    let present (q : Place) : Bool := (d.get? q).isSome
    match e with
    | .all => return if present p then .ok p else .error .noSuchFile
    | .allButLast => return if present p.dropLast then .ok p else .error .noSuchFile
    | .nothing => return .ok p
  else return canonical d e path

def main (args : List String) : Tool Nat := do
  let (found, operands) ← options table args
  if operands.isEmpty then missingOperand
  let stop := if found.has "z" then "\x00" else "\n"
  let anchor (key : String) : Tool (Option Place) := do
    match found.value? key with
    | none => return none
    | some path =>
      match ← place found path with
      | .ok p =>
        if found.has "e" && (((← Strand.disk).get? p).any (!·.isDirectory)) then
          fail 1 (quotedIfNeeded path ++ ": " ++ SystemFault.notDirectory.describe)
        return some p
      | .error fault => fail 1 (quotedIfNeeded path ++ ": " ++ fault.describe)
  let base ← anchor "base"
  let start ← anchor "to"
  let start := start.or base
  let relative := match start, base with
    | some start, some base => base.isPrefixOf start
    | some _, none => true
    | none, _ => false
  forAll operands fun operand ↦ do
    match ← place found operand with
    | .error fault =>
      unless found.has "q" do complain (quotedIfNeeded operand ++ ": " ++ fault.describe)
      return false
    | .ok p =>
      let text := match start with
        | some start =>
          if relative && base.all (·.isPrefixOf p) then relativePath start p else placePath p
        | none => placePath p
      say (text ++ stop)
      return true

end RealPath

namespace PathCheck

def isPortable (c : Char) : Bool := c.isAlphanum || c = '.' || c = '_' || c = '-' || c = '/'

def pathLimit : Nat := 255

def nameLimit : Nat := 14

/-- What keeps a path from being used everywhere, or here. -/
def fault? (portable strict : Bool) (path : String) : Tool (Option String) := do
  let names := Disk.names path
  if strict && names.any (·.startsWith "-") then
    return some ("leading '-' in a component of file name " ++ cited path)
  if (portable || strict) && path.isEmpty then return some "empty file name"
  if portable then
    match path.toList.find? (!isPortable ·) with
    | some c =>
      return some ("non-portable character " ++ cited c.toString ++ " in file name " ++ cited path)
    | none =>
      if pathLimit < path.length then
        return some ("limit " ++ toString pathLimit ++ " exceeded by length " ++
          toString path.length ++ " of file name " ++ cited path)
      match names.find? fun name ↦ nameLimit < name.length with
      | some name =>
        return some ("limit " ++ toString nameLimit ++ " exceeded by length " ++
          toString name.length ++ " of file name component " ++ cited name)
      | none => return none
  else
    match ← look path false with
    | .ok _ => return none
    | .error fault =>
      if fault = .noSuchFile && !path.isEmpty then return none
      else return some (quotedIfNeeded path ++ ": " ++ fault.describe)

def main (args : List String) : Tool Nat := do
  let (found, operands) ← options
    { short := "pP", long := OptionTable.plain [("portability", "pP")] } args
  if operands.isEmpty then missingOperand
  let all := found.has "pP"
  forAll operands fun path ↦ do
    match ← fault? (all || found.has "p") (all || found.has "P") path with
    | none => return true
    | some message =>
      complain message
      return false

end PathCheck

end RegisterLang.Tool
