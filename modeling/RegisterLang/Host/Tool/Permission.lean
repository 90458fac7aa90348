import RegisterLang.Host.Disk.Mode
import RegisterLang.Host.Tool.Options

namespace RegisterLang.Tool

def modeLetters (mode : Nat) : String :=
  let bit (n : Nat) : Bool := mode / n % 2 = 1
  let triple (shift special : Nat) (letter : Char) : List Char :=
    [if bit (shift * 4) then 'r' else '-', if bit (shift * 2) then 'w' else '-',
      if bit special then if bit shift then letter else letter.toUpper
      else if bit shift then 'x' else '-']
  String.ofList (triple 64 2048 's' ++ triple 8 1024 's' ++ triple 1 512 't')

def octalDigits (width n : Nat) : String :=
  let digits := Nat.toDigits 8 n
  String.ofList (List.replicate (width - digits.length) '0' ++ digits)

namespace Permission

def table : OptionTable :=
  { short := "RcfvrwxXstugoa,+=01234567"
    long := OptionTable.plain
      [("changes", "c"), ("recursive", "R"), ("no-preserve-root", "N"), ("preserve-root", "P"),
        ("quiet", "f"), ("silent", "f"), ("verbose", "v")] ++
      OptionTable.valued [("reference", "reference")] }

def isDashedMode (arg : String) : Bool :=
  match arg.toList with
  | '-' :: c :: _ => "rwxXstugoa,+=01234567".toList.contains c
  | _ => false

structure Request where
  change : Mode.Change
  mask : Nat
  recursive : Bool := false
  silent : Bool := false
  verbose : Option Bool := none
  watchful : Bool := false

/-- Changes the mode of a file, and of what it holds if that is wanted. -/
def apply (r : Request) : Nat → Bool → String → Tool Bool
  | 0, _, _ => return true
  | n + 1, top, path => do
    match ← look path false with
    | .error fault =>
      unless r.silent do complain ("cannot access " ++ quoted path ++ ": " ++ fault.describe)
      if r.verbose = some true then sayLine (quoted path ++ " could not be accessed")
      return false
    | .ok (_, link) =>
      if link.isLink && !top then return true
      match ← look path with
      | .error fault =>
        unless r.silent do
          if fault = .noSuchFile then
            complain ("cannot operate on dangling symlink " ++ quoted path)
          else complain ("cannot access " ++ quoted path ++ ": " ++ fault.describe)
        if r.verbose = some true then sayLine (quoted path ++ " could not be accessed")
        return false
      | .ok (place, node) =>
        let mode := r.change.apply r.mask node.isDirectory node.mode
        let result ← Strand.changeDisk (·.setMode (Octet.toText path) mode)
        let shown (m : Nat) : String := octalDigits 4 m ++ " (" ++ modeLetters m ++ ")"
        let done ← match result with
          | .error fault => do
            unless r.silent do
              complain ("changing permissions of " ++ quoted path ++ ": " ++ fault.describe)
            if r.verbose = some true then
              sayLine ("failed to change mode of " ++ quoted path ++ " from " ++ shown node.mode ++
                " to " ++ shown mode)
            pure false
          | .ok () => do
            if mode ≠ node.mode then
              if r.verbose.isSome then
                sayLine ("mode of " ++ quoted path ++ " changed from " ++ shown node.mode ++
                  " to " ++
                  shown mode)
            else if r.verbose = some true then
              sayLine ("mode of " ++ quoted path ++ " retained as " ++ shown mode)
            let naive := r.change.apply 0 node.isDirectory node.mode
            if r.watchful && mode - (mode &&& naive) ≠ 0 then
              complain (quotedIfNeeded path ++ ": new permissions are " ++ modeLetters mode ++
                ", not " ++ modeLetters naive)
              pure false
            else pure true
        if !(r.recursive && node.isDirectory && !link.isLink) then return done
        else
          let node := ((← Strand.disk).get? place).getD node
          if !node.allows .read then
            unless r.silent do
              complain ("cannot read directory " ++ quoted path ++ ": " ++
                SystemFault.notPermitted.describe)
            return false
          else
            let mut good := done
            for name in (← Strand.disk).children place do
              unless ← apply r n false (below path (Octet.ofText name)) do good := false
            return good

def main (args : List String) : Tool Nat := do
  let dashes := args.takeWhile (· ≠ "--")
  let modes := dashes.filter isDashedMode
  let plain := dashes.filter (!isDashedMode ·) ++ args.drop dashes.length
  let (found, operands) ← options table plain
  let reference := found.value? "reference"
  let (mode, operands) := if !modes.isEmpty then (some (",".intercalate modes), operands)
    else if reference.isSome then (none, operands)
    else (operands.head?, operands.tail)
  if reference.isSome && mode.isSome then
    failWithHelp 1 "cannot combine mode and --reference options"
  if operands.isEmpty then
    match mode with
    | some mode =>
      if modes.isEmpty then failWithHelp 1 ("missing operand after " ++ cited mode)
      else missingOperand
    | none => missingOperand
  let change ← match reference, mode with
    | some path, _ =>
      match ← look path with
      | .ok (_, node) => pure (Mode.Change.absolute node.mode true)
      | .error fault =>
        fail 1 ("failed to get attributes of " ++ quoted path ++ ": " ++ fault.describe)
    | none, mode =>
      let text := mode.getD ""
      match Mode.Change.parse? text with
      | some change => pure change
      | none => failWithHelp 1 ("invalid mode: " ++ cited text)
  let r : Request :=
    { change, mask := ← mask, recursive := found.has "R", silent := found.has "f"
      verbose := match found.last? ["c", "v"] with
        | some key => some (key = "v")
        | none => none
      watchful := !modes.isEmpty }
  forAll operands fun operand ↦ do
    apply r ((← Strand.disk).entries.length + 2) true operand

end Permission

end RegisterLang.Tool
