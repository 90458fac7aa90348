import RegisterLang.Host.Tool.Options

namespace RegisterLang.Tool.Extent

/-- How a size is meant, by the sign before it. -/
inductive Rule where
  | exactly
  | relative
  | atMost
  | atLeast
  | roundDown
  | roundUp
  deriving DecidableEq, Repr

def Rule.apply (rule : Rule) (n : Int) (size : Nat) : Nat :=
  let k := n.toNat
  match rule with
  | exactly => k
  | relative => (Int.ofNat size + n).toNat
  | atMost => min size k
  | atLeast => max size k
  | roundDown => size / k * k
  | roundUp => (size + k - 1) / k * k

def blockLength : Nat := 4096

def isSpace (c : Char) : Bool := c = ' ' || ('\t' ≤ c && c ≤ '\r')

def readSize (text : String) : Tool (Rule × Int) := do
  let cs := text.toList.dropWhile isSpace
  let (rule, rest) : Rule × List Char := match cs with
    | '<' :: rest => (.atMost, rest)
    | '>' :: rest => (.atLeast, rest)
    | '/' :: rest => (.roundDown, rest)
    | '%' :: rest => (.roundUp, rest)
    | _ => (.exactly, cs)
  let rest := rest.dropWhile isSpace
  let signed := rest.head? = some '+' || rest.head? = some '-'
  if signed && rule ≠ .exactly then failWithHelp 1 "multiple relative modifiers specified"
  let digits := if signed then rest.drop 1 else rest
  let shown := String.ofList rest
  if digits.head?.any fun c ↦ isSpace c || c = '+' || c = '-' then
    fail 1 ("Invalid number: " ++ cited shown)
  match readCount "EgGkKmMPtTYZ0RQ" (String.ofList digits) with
  | .ok n =>
    let value : Int := if rest.head? = some '-' then -Int.ofNat n else n
    return (if signed then .relative else rule, value)
  | .error .invalid => fail 1 ("Invalid number: " ++ cited shown)
  | .error .tooLarge =>
    fail 1 ("Invalid number: " ++ cited shown ++ ": Value too large for defined data type")

def lengthOf (node : Node) : Nat :=
  match node.content with
  | .file bytes => bytes.size
  | _ => 0

def main (args : List String) : Tool Nat := do
  let (found, operands) ← options
    { short := "cor:s:"
      long := OptionTable.plain [("no-create", "c"), ("io-blocks", "o")] ++
        OptionTable.valued [("reference", "r"), ("size", "s")] } args
  let mut size : Option (Rule × Int) := none
  for (key, value) in found do
    if key = "s" then size := some (← readSize (value.getD ""))
  let reference := found.value? "r"
  if size.isNone && reference.isNone then
    failWithHelp 1 "you must specify either '--size' or '--reference'"
  if reference.isSome && size.any (·.1 = .exactly) then
    failWithHelp 1 "you must specify a relative '--size' with '--reference'"
  if found.has "o" && size.isNone then
    failWithHelp 1 "'--io-blocks' was specified but '--size' was not"
  if size.any fun (rule, n) ↦ (rule = .roundDown || rule = .roundUp) && n = 0 then
    fail 1 "division by zero"
  if operands.isEmpty then failWithHelp 1 "missing file operand"
  let base : Option Nat ← match reference with
    | none => pure none
    | some path =>
      match ← look path with
      | .ok (_, node) => pure (some (lengthOf node))
      | .error fault => fail 1 ("cannot stat " ++ quoted path ++ ": " ++ fault.describe)
  let (rule, n) := size.getD (.relative, 0)
  let n := if found.has "o" then n * blockLength else n
  forAll operands fun path ↦ do
    match ← Strand.openAt (Octet.toText path) { write := true, create := !found.has "c" } with
    | .error fault =>
      if found.has "c" && fault = .noSuchFile then return true
      complain ("cannot open " ++ quoted path ++ " for writing: " ++ fault.describe)
      return false
    | .ok descriptor =>
      let present := ((← nodeAt? descriptor).map lengthOf).getD 0
      let result ← Strand.call fun id s ↦
        s.setSize id descriptor (rule.apply n (base.getD present))
      Strand.closeAt descriptor
      match result with
      | .ok () => return true
      | .error fault =>
        complain ("failed to truncate " ++ quoted path ++ ": " ++ fault.describe)
        return false

def syncMain (args : List String) : Tool Nat := do
  let (found, operands) ← options
    { short := "df", long := OptionTable.plain [("data", "d"), ("file-system", "f")] } args
  if found.has "d" && found.has "f" then fail 1 "cannot specify both --data and --file-system"
  if found.has "d" && operands.isEmpty then fail 1 "--data needs at least one argument"
  forAll operands fun path ↦ do
    match ← look path with
    | .ok _ => return true
    | .error fault =>
      complain ("error opening " ++ quoted path ++ ": " ++ fault.describe)
      return false

end RegisterLang.Tool.Extent
