import RegisterLang.Host.Tool.Concatenate

namespace RegisterLang.Tool.Compare

structure Request where
  silent : Bool := false
  all : Bool := false
  chars : Bool := false
  limit : Option Nat := none
  skips : Nat × Nat := (0, 0)

def visible (b : UInt8) : String := Cat.shown b.toNat

def octal (n : Nat) : String := Text.padLeft 3 ' ' (String.ofList (Nat.toDigits 8 n))

structure Progress where
  offset : Nat := 0
  lines : Nat := 0
  lastNewline : Bool := true
  differs : Bool := false

def differenceLine (r : Request) (width offset : Nat) (a b : UInt8) : String :=
  let number := Text.padLeft width ' ' (toString offset)
  if r.chars then
    number ++ " " ++ octal a.toNat ++ " " ++ Text.padRight 4 ' ' (visible a) ++ " " ++
      octal b.toNat ++ " " ++ visible b ++ "\n"
  else number ++ " " ++ octal a.toNat ++ " " ++ octal b.toNat ++ "\n"

def table : OptionTable :=
  { short := "bci:ln:sv", failure := 2
    long := OptionTable.plain
      [("print-bytes", "b"), ("print-chars", "c"), ("verbose", "l"), ("silent", "s"),
        ("quiet", "s")] ++
      OptionTable.valued [("ignore-initial", "i"), ("bytes", "n")] }

def giveUp {α : Type} (message : String) : Tool α := do
  let name := (← get).name
  complain message
  complain ("Try '" ++ name ++ " --help' for more information.")
  throw 2

def number (option text : String) : Tool Nat := do
  match readCount usualSuffixes text with
  | .ok n => return n
  | .error _ => giveUp ("invalid --" ++ option ++ " value '" ++ text ++ "'")

/-- Compares two streams byte by byte, up to the first difference or to the end. -/
def compareFrom (r : Request) (width : Nat) (names : String × String) (streams : Stream × Stream) :
    Tool Nat :=
  let chunk := 4096
  iterate (fun ((p, x, y) : Progress × Stream × Stream) ↦ do
    let wanted := match r.limit with
      | some n => min chunk (n - p.offset)
      | none => chunk
    if wanted = 0 then return .inr (if p.differs then 1 else 0)
    let take (s : Stream) (name : String) : Tool (ByteArray × Stream) := do
      modify ({ · with stream := s })
      match ← nextBytes wanted with
      | .ok bytes => return (bytes, (← get).stream)
      | .error fault => fail 2 (name ++ ": " ++ fault.describe)
    let (a, x) ← take x names.1
    let (b, y) ← take y names.2
    let pairs := a.toList.zip b.toList
    let common := pairs.length
    let firstDifference := pairs.findIdx fun (c, d) ↦ c ≠ d
    let countLines (n : Nat) : Nat := (a.toList.take n).countP (· = 10)
    if firstDifference < common && !r.all then
      if r.silent then return .inr 1
      let offset := p.offset + firstDifference + 1
      let line := p.lines + countLines firstDifference + 1
      let (c, d) := (pairs[firstDifference]?).getD (0, 0)
      sayLine (names.1 ++ " " ++ names.2 ++ " differ: " ++ (if r.chars then "byte " else "char ") ++
        toString offset ++ ", line " ++ toString line ++
        (if r.chars then " is " ++ octal c.toNat ++ " " ++ visible c ++ " " ++ octal d.toNat ++
          " " ++
          visible d else ""))
      return .inr 1
    if r.all then
      for ((c, d), i) in pairs.zipIdx do
        if c ≠ d then say (differenceLine r width (p.offset + i + 1) c d)
    let differs := p.differs || firstDifference < common
    let next : Progress :=
      { offset := p.offset + common, lines := p.lines + countLines common, differs
        lastNewline := if common = 0 then p.lastNewline
          else (a.toList.drop (common - 1)).head? = some 10 }
    if a.size = b.size && a.size = wanted then return .inl (next, x, y)
    if a.size = b.size then return .inr (if differs then 1 else 0)
    let short := if a.size < b.size then names.1 else names.2
    unless r.silent do
      if next.offset = 0 then complain ("EOF on " ++ short ++ " which is empty")
      else
        let place := "EOF on " ++ short ++ " after byte " ++ toString next.offset
        if r.all then complain place
        else if next.lastNewline then complain (place ++ ", line " ++ toString next.lines)
        else complain (place ++ ", in line " ++ toString (next.lines + 1))
    return .inr 1) ({}, streams.1, streams.2)

def main (args : List String) : Tool Nat := do
  let (found, operands) ← match table.withHelp.read (args.length + 1) args with
    | .ok result => pure result
    | .error message => giveUp message
  if found.has "--help" || found.has "--version" then return 0
  let mut r : Request :=
    { silent := found.has "s", all := found.has "l", chars := found.has "b" || found.has "c" }
  for (key, value) in found do
    let text := value.getD ""
    if key = "n" then r := { r with limit := some (← number "bytes" text) }
    if key = "i" then
      match text.splitOn ":" with
      | [a, b] =>
        r := { r with skips := (← number "ignore-initial" a, ← number "ignore-initial" b) }
      | _ =>
        let n ← number "ignore-initial" text
        r := { r with skips := (n, n) }
  let (first, second) ← match operands with
    | [] => giveUp "missing operand after 'cmp'"
    | [a] => pure (a, "-")
    | a :: b :: skips =>
      match skips with
      | [] => pure ()
      | [x] => r := { r with skips := (← number "ignore-initial" x, r.skips.2) }
      | [x, y] =>
        r := { r with skips := (← number "ignore-initial" x, ← number "ignore-initial" y) }
      | x :: y :: extra :: _ =>
        let _ ← number "ignore-initial" x
        let _ ← number "ignore-initial" y
        giveUp ("extra operand '" ++ extra ++ "'")
      pure (a, b)
  let request := r
  let start (operand : String) (skip : Nat) : Tool (Stream × Option Nat) := do
    match ← openInput operand with
    | .error fault =>
      if request.silent then throw 2 else fail 2 (operand ++ ": " ++ fault.describe)
    | .ok () =>
      let size := match ← nodeAt? (← get).stream.descriptor with
        | some { content := .file bytes, .. } => some (bytes.size - skip)
        | _ => none
      match ← nextBytes skip with
      | .error fault => fail 2 (operand ++ ": " ++ fault.describe)
      | .ok _ => return ((← get).stream, size)
  let (a, n) ← start first r.skips.1
  let (b, m) ← start second r.skips.2
  if first = "-" && second = "-" then return 0
  let limits := [n, m, r.limit].filterMap id
  let most := limits.foldl min 9223372036854775807
  compareFrom request (toString most).length (first, second) (a, b)

end RegisterLang.Tool.Compare
