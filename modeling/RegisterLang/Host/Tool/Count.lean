import RegisterLang.Text.Blank
import RegisterLang.Host.Tool.Clock

namespace RegisterLang.Tool.Count

/-- What was counted so far, with the width of the line at hand. -/
structure Counts where
  lines : Nat := 0
  words : Nat := 0
  bytes : Nat := 0
  widest : Nat := 0
  width : Nat := 0
  inWord : Bool := false

namespace Counts

def step (c : Counts) (b : UInt8) : Counts :=
  let c := { c with bytes := c.bytes + 1 }
  let close (c : Counts) : Counts :=
    { c with widest := max c.widest c.width, width := 0, inWord := false }
  if b = 10 then close { c with lines := c.lines + 1 }
  else if b = 13 || b = 12 then close c
  else if b = 9 then { c with width := c.width / 8 * 8 + 8, inWord := false }
  else if b = 32 then { c with width := c.width + 1, inWord := false }
  else if b = 11 then { c with inWord := false }
  else if 32 < b && b < 127 then
    { c with
      width := c.width + 1, inWord := true, words := if c.inWord then c.words else c.words + 1 }
  else c

def finish (c : Counts) : Counts := { c with widest := max c.widest c.width }

def add (a b : Counts) : Counts :=
  { lines := a.lines + b.lines, words := a.words + b.words, bytes := a.bytes + b.bytes
    widest := max a.widest b.widest }

def select (c : Counts) (keys : List String) : List Nat :=
  keys.map fun key ↦
    match key with
    | "l" => c.lines
    | "w" => c.words
    | "L" => c.widest
    | _ => c.bytes

end Counts

def table : OptionTable :=
  { short := "clLmw"
    long := OptionTable.plain
      [("bytes", "c"), ("chars", "m"), ("lines", "l"), ("words", "w"), ("debug", "debug"),
        ("max-line-length", "L")] ++
      OptionTable.valued [("files0-from", "files0-from"), ("total", "total")] }

def measure (operand : String) : Tool (Option (Option Nat)) := do
  let node ← if operand = "-" then nodeAt? 0 else do pure (← node? operand).toOption
  return node.map fun n ↦
    match n.content with
    | .file bytes => some bytes.size
    | _ => none

def columnWidth (columns : Nat) (inputs : List String) : Tool Nat := do
  if columns = 1 && inputs.length = 1 then return 1
  let mut total := 0
  let mut least := 1
  for operand in inputs do
    match ← measure operand with
    | none => pure ()
    | some none => least := 7
    | some (some size) => total := total + size
  return max least (toString total).length

def main (args : List String) : Tool Nat := do
  let (found, operands) ← options table args
  let keys := ["l", "w", "m", "c", "L"].filter found.has
  let keys := if keys.isEmpty then ["l", "w", "c"] else keys
  let total ← match found.value? "total" with
    | none => pure "auto"
    | some text => chooseWord "--total" [["auto"], ["always"], ["only"], ["never"]] text
  let (inputs, listed) ← match found.value? "files0-from" with
    | none => pure (if operands.isEmpty then ["-"] else operands, false)
    | some path =>
      if let some extra := operands.head? then
        failWithHelp 1 ("extra operand " ++ cited extra ++
          "\nfile operands cannot be combined with --files0-from")
      match ← contentsOf path with
      | .error fault =>
        fail 1 ("cannot open " ++ quoted path ++ " for reading: " ++ fault.describe)
      | .ok bytes =>
        let names := (Octet.ofBytes bytes).splitOn "\x00"
        pure (if names.getLast? = some "" then names.dropLast else names, true)
  let width ← if total = "only" then pure 1 else columnWidth keys.length inputs
  let row (c : Counts) (title : Option String) : Tool Unit :=
    let columns := (c.select keys).map fun n ↦ Text.padLeft width ' ' (toString n)
    sayLine (" ".intercalate (columns ++ title.toList))
  let mut sum : Counts := {}
  let mut status := 0
  for operand in inputs do
    if operand.isEmpty then
      complain "invalid zero-length file name"
      status := 1
    else
      let shown := if operand = "-" && operands.isEmpty && !listed then none else some operand
      match ← openInput operand with
      | .error fault =>
        complain (quotedIfNeeded operand ++ ": " ++ fault.describe)
        status := 1
      | .ok () =>
        let (c, fault) ← iterate (fun (c : Counts) ↦ do
          match ← nextBlock with
          | .error fault => return .inr (c, some fault)
          | .ok block =>
            if block.isEmpty then return .inr (c, none)
            else return .inl (block.foldl Counts.step c)) {}
        closeInput
        if let some fault := fault then
          let named := if operand = "-" then "standard input" else operand
          complain (quotedIfNeeded named ++ ": " ++ fault.describe)
          status := 1
        let c := c.finish
        sum := sum.add c
        unless total = "only" do row c shown
  let wanted := match total with
    | "always" | "only" => true
    | "never" => false
    | _ => inputs.length > 1
  if wanted then row sum (if total = "only" then none else some "total")
  return status

end RegisterLang.Tool.Count
