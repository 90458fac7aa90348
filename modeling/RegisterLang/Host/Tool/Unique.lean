import RegisterLang.Host.Tool.Sort

namespace RegisterLang.Tool.Unique

structure Request where
  fields : Nat := 0
  chars : Nat := 0
  width : Option Nat := none
  fold : Bool := false
  counts : Bool := false
  single : Bool := true
  first : Bool := true
  later : Bool := false
  dividing : String := "none"
  grouping : Option String := none
  zeroEnded : Bool := false

namespace Request

def part (r : Request) (line : String) : List Char :=
  let rest := (Sort.Key.skipFields none r.fields line.toList).drop r.chars
  let rest := match r.width with
    | some n => rest.take n
    | none => rest
  if r.fold then rest.map Char.toLower else rest

end Request

def shown (r : Request) (line : String) (repeats : Bool) (before : Nat) : String :=
  let wanted := if before = 0 then r.single else if repeats then r.later else r.first
  if !wanted then ""
  else (if r.counts then Text.padLeft 7 ' ' (toString (before + 1)) ++ " " else "") ++ line ++
    if r.zeroEnded then "\x00" else "\n"

/-- Goes through the lines and shows those that stand for their repeats. -/
def select (r : Request) : (last : String) → List Char → (before : Nat) → (isFirst : Bool) →
    List (String × List Char) → List String → List String
  | last, _, before, _, [], done => (shown r last false before :: done).reverse
  | last, key, before, isFirst, (line, other) :: rest, done =>
    let mark := if r.zeroEnded then "\x00" else "\n"
    if key = other then
      let divider := if r.dividing ≠ "none" && before = 0 &&
        (r.dividing = "prepend" || !isFirst) then [mark] else []
      if r.later then
        select r line other (before + 1) isFirst rest
          (shown r last true (before + 1) :: divider ++ done)
      else select r last key (before + 1) isFirst rest (divider ++ done)
    else
      let isFirst := isFirst && (r.dividing = "none" || before = 0)
      select r line other 0 isFirst rest (shown r last false before :: done)

def group (how mark : String) : Option (List Char) → List (String × List Char) → List String
  | last, [] => if last.isSome && (how = "both" || how = "append") then [mark] else []
  | last, (line, key) :: rest =>
    let isNew := last ≠ some key
    let divided := isNew &&
      (how = "prepend" || how = "both" && last.isNone || how ≠ "prepend" && last.isSome)
    (if divided then [mark] else []) ++ (line ++ mark) :: group how mark (some key) rest

def table : OptionTable :=
  { short := "0123456789cdDf:is:uw:z"
    long := OptionTable.plain
      [("count", "c"), ("repeated", "d"), ("ignore-case", "i"), ("unique", "u"),
        ("zero-terminated", "z")] ++
      [{ name := "all-repeated", key := "D", need := .maybe },
        { name := "group", key := "group", need := .maybe }] ++
      OptionTable.valued [("skip-fields", "f"), ("skip-chars", "s"), ("check-chars", "w")] }

def number (text what : String) : Tool Nat := do
  match readCount "" text with
  | .ok n => return n
  | .error .tooLarge => return countLimit
  | .error .invalid => fail 1 (text ++ ": invalid number of " ++ what)

def apply (r : Request) (key : String) (value : Option String) : Tool Request := do
  match key, value with
  | "c", _ => return { r with counts := true }
  | "d", _ => return { r with single := false }
  | "D", none => return { r with single := false, later := true }
  | "D", some text =>
    let word ← chooseWord "--all-repeated" [["none"], ["prepend"], ["separate"]] text
    return { r with single := false, later := true, dividing := word }
  | "group", none => return { r with grouping := some "separate" }
  | "group", some text =>
    let word ← chooseWord "--group" [["prepend"], ["append"], ["separate"], ["both"]] text
    return { r with grouping := some word }
  | "f", some text => return { r with fields := ← number text "fields to skip" }
  | "s", some text => return { r with chars := ← number text "bytes to skip" }
  | "w", some text => return { r with width := some (← number text "bytes to compare") }
  | "i", _ => return { r with fold := true }
  | "u", _ => return { r with first := false }
  | "z", _ => return { r with zeroEnded := true }
  | _, _ => return r

def oldSkip? (operand : String) : Option Nat :=
  match operand.toList with
  | '+' :: digits => if digits.all Char.isDigit then (String.ofList digits).toNat? else none
  | _ => none

def main (args : List String) : Tool Nat := do
  let (found, operands) ← options table args
  let mut r : Request := {}
  let mut digits := ""
  for (key, value) in found do
    if key.toList.all Char.isDigit then digits := digits ++ key
    r ← apply r key value
  if let some n := digits.toNat? then r := { r with fields := n }
  for operand in operands do
    if let some n := oldSkip? operand then r := { r with chars := n }
  let operands := operands.filter fun o ↦ (oldSkip? o).isNone
  if let _ :: _ :: extra :: _ := operands then extraOperand extra
  if r.grouping.isSome && ["c", "d", "D", "u"].any found.has then
    failWithHelp 1 "--group is mutually exclusive with -c/-d/-D/-u"
  if r.counts && r.later then
    failWithHelp 1 "printing all duplicated lines and repeat counts is meaningless"
  let input := operands.headD "-"
  match ← openInput input with
  | .error fault => fail 1 (quotedIfNeeded input ++ ": " ++ fault.describe)
  | .ok () =>
    if let some output := operands.tail.head? then
      unless output = "-" do
        let how : Opening := { write := true, create := true, truncate := true }
        match ← Strand.openAt (Octet.toText output) how with
        | .error fault => fail 1 (quotedIfNeeded output ++ ": " ++ fault.describe)
        | .ok n => Strand.moveDescriptor n 1
    match ← restOfInput with
    | .error fault => fail 1 ("error reading " ++ quoted input ++ ": " ++ fault.describe)
    | .ok bytes =>
      let mark := if r.zeroEnded then "\x00" else "\n"
      let lines := (Octet.ofBytes bytes).splitOn mark
      let lines := if lines.getLast? = some "" then lines.dropLast else lines
      let request := r
      let keyed := lines.map fun l ↦ (l, request.part l)
      let parts := match request.grouping, keyed with
        | some how, _ => group how mark none keyed
        | none, [] => []
        | none, (line, key) :: rest => select request line key 0 true rest []
      say (String.join parts)
      return 0

end RegisterLang.Tool.Unique
