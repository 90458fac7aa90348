import RegisterLang.Host.Tool.Options

namespace RegisterLang.Tool.Shuffle

def next (seed : Nat) : Nat := (seed * 6364136223846793005 + 1442695040888963407) %
  18446744073709551616

def below (bound seed : Nat) : Nat := seed / 4294967296 % bound

/-- Swaps each of the first items with one that stands at or after it. -/
def shuffle (items : Array String) (count seed : Nat) : Array String :=
  let (items, _) := (List.range (min count items.size)).foldl (fun (items, seed) i ↦
    let seed := next seed
    (items.swapIfInBounds i (i + below (items.size - i) seed), seed)) (items, next seed)
  items.extract 0 count

inductive Source where
  | lines (operand : String)
  | items (items : List String)
  | range (low high : Nat)

def readRange (text : String) : Tool Source := do
  let cs := text.toList
  let low := cs.takeWhile Char.isDigit
  match cs.drop low.length with
  | '-' :: high =>
    if !low.isEmpty && !high.isEmpty && high.all Char.isDigit then
      let a := Real.readDigits 10 low
      let b := Real.readDigits 10 high
      if a ≤ b + 1 then return .range a b
    fail 1 ("invalid input range: " ++ cited text)
  | _ => fail 1 ("invalid input range: " ++ cited text)

def table : OptionTable :=
  { short := "ei:n:o:rz"
    long := OptionTable.plain [("echo", "e"), ("repeat", "r"), ("zero-terminated", "z")] ++
      OptionTable.valued
        [("input-range", "i"), ("head-count", "n"), ("output", "o"), ("random-source", "source")] }

def itemsOf (mark : UInt8) : Source → Tool (Array String)
  | .items items => return items.toArray
  | .range low high => return ((List.range (high + 1 - low)).map fun i ↦ toString (low + i)).toArray
  | .lines operand => do
    match ← openInput operand with
    | .error fault => fail 1 (quotedIfNeeded operand ++ ": " ++ fault.describe)
    | .ok () =>
      let lines ← iterate (fun (lines : Array String) ↦ do
        match ← nextLine mark with
        | .ok (some (line, _)) => return .inl (lines.push line)
        | _ => return .inr lines) #[]
      closeInput
      return lines

def main (args : List String) : Tool Nat := do
  let (found, operands) ← options table args
  let mut count : Option Nat := none
  for (key, value) in found do
    if key = "n" then
      let text := value.getD ""
      match readCount "" text with
      | .ok n => count := some (min n (count.getD n))
      | .error .tooLarge => pure ()
      | .error .invalid => fail 1 ("invalid line count: " ++ cited text)
  if 1 < (found.filter (·.1 = "i")).length then fail 1 "multiple -i options specified"
  if 1 < ((found.filter (·.1 = "o")).map (·.2)).eraseDups.length then
    fail 1 "multiple output files specified"
  let range ← match found.value? "i" with
    | none => pure none
    | some text => some <$> readRange text
  if range.isSome && found.has "e" then failWithHelp 1 "cannot combine -e and -i options"
  let source : Source ← match range, found.has "e", operands with
    | some range, _, [] => pure range
    | some _, _, extra :: _ => extraOperand extra
    | none, true, items => pure (.items items)
    | none, false, [] => pure (.lines "-")
    | none, false, [operand] => pure (.lines operand)
    | none, false, _ :: extra :: _ => extraOperand extra
  if let some path := found.value? "source" then
    if let .error fault ← look path then fail 1 (quotedIfNeeded path ++ ": " ++ fault.describe)
  let ending := if found.has "z" then "\x00" else "\n"
  let items ← itemsOf (if found.has "z" then 0 else 10) source
  if let some path := found.value? "o" then
    match ←
        Strand.openAt (Octet.toText path) { write := true, create := true, truncate := true } with
    | .error fault => fail 1 (quotedIfNeeded path ++ ": " ++ fault.describe)
    | .ok descriptor => Strand.moveDescriptor descriptor 1
  let seed : Nat ← Strand.ask fun id s ↦ s.disk.now + s.now + id
  if found.has "r" then
    if count = some 0 then return 0
    if items.isEmpty then fail 1 "no lines to repeat"
    iterate (fun ((left, seed) : Option Nat × Nat) ↦ do
      if left = some 0 then return .inr ()
      let seed := next seed
      say (items.getD (below items.size seed) "" ++ ending)
      if (← get).fault.isSome then return .inr ()
      return .inl (left.map (· - 1), seed)) (count, seed)
  else
    for item in shuffle items (count.getD items.size) seed do say (item ++ ending)
  return 0

end RegisterLang.Tool.Shuffle
