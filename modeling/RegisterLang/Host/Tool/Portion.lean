import RegisterLang.Host.Tool.Options

namespace RegisterLang.Tool

/-- How much is shown, and whether it counts from the other end. -/
structure Portion where
  bytes : Bool := false
  count : Nat := 10
  opposite : Bool := false
  delimiter : UInt8 := 10
  titles : Option Bool := none

namespace Portion

def readAmount (bytes : Bool) (text : String) : Tool Nat :=
  amount usualSuffixes ("invalid number of " ++ if bytes then "bytes" else "lines") text

def table : OptionTable :=
  { short := "c:n:qvz0123456789"
    long := OptionTable.valued [("bytes", "c"), ("lines", "n")] ++
      OptionTable.plain
        [("quiet", "q"), ("silent", "q"), ("verbose", "v"), ("zero-terminated", "z")] }

def oldLetters : List Char → Portion × String → Except Char (Portion × String)
  | [], p => .ok p
  | c :: cs, (p, suffix) =>
    match c with
    | 'c' => oldLetters cs ({ p with bytes := true }, "")
    | 'b' | 'k' | 'm' => oldLetters cs ({ p with bytes := true }, c.toString)
    | 'l' => oldLetters cs ({ p with bytes := false }, suffix)
    | 'q' => oldLetters cs ({ p with titles := some false }, suffix)
    | 'v' => oldLetters cs ({ p with titles := some true }, suffix)
    | 'z' => oldLetters cs ({ p with delimiter := 0 }, suffix)
    | _ => .error c

def readOld (args : List String) : Tool (Portion × List String) := do
  match args with
  | arg :: rest =>
    match arg.toList with
    | '-' :: c :: cs =>
      if c.isDigit then
        let digits := (c :: cs).takeWhile Char.isDigit
        match oldLetters ((c :: cs).dropWhile Char.isDigit) ({}, "") with
        | .error c => failWithHelp 1 ("invalid trailing option -- " ++ c.toString)
        | .ok (p, suffix) =>
          let n ← readAmount p.bytes (String.ofList digits ++ suffix)
          return ({ p with count := n }, rest)
      else return ({}, args)
    | _ => return ({}, args)
  | [] => return ({}, args)

def readOptions (sign : Char) (p : Portion) (found : OptionList) : Tool Portion := do
  let mut p := p
  for (key, value) in found do
    let text := value.getD ""
    match key with
    | "c" | "n" =>
      let bytes := key = "c"
      let opposite := text.toList.head? = some sign
      let signless := if opposite || (sign = '+' && text.toList.head? = some '-') then
        String.ofList (text.toList.drop 1) else text
      p := { p with bytes, opposite, count := ← readAmount bytes signless }
    | "q" => p := { p with titles := some false }
    | "v" => p := { p with titles := some true }
    | "z" => p := { p with delimiter := 0 }
    | _ => pure ()
  return p

def showAll (p : Portion) (operands : List String) (act : Tool (Except SystemFault Unit)) :
    Tool Nat := do
  let titled := p.titles.getD (operands.length > 1)
  let mut first := true
  let mut status := 0
  for operand in (if operands.isEmpty then ["-"] else operands) do
    let shown := if operand = "-" then "standard input" else operand
    match ← openInput operand with
    | .error fault =>
      complain ("cannot open " ++ quoted operand ++ " for reading: " ++ fault.describe)
      status := 1
    | .ok () =>
      if titled then
        say ((if first then "" else "\n") ++ "==> " ++ shown ++ " <==\n")
        first := false
      if let .error fault ← act then
        complain ("error reading " ++ quoted shown ++ ": " ++ fault.describe)
        status := 1
      closeInput
  return status

end Portion

namespace Head

/-- What was read too much is there for the next program. -/
def giveBack : Tool Unit := do
  let stream := (← get).stream
  let extra := stream.buffer.size - stream.position
  unless extra = 0 do
    let _ ← Strand.call fun id s ↦ s.seek id stream.descriptor fun offset _ ↦ (offset : Int) - extra
  modify fun s ↦ { s with stream := { s.stream with buffer := .empty, position := 0 } }

def passBytes (n : Nat) : Tool (Except SystemFault Unit) :=
  iterate (fun n ↦ do
    if n = 0 then return .inr (.ok ())
    match ← nextBlock (min n 8192) with
    | .error fault => return .inr (.error fault)
    | .ok block =>
      if block.isEmpty then return .inr (.ok ())
      put block
      return .inl (n - block.size)) n

def endOfLines (bytes : ByteArray) (delimiter : UInt8) : Nat → Nat → Nat × Nat
  | 0, start => (start, 0)
  | n + 1, start =>
    match bytes.findIdx? (· = delimiter) start with
    | some i => endOfLines bytes delimiter n (i + 1)
    | none => (bytes.size, n + 1)

def passLines (delimiter : UInt8) (n : Nat) : Tool (Except SystemFault Unit) := do
  let result ← iterate (fun n ↦ do
    if n = 0 then return .inr (.ok ())
    match ← refill 8192 with
    | .error fault => return .inr (.error fault)
    | .ok false => return .inr (.ok ())
    | .ok true =>
      let stream := (← get).stream
      let (stop, missing) := endOfLines stream.buffer delimiter (min n stream.buffer.size) 0
      put (stream.buffer.extract 0 stop)
      modify fun s ↦ { s with stream := { s.stream with position := stop } }
      let left := if n ≤ stream.buffer.size then missing else n - (stream.buffer.size - missing)
      return .inl left) n
  giveBack
  return result

def main (args : List String) : Tool Nat := do
  let (p, args) ← Portion.readOld args
  let (found, operands) ← options Portion.table args
  if let some (key, _) := found.find? fun o ↦ o.1.toList.all Char.isDigit then
    failWithHelp 1 ("invalid trailing option -- " ++ key)
  let p ← p.readOptions '-' found
  p.showAll operands do
    if p.opposite then
      match ← restOfInput with
      | .error fault => return .error fault
      | .ok bytes =>
        if p.bytes then put (bytes.extract 0 (bytes.size - p.count))
        else
          let ends := bytes.data.toList.zipIdx.filterMap fun (b, i) ↦
            if b = p.delimiter then some (i + 1) else none
          let ends := if bytes.isEmpty || ends.getLast? = some bytes.size then ends
            else ends ++ [bytes.size]
          put (bytes.extract 0 (if p.count = 0 then bytes.size
            else ((0 :: ends).reverse[p.count]?).getD 0))
        return .ok ()
    else if p.bytes then passBytes p.count
    else passLines p.delimiter p.count

end Head

namespace Tail

def table : OptionTable :=
  { Portion.table with
    short := "c:n:fFqs:vz0123456789"
    long := Portion.table.long ++ OptionTable.plain [("retry", "retry")] ++
      OptionTable.valued [("pid", "pid"), ("sleep-interval", "s"), ("max-unchanged-stats", "m")] ++
      [{ name := "follow", key := "f", need := .maybe }] }

def readOld (args : List String) : Tool (Portion × List String) := do
  match args with
  | arg :: rest =>
    let letters (opposite : Bool) (cs : List Char) : Option Portion :=
      let digits := cs.takeWhile Char.isDigit
      let (unit, after) := match cs.dropWhile Char.isDigit with
        | 'c' :: more => (some (true, 1), more)
        | 'b' :: more => (some (true, 512), more)
        | 'l' :: more => (some (false, 1), more)
        | more => (none, more)
      let number := if digits.isEmpty then 10 else ((String.ofList digits).toNat?).getD 10
      if !(after.isEmpty || after = ['f']) || (cs.isEmpty && !opposite) then none
      else if !opposite && digits.isEmpty then none
      else
        let (bytes, factor) := unit.getD (false, 1)
        some { bytes, opposite, count := number * factor }
    let short := rest.length ≤ 1 || rest = ["--"]
    match arg.toList with
    | '+' :: cs =>
      match if short then letters true cs else none with
      | some p => return (p, rest)
      | none => return ({}, args)
    | '-' :: cs =>
      match if short then letters false cs else none with
      | some p => return (p, rest)
      | none => return ({}, args)
    | _ => return ({}, args)
  | [] => return ({}, args)

def lastLines (bytes : ByteArray) (delimiter : UInt8) (n : Nat) : ByteArray :=
  let starts := (bytes.data.toList.zipIdx.filterMap fun (b, i) ↦
    if b = delimiter && i + 1 < bytes.size then some (i + 1) else none)
  if n = 0 then .empty
  else
    match starts.reverse[n - 1]? with
    | some start => bytes.extract start bytes.size
    | none => bytes

/-- Passes on what follows the first lines or bytes. -/
def skipThen (p : Portion) : Tool (Except SystemFault Unit) :=
  iterate (fun left ↦ do
    match ← nextBlock with
    | .error fault => return .inr (.error fault)
    | .ok block =>
      if block.isEmpty then return .inr (.ok ())
      else if p.bytes then
        put (block.extract left block.size)
        return .inl (left - block.size)
      else
        let (start, missing) := Head.endOfLines block p.delimiter (min left block.size) 0
        put (block.extract start block.size)
        return .inl (if left ≤ block.size then missing else left - (block.size - missing)))
    (p.count - 1)

def main (args : List String) : Tool Nat := do
  let (p, args) ← readOld args
  let (found, operands) ← options table args
  if let some (key, _) := found.find? fun o ↦ o.1.toList.all Char.isDigit then
    fail 1 ("option used in invalid context -- " ++ key)
  let p ← p.readOptions '+' found
  p.showAll operands do
    if p.opposite then skipThen p
    else
      match ← restOfInput with
      | .error fault => return .error fault
      | .ok bytes =>
        put (if p.bytes then bytes.extract (bytes.size - p.count) bytes.size
          else lastLines bytes p.delimiter p.count)
        return .ok ()

end Tail

end RegisterLang.Tool
