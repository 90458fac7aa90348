import RegisterLang.Host.Regex.Match
import RegisterLang.Host.Shell.Format
import RegisterLang.Host.Tool.Divide

namespace RegisterLang.Tool.Section

inductive Target where
  | line (number : Nat)
  | pattern (m : Regex.Matcher) (offset : Int) (skip : Bool)

/-- Where a part ends, and how often that is repeated. -/
structure Control where
  text : String
  target : Target
  repeats : Option Nat := some 0

def readRepeats (text : String) : Tool (Option Nat) := do
  let inside := text.toList.drop 1
  if inside.getLast? ≠ some '}' then fail 1 (cited text ++ ": '\x7d' is required in repeat count")
  let digits := inside.dropLast
  if digits = ['*'] then return none
  if digits.isEmpty || !digits.all Char.isDigit then
    fail 1 ("'\x7b" ++ String.ofList digits ++
      "'\x7d: integer required between '\x7b' and '\x7d'")
  return some (Real.readDigits 10 digits)

def readTarget (text : String) : Tool Target := do
  match text.toList with
  | c :: rest =>
    if c = '/' || c = '%' then
      -- The last sign of the same kind closes the pattern.
      let after := rest.reverse.takeWhile (· ≠ c)
      if after.length = rest.length then
        fail 1 (quotedIfNeeded text ++ ": closing delimiter '" ++ c.toString ++ "' missing")
      let body := String.ofList (rest.take (rest.length - after.length - 1))
      let offset := after.reverse
      let (negative, digits) := match offset with
        | '-' :: digits => (true, digits)
        | '+' :: digits => (false, digits)
        | _ => (false, offset)
      if !offset.isEmpty && (digits.isEmpty || !digits.all Char.isDigit) then
        fail 1 (cited text ++ ": integer expected after delimiter")
      let n : Int := Real.readDigits 10 digits
      match Regex.prepare { lastBracket := .unreadable } body with
      | .error fault => fail 1 (cited text ++ ": invalid regular expression: " ++ fault.message)
      | .ok m => return .pattern m (if negative then -n else n) (c = '%')
    else if text.toList.all Char.isDigit then
      let n := Real.readDigits 10 text.toList
      if n = 0 then fail 1 (text ++ ": line number must be greater than zero")
      return .line n
    else fail 1 (cited text ++ ": invalid pattern")
  | [] => fail 1 (cited text ++ ": invalid pattern")

def readControls : List String → Nat → Tool (List Control)
  | [], _ => return []
  | [text], last => do return [(← one text last).1]
  | text :: next :: rest, last => do
    let (control, last) ← one text last
    if next.startsWith "\x7b" then
      let repeats ← readRepeats next
      return { control with repeats } :: (← readControls rest last)
    else return control :: (← readControls (next :: rest) last)
where
  one (text : String) (last : Nat) : Tool (Control × Nat) := do
    let target ← readTarget text
    match target with
    | .line n =>
      if n < last then
        fail 1 ("line number " ++ cited text ++ " is smaller than preceding line number, " ++
          toString last)
      if n = last then
        complain ("warning: line number " ++ cited text ++
          " is the same as preceding line number")
      return ({ text, target }, n)
    | _ => return ({ text, target }, last)

structure Ending where
  before : String
  directive : Shell.Format.Directive
  after : String

def Ending.name (e : Ending) (n : Nat) : String :=
  let number := if e.directive.letter = 'd' || e.directive.letter = 'i' then e.directive.signed n
    else e.directive.unsigned n
  e.before ++ number ++ e.after

def readEnding (text : String) : Tool Ending := do
  let rec literal : List Char → List Char → List Char × List Char
    | '%' :: '%' :: cs, done => literal cs ('%' :: done)
    | '%' :: cs, done => (done.reverse, '%' :: cs)
    | c :: cs, done => literal cs (c :: done)
    | [], done => (done.reverse, [])
  let (before, rest) := literal text.toList []
  match rest with
  | [] => fail 1 "missing % conversion specification in suffix"
  | _ :: cs =>
    let isFlag (c : Char) : Bool := "-+ #0'".toList.contains c
    let flags := cs.takeWhile isFlag
    let cs := cs.drop flags.length
    let width := cs.takeWhile Char.isDigit
    let cs := cs.drop width.length
    let (precision, cs) := match cs with
      | '.' :: more =>
        let digits := more.takeWhile Char.isDigit
        (some (Real.readDigits 10 digits), more.drop digits.length)
      | _ => (none, cs)
    match cs with
    | [] => fail 1 "missing conversion specifier in suffix"
    | letter :: cs =>
      unless "diuoxX".toList.contains letter do
        fail 1 ("invalid conversion specifier in suffix: " ++ letter.toString)
      let (after, rest) := literal cs []
      unless rest.isEmpty do fail 1 "too many % conversion specifications in suffix"
      return { before := String.ofList before, after := String.ofList after
               directive := { flags, width := Real.readDigits 10 width, precision, letter } }

structure State where
  lines : Array ByteArray
  taken : Nat := 0
  current : Nat := 0
  files : List String := []
  part : Option ByteArray := none

structure Setup where
  head : String := "xx"
  ending : Ending
  silent : Bool := false
  elide : Bool := false
  keep : Bool := false
  suppress : Bool := false

def openPart (setup : Setup) (s : State) : Tool State := do
  let name := setup.head ++ setup.ending.name s.files.length
  match ← Strand.openAt (Octet.toText name) { write := true, create := true, truncate := true } with
  | .error fault => fail 1 (quotedIfNeeded name ++ ": " ++ fault.describe)
  | .ok descriptor =>
    Strand.closeAt descriptor
    return { s with files := s.files ++ [name], part := some .empty }

def close (setup : Setup) (s : State) : Tool State := do
  match s.part, s.files.getLast? with
  | some bytes, some name =>
    if bytes.isEmpty && setup.elide then
      let _ ← Strand.changeDisk (·.remove (Octet.toText name))
      return { s with files := s.files.dropLast, part := none }
    match ← Strand.openAt (Octet.toText name) { write := true, truncate := true } with
    | .ok descriptor =>
      let _ ← Strand.writeAt descriptor bytes
      Strand.closeAt descriptor
    | .error _ => pure ()
    unless setup.silent do sayLine (toString bytes.size)
    return { s with part := none }
  | _, _ => return s

def takeTo (s : State) (number : Nat) : State :=
  let finish := min s.lines.size (number - 1)
  let bytes := Divide.joined (s.lines.extract s.taken finish).toList
  { s with taken := max s.taken finish, part := s.part.map (· ++ bytes) }

def giveUp {α : Type} (setup : Setup) (s : State) (message : String) : Tool α := do
  reportAhead ((← get).name ++ ": " ++ message ++ "\n")
  let s ← close setup s
  unless setup.keep do
    for name in s.files do
      let _ ← Strand.changeDisk (·.remove (Octet.toText name))
  throw 1

def onRepetition (n : Nat) : String := if n = 0 then "" else " on repetition " ++ toString n

def dropLine (s : State) : State := { s with taken := min s.lines.size (s.taken + 1) }

/-- Writes a part that ends where a control says. -/
def divideAt (setup : Setup) (c : Control) (repetition : Nat) (s : State) : Tool State := do
  let atEnd (s : State) : Bool := s.lines.size ≤ s.taken
  match c.target with
  | .line n =>
    let s ← openPart setup s
    let outOfRange (s : State) : Tool State :=
      giveUp setup s (cited c.text ++ ": line number out of range" ++ onRepetition repetition)
    if s.lines.isEmpty then fail 1 "input disappeared"
    if atEnd s && setup.suppress then outOfRange s
    else
      let goal := n * (repetition + 1)
      let s := takeTo s goal
      if s.taken + 1 < goal then outOfRange s
      else
        let s ← if setup.suppress then pure s else
          if atEnd s then outOfRange s else pure s
        let s ← close setup s
        let s := if setup.suppress then dropLine s else s
        return { s with current := max s.current s.taken }
  | .pattern m offset skip =>
    let s ← if skip then pure s else openPart setup s
    let start := max s.current s.taken
    let content (line : ByteArray) : ByteArray :=
      if line.size ≠ 0 && line.get! (line.size - 1) = 10 then line.extract 0 (line.size - 1)
      else line
    let found := (List.range (s.lines.size - start)).find? fun i ↦
      (m.search { text := content (s.lines.getD (start + i) .empty) }).isSome
    match found with
    | none =>
      let rest := if skip then s else takeTo s (s.lines.size + 1)
      if c.repeats.isNone then
        let _ ← if skip then pure s else close setup rest
        throw 0
      else giveUp setup rest (cited c.text ++ ": match not found" ++ onRepetition repetition)
    | some i =>
      let line := start + i + 1
      let goal := Int.ofNat line + offset
      let outOfRange (s : State) : Tool State :=
        giveUp setup s (cited c.text ++ ": line number out of range")
      if goal < Int.ofNat s.taken + 1 then outOfRange s
      else
        let s := takeTo s goal.toNat
        if s.taken + 1 < goal.toNat then outOfRange s
        else
          let s ← if skip then pure s else close setup s
          let s := { s with current := if 0 < offset then goal.toNat else line }
          return if setup.suppress then dropLine s else s

def divideAll (setup : Setup) (c : Control) : Nat → Nat → State → Tool State
  | 0, _, s => return s
  | n + 1, repetition, s => do
    if c.repeats.any (· < repetition) then return s
    else
      Strand.pause
      divideAll setup c n (repetition + 1) (← divideAt setup c repetition s)

/-- Divides a file at lines that are named by numbers or by patterns. -/
def main (args : List String) : Tool Nat := do
  let (found, operands) ← options
    { short := "f:b:kn:sqz"
      long := OptionTable.plain
        [("keep-files", "k"), ("silent", "s"), ("quiet", "s"), ("elide-empty-files", "z"),
          ("suppress-matched", "suppress-matched")] ++
        OptionTable.valued [("prefix", "f"), ("suffix-format", "b"), ("digits", "n")] } args
  let digits ← match found.value? "n" with
    | none => pure 2
    | some text =>
      if text.isEmpty || !text.toList.all Char.isDigit then
        fail 1 ("invalid number: " ++ cited text)
      pure (Real.readDigits 10 text.toList)
  let source ← match operands with
    | [] => missingOperand
    | [source] => failWithHelp 1 ("missing operand after " ++ cited source)
    | source :: _ => pure source
  let ending ← match found.value? "b" with
    | some text => readEnding text
    | none =>
      pure { before := "", after := ""
             directive := { flags := ['0'], width := digits, precision := none, letter := 'd' } }
  let setup : Setup :=
    { head := (found.value? "f").getD "xx", ending
      silent := found.has "s" || found.has "q", elide := found.has "z", keep := found.has "k"
      suppress := found.has "suppress-matched" }
  match ← openInput source with
  | .error fault => fail 1 ("cannot open " ++ quoted source ++ " for reading: " ++ fault.describe)
  | .ok () => pure ()
  let controls ← readControls operands.tail 0
  let bytes ← match ← restOfInput with
    | .ok bytes => pure bytes
    | .error fault => fail 1 ("read error: " ++ fault.describe)
  let lines := (Divide.linesOf 10 bytes (bytes.size + 1) 0).toArray
  let mut s : State := { lines }
  for c in controls do s ← divideAll setup c (lines.size + 2 + c.repeats.getD 0) 0 s
  s ← openPart setup s
  s := takeTo s (lines.size + 1)
  let _ ← close setup s
  return 0

end RegisterLang.Tool.Section
