import RegisterLang.Host.Tool.Field

namespace RegisterLang.Tool.Scale

open RegisterLang.Real (Value)

/-- What the letters mean: powers of 1000 or of 1024, or either. -/
inductive System where
  | none
  | auto
  | decimal
  | binary
  | marked
  deriving DecidableEq, Repr

def System.base : System → Nat
  | binary | marked => 1024
  | _ => 1000

inductive Rounding where
  | up
  | down
  | fromZero
  | towardsZero
  | nearest
  deriving DecidableEq, Repr

/-- What becomes of a field that holds no proper number. -/
inductive Strictness where
  | abort
  | fail
  | warn
  | ignore
  deriving DecidableEq, Repr

def divide (v : Value) (k : Nat) : Value :=
  match v with
  | .finite n a b => (Value.finite n a (b * k)).roundTo Real.extended
  | v => v

def multiply (v : Value) (k : Nat) : Value := (v.times k).roundTo Real.extended

def Rounding.apply (r : Rounding) (v : Value) : Value :=
  match v with
  | .finite negative a b =>
    let low := a / b
    let high := if a % b = 0 then low else low + 1
    let n := match r with
      | up => if negative then low else high
      | down => if negative then high else low
      | fromZero => high
      | towardsZero => low
      | nearest => (2 * a + b) / (2 * b)
    .finite negative n 1
  | v => v

def reaches (v : Value) (k : Nat) : Bool :=
  match v with
  | .finite _ a b => k * b ≤ a
  | _ => true

/-- Divides by the base until the number is below it, and counts how often. -/
def reduce (base : Nat) : Nat → Value → Nat → Value × Nat
  | 0, v, power => (v, power)
  | n + 1, v, power =>
    if reaches v base then reduce base n (divide v base) (power + 1) else (v, power)

def fixed (v : Value) (places : Nat) : String :=
  match v with
  | .finite negative a b =>
    (if negative && a ≠ 0 then "-" else "") ++ Real.fixedDigits a b places false
  | _ => "inf"

def general (v : Value) : String :=
  match v with
  | .finite negative a b => (if negative then "-" else "") ++ Real.generalDigits a b 6 false 'e'
  | _ => "inf"

def letters : List Char := suffixes

inductive Fault where
  | number
  | suffix
  | forbidden
  | missingMark
  | tooLarge
  | trailing (rest : String)

def Fault.message (text : String) : Fault → String
  | number => "invalid number: " ++ cited text
  | suffix => "invalid suffix in input: " ++ cited text
  | forbidden => "rejecting suffix in input: " ++ cited text ++ " (consider using --from)"
  | missingMark => "missing 'i' suffix in input: " ++ cited text ++ " (e.g Ki/Mi/Gi)"
  | tooLarge => "value too large to be converted: " ++ cited text
  | trailing rest => "invalid suffix in input " ++ cited text ++ ": " ++ cited rest

def digitLimit : Nat := 33

def readNumber (system : System) (text : String) : Except Fault (Value × Nat) := do
  let (negative, cs) := match text.toList with
    | '-' :: rest => (true, rest)
    | cs => (false, cs)
  let whole := cs.takeWhile Char.isDigit
  let after := cs.drop whole.length
  let (fraction, after, pointed) := match after with
    | '.' :: rest =>
      let fraction := rest.takeWhile Char.isDigit
      (fraction, rest.drop fraction.length, true)
    | _ => ([], after, false)
  if (whole.isEmpty && !pointed) || (pointed && fraction.isEmpty) then .error .number
  if digitLimit < whole.length then .error .tooLarge
  let value := (Value.finite negative (Real.readDigits 10 (whole ++ fraction))
    (Real.bigPower 10 fraction.length)).roundTo Real.extended
  let isBlank (c : Char) : Bool := c = ' ' || c = '\t'
  let (base, power, rest) : Nat × Nat × List Char ← match after with
    | [] => pure (system.base, 0, [])
    | _ =>
      match after.dropWhile isBlank with
      | [] => .error .suffix
      | c :: rest =>
        if !letters.contains c then .error .suffix
        else if system = .none then .error .forbidden
        else
          let power := letters.findIdx (· = c) + 1
          match system, rest with
          | .auto, 'i' :: rest => pure (1024, power, rest)
          | _, _ => pure (system.base, power, rest)
  let rest ← if system = .marked then
      match rest with
      | 'i' :: rest => pure rest
      | _ => .error .missingMark
    else pure rest
  unless rest.isEmpty do .error (.trailing (String.ofList rest))
  let value := multiply value (Real.bigPower base power)
  return (value, if power = 0 then fraction.length else 0)

/-- With a letter, a number below ten has one decimal, unless a precision is given. -/
def writeNumber (system : System) (rounding : Rounding) (precision : Option Nat) (places : Nat)
    (v : Value) : String :=
  let rounded (v : Value) (digits : Nat) : Value :=
    divide (rounding.apply (multiply v (Real.bigPower 10 digits))) (Real.bigPower 10 digits)
  match system with
  | .none =>
    let places := precision.getD places
    fixed (rounded v places) places
  | _ =>
    let (v, power) := reduce system.base 40 v 0
    let adjust := match precision with
      | some p => min (3 * power) p
      | none => if reaches v 10 then 0 else 1
    let v := rounded v adjust
    let (v, power) :=
      if reaches v system.base then (divide v system.base, power + 1) else (v, power)
    let isZero := match v with
      | .finite _ a _ => a = 0
      | _ => false
    let pointed := !isZero && !reaches v 10 && power ≠ 0
    fixed v (precision.getD (if pointed then 1 else 0)) ++
      (if power = 0 then "" else (letters.getD (power - 1) '?').toString ++
        (if system = .marked then "i" else ""))

/-- How numbers stand among other text. -/
structure Layout where
  before : String := ""
  after : String := ""
  width : Nat := 0
  left : Bool := false
  zeros : Nat := 0
  precision : Option Nat := none
  grouping : Bool := false

def readLayout (text : String) (width : Nat) (left : Bool) : Tool Layout := do
  let name := cited text
  let rec start : List Char → Nat → Option (Nat × List Char)
    | '%' :: '%' :: cs, n => start cs (n + 1)
    | '%' :: cs, n => some (n, cs)
    | _ :: cs, n => start cs (n + 1)
    | [], _ => none
  match start text.toList 0 with
  | none => fail 1 ("format " ++ name ++ " has no % directive")
  | some (length, cs) =>
    let rec flags : Nat → List Char → Bool × Bool → (Bool × Bool) × List Char
      | 0, cs, found => (found, cs)
      | n + 1, cs, (grouping, zero) =>
        let rest := cs.dropWhile (· = ' ')
        match rest with
        | '\x27' :: more => flags n more (true, zero)
        | '0' :: more => flags n more (grouping, true)
        | _ => ((grouping, zero), rest)
    let ((grouping, zero), cs) := flags (cs.length + 1) cs (false, false)
    let (negative, digits) := match cs with
      | '-' :: rest => (true, rest.takeWhile Char.isDigit)
      | _ => (false, cs.takeWhile Char.isDigit)
    let number := Real.readDigits 10 digits
    let cs := if digits.isEmpty then cs else cs.drop (digits.length + (if negative then 1 else 0))
    if cs.isEmpty then fail 1 ("format " ++ name ++ " ends in %")
    let (precision, cs) : Option Nat × List Char ← match cs with
      | '.' :: rest =>
        let digits := rest.takeWhile Char.isDigit
        if rest.head?.any fun c ↦ c = ' ' || c = '\t' || c = '+' || c = '-' then
          fail 1 ("invalid precision in format " ++ name)
        pure (some (Real.readDigits 10 digits), rest.drop digits.length)
      | _ => pure (none, cs)
    match cs with
    | 'f' :: after =>
      let rec check : List Char → Bool
        | '%' :: '%' :: cs => check cs
        | '%' :: _ => false
        | _ :: cs => check cs
        | [] => true
      unless check after do fail 1 ("format " ++ name ++ " has too many % directives")
      let layout : Layout :=
        { before := String.ofList (text.toList.take length), after := String.ofList after, width,
          left
          precision, grouping }
      if number = 0 then return layout
      else if negative then return { layout with width := number, left := true }
      else if zero then return { layout with zeros := number }
      else return { layout with width := number }
    | _ =>
      fail 1 ("invalid format " ++ name ++
        ", directive must be %[0]['][-][N][.][N]f")

structure Setup where
  source : System := .none
  goal : System := .none
  sourceUnit : Nat := 1
  goalUnit : Nat := 1
  rounding : Rounding := .fromZero
  strictness : Strictness := .abort
  suffix : String := ""
  layout : Layout := {}
  fields : List Cut.Range := [⟨1, some 1⟩]
  delimiter : Option Char := none
  autoPadding : Bool := true
  mark : String := "\n"

def plainLimit : Nat := 18

def Setup.convert (s : Setup) (number : Nat) (field : String) : Except String String := do
  let own := s.suffix.toList.reverse
  let reversed := field.toList.reverse
  let text := if own.length < reversed.length && own.isPrefixOf reversed then
    String.ofList (reversed.drop own.length).reverse else field
  let isBlank (c : Char) : Bool := c = ' ' || c = '\t'
  let trimmed := String.ofList (text.toList.dropWhile isBlank)
  let padding := if s.autoPadding then
    if trimmed.length < text.length || 1 < number then text.length else 0 else s.layout.width
  match readNumber s.source trimmed with
  | .error fault => .error (fault.message trimmed)
  | .ok (v, places) =>
    let v := if s.sourceUnit = 1 && s.goalUnit = 1 then v
      else divide (multiply v s.sourceUnit) s.goalUnit
    let places := s.layout.precision.getD places
    let (_, power) := reduce 10 5000 v 0
    if s.goal = .none && plainLimit < power + places then
      .error (if places = 0 then "value too large to be printed: '" ++ general v ++
          "' (consider using --to)"
        else "value/precision too large to be printed: '" ++ general v ++ "/" ++ toString places ++
          "' (consider using --to)")
    else if digitLimit - 1 < power then
      .error ("value too large to be printed: '" ++ general v ++ "' (cannot handle values > 999Q)")
    else
      let body := writeNumber s.goal s.rounding s.layout.precision places v
      let body := if s.layout.zeros = 0 then body
        else
          let (sign, digits) :=
            if body.startsWith "-" then ("-", (body.drop 1).toString) else ("", body)
          sign ++ Text.padLeft (s.layout.zeros - sign.length) '0' digits
      let body := body ++ s.suffix
      let body :=
        if s.layout.left then Text.padRight padding ' ' body else Text.padLeft padding ' ' body
      return s.layout.before ++ body ++ s.layout.after

def blankFields : Nat → List Char → List String
  | 0, _ => []
  | n + 1, cs =>
    let isBlank (c : Char) : Bool := c = ' ' || c = '\t' || c = '\n'
    let blanks := cs.takeWhile isBlank
    let word := (cs.drop blanks.length).takeWhile (!isBlank ·)
    let field := String.ofList (blanks ++ word)
    match cs.drop (blanks.length + word.length) with
    | [] => [field]
    | _ :: rest => field :: blankFields n rest

def Setup.line (s : Setup) (line : String) : Tool Bool := do
  let fields := match s.delimiter with
    | none => blankFields (line.length + 1) line.toList
    | some c => line.splitOn c.toString
  let mut good := true
  for (field, i) in fields.zipIdx do
    if i ≠ 0 then say ((s.delimiter.getD ' ').toString)
    if s.fields.any (·.contains (i + 1)) then
      match s.convert (i + 1) field with
      | .ok text => say text
      | .error message =>
        good := false
        unless s.strictness = .ignore do complain message
        if s.strictness = .abort then throw 2
        say field
    else say field
  return good

def readUnit (text : String) : Tool Nat := do
  let cs := text.toList
  let (digits, base) := match cs.reverse with
    | 'i' :: rest => (rest.reverse, 1024)
    | _ => (cs, 1000)
  let number := digits.takeWhile Char.isDigit
  let n := if number.isEmpty then 1 else Real.readDigits 10 number
  let factor? : Option Nat := match digits.drop number.length with
    | [] => if base = 1024 then none else some 1
    | [c] =>
      if letters.contains c then some (Real.power base (letters.findIdx (· = c) + 1)) else none
    | _ => none
  match factor? with
  | some factor =>
    if n * factor = 0 || text.isEmpty then fail 1 ("invalid unit size: " ++ cited text)
    return n * factor
  | none => fail 1 ("invalid unit size: " ++ cited text)

def table : OptionTable :=
  { short := "d:z"
    long := OptionTable.plain
      [("grouping", "grouping"), ("zero-terminated", "z"), ("debug", "debug")] ++
      OptionTable.valued
        [("from", "from"), ("from-unit", "from-unit"), ("to", "to"), ("to-unit", "to-unit"),
          ("round", "round"), ("padding", "padding"), ("suffix", "suffix"), ("delimiter", "d"),
          ("field", "field"), ("format", "format"), ("invalid", "invalid")] ++
      [{ name := "header", key := "header", need := .maybe }] }

def systems : List (String × System) :=
  [("none", .none), ("auto", .auto), ("si", .decimal), ("iec", .binary), ("iec-i", .marked)]

def roundings : List (String × Rounding) :=
  [("up", .up), ("down", .down), ("from-zero", .fromZero), ("towards-zero", .towardsZero),
    ("nearest", .nearest)]

def strictnesses : List (String × Strictness) :=
  [("abort", .abort), ("fail", .fail), ("warn", .warn), ("ignore", .ignore)]

def choice {α : Type} (option : String) (known : List (String × α)) (text : String) (fallback : α) :
    Tool α := do
  let word ← chooseWord option (known.map fun (name, _) ↦ [name]) text
  return (known.lookup word).getD fallback

def nonZero (what text : String) (signed : Bool) : Tool Int := do
  let (negative, digits) := match text.toList with
    | '-' :: rest => (signed, if signed then rest else '-' :: rest)
    | cs => (false, cs)
  let n : Int := Real.readDigits 10 digits
  if digits.isEmpty || !digits.all Char.isDigit || n = 0 then
    fail 1 ("invalid " ++ what ++ " value " ++ cited text)
  return if negative then -n else n

def readSetup (found : OptionList) : Tool (Setup × Nat) := do
  let mut s : Setup := {}
  let mut header := 0
  let mut sawField := false
  for (key, value) in found do
    let text := value.getD ""
    match key with
    | "from" => s := { s with source := ← choice "--from" systems text .none }
    | "to" =>
      s := { s with goal := ← choice "--to" (systems.filter (·.1 ≠ "auto")) text .none }
    | "from-unit" => s := { s with sourceUnit := ← readUnit text }
    | "to-unit" => s := { s with goalUnit := ← readUnit text }
    | "round" => s := { s with rounding := ← choice "--round" roundings text .fromZero }
    | "invalid" => s := { s with strictness := ← choice "--invalid" strictnesses text .abort }
    | "padding" =>
      let n ← nonZero "padding" text true
      s := { s with layout := { s.layout with width := n.natAbs, left := n < 0 } }
    | "suffix" => s := { s with suffix := text }
    | "d" =>
      match text.toList with
      | [] => s := { s with delimiter := some '\x00' }
      | [c] => s := { s with delimiter := some c }
      | _ => fail 1 "the delimiter must be a single character"
    | "z" => s := { s with mark := "\x00" }
    | "header" => header ← match value with
      | none => pure 1
      | some text => Int.toNat <$> nonZero "header" text false
    | "field" =>
      if sawField then fail 1 "multiple field specifications"
      sawField := true
      if text = "-" then s := { s with fields := [⟨1, none⟩] }
      else
        match Cut.readRanges Cut.fieldWords text.toList {} with
        | .ok ranges => s := { s with fields := ranges }
        | .error message => failWithHelp 1 message
    | _ => pure ()
  if let some text := found.value? "format" then
    if found.has "grouping" then fail 1 "--grouping cannot be combined with --format"
    s := { s with layout := ← readLayout text s.layout.width s.layout.left }
  if (found.has "grouping" || s.layout.grouping) && s.goal ≠ .none then
    fail 1 "grouping cannot be combined with --to"
  if found.has "debug" then
    if s.source = .none && s.goal = .none && !found.has "grouping" && s.layout.width = 0 &&
        (found.value? "format").isNone then
      complain "no conversion option specified"
  s := { s with autoPadding := s.layout.width = 0 && s.delimiter.isNone }
  return (s, header)

def main (args : List String) : Tool Nat := do
  let (found, operands) ← options table args
  let (setup, header) ← readSetup found
  let failed (good : Bool) : Nat := if good || setup.strictness ≠ .fail then 0 else 2
  if !operands.isEmpty then
    if found.has "debug" && header ≠ 0 then complain "--header ignored with command-line input"
    let mut good := true
    for operand in operands do
      unless ← setup.line operand do good := false
      say setup.mark
    return failed good
  else
    let code := (setup.mark.toList.headD ' ').toNat.toUInt8
    let good ← iterate (fun ((header, good) : Nat × Bool) ↦ do
      match ← nextLine code with
      | .error fault =>
        complain ("error reading input: " ++ fault.describe)
        return .inr good
      | .ok none => return .inr good
      | .ok (some (line, ended)) =>
        let fine ← if header ≠ 0 then do
          say line
          pure true
        else setup.line line
        if ended then say setup.mark
        return .inl (header - 1, good && fine)) (header, true)
    return failed good

end RegisterLang.Tool.Scale
