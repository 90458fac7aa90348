import RegisterLang.Host.Shell.Format
import RegisterLang.Host.Tool.Record.Program
import RegisterLang.Host.Tool.Record.Table

namespace RegisterLang

namespace Real.Value

def toFloat (v : Value) : Float :=
  let sign (negative : Bool) (x : Float) : Float := if negative then -x else x
  match v.roundTo double with
  | .finite negative a b =>
    -- The denominator is a power of two, by which the number can be divided exactly.
    sign negative ((Float.ofNat a).scaleB (-Int.ofNat b.log2))
  | .infinite negative => sign negative (1.0 / 0.0)
  | .undefined negative => if negative then 0.0 / 0.0 else -(0.0 / 0.0)

end Real.Value

namespace Tool.Record

/-- A number, a text, or a text that was read and counts as a number too. -/
inductive Value where
  | unset
  | number (x : Float)
  | text (octets : String)
  | reading (octets : String) (x : Float)

instance : Inhabited Value := ⟨.unset⟩

def isPlain (cs : List Char) : Bool := !cs.isEmpty && cs.all Char.isDigit && cs.length ≤ 15

def readNumber? (cs : List Char) : Option (Float × List Char) :=
  if isPlain cs then some (Float.ofNat (Real.readDigits 10 cs), [])
  else (Real.read? cs).map fun (v, rest) ↦ (v.toFloat, rest)

namespace Value

def ofBool (b : Bool) : Value := .number (if b then 1 else 0)

def ofNat (n : Nat) : Value := .number (Float.ofNat n)

def ofInt (n : Int) : Value := .number (Float.ofInt n)

def ofReading (octets : String) : Value :=
  match readNumber? octets.toList with
  | some (x, rest) => if rest.all Regex.isSpace then .reading octets x else .text octets
  | none => .text octets

def toNumber : Value → Float
  | unset => 0
  | number x => x
  | text octets => ((readNumber? octets.toList).map (·.1)).getD 0
  | reading _ x => x

def isTrue : Value → Bool
  | unset => false
  | number x => x != 0
  | text octets => !octets.isEmpty
  | reading _ x => x != 0

def isNumeric : Value → Bool
  | text _ => false
  | _ => true

end Value

def integral? (x : Float) : Option Int :=
  match Real.Value.ofFloat x with
  | .finite negative a b =>
    if a % b = 0 then some (if negative then -Int.ofNat (a / b) else a / b) else none
  | _ => none

/-- The whole part of a number, for an integer of 64 bits. Numbers beyond it are taken without their
sign bit. -/
def wholePart (x : Float) : Int :=
  match Real.Value.ofFloat x with
  | .finite negative a b =>
    let n := a / b
    if negative then max (-9223372036854775807) (-Int.ofNat n) else min 18446744073709551615 n
  | .infinite negative => if negative then -9223372036854775807 else 18446744073709551615
  | .undefined _ => -9223372036854775808

/-- A directive of a format, whose width and precision may be arguments. -/
structure Slot where
  flags : List Char := []
  width : Option (Option Nat) := none
  precision : Option (Option Nat) := none
  letter : Char

def count? : List Char → Option (Option Nat) × List Char
  | '*' :: rest => (some none, rest)
  | cs =>
    let digits := cs.takeWhile Char.isDigit
    if digits.isEmpty then (none, cs)
    else (some (some (Real.readDigits 10 digits)), cs.drop digits.length)

def slot? (cs : List Char) : Option (Slot × List Char) :=
  let isFlag (c : Char) : Bool := c = '-' || c = '+' || c = ' ' || c = '#' || c = '0'
  let flags := cs.takeWhile isFlag
  let (width, cs) := count? (cs.drop flags.length)
  let (precision, cs) := match cs with
    | '.' :: rest =>
      let (n, rest) := count? rest
      (some (n.getD (some 0)), rest)
    | _ => (none, cs)
  match cs.dropWhile fun c ↦ c = 'h' || c = 'l' with
  | letter :: rest => some ({ flags, width, precision, letter }, rest)
  | [] => none

structure Formatted where
  text : String
  complaint : Option String := none

def Slot.render (toText : Value → String) (d : Shell.Format.Directive) (v : Value) :
    Option String :=
  match d.letter with
  | 'c' =>
    match v with
    | .text octets => some (d.fill (octets.toList.headD '\x00').toString)
    | v => some (d.fill (Char.ofNat ((wholePart v.toNumber) % 256).toNat).toString)
  | 's' => some (d.text (toText v))
  | 'd' | 'i' => some (d.signed (wholePart v.toNumber))
  | 'o' | 'x' | 'X' | 'u' =>
    some (d.unsigned ((wholePart v.toNumber) % 18446744073709551616).toNat)
  | 'e' | 'E' | 'f' | 'F' | 'g' | 'G' =>
    let x := v.toNumber
    -- What cannot be computed has a sign.
    some (d.real Real.double (if x.isNaN then .undefined true else .ofFloat x))
  | _ => none

def format (toText : Value → String) (what whole : String) :
    Nat → (number : Nat) → List Char → List Value → List Char → Formatted
  | 0, _, _, _, done => { text := String.ofList done.reverse }
  | _ + 1, _, [], _, done => { text := String.ofList done.reverse }
  | n + 1, number, '%' :: '%' :: cs, values, done =>
    format toText what whole n number cs values ('%' :: done)
  | n + 1, number, '%' :: cs, values, done =>
    let stop (complaint : String) : Formatted :=
      { text := String.ofList done.reverse, complaint := some complaint }
    let lacking := stop ("not enough arguments passed to " ++ what ++ "(\"" ++ whole ++ "\")")
    let improper := stop ("improper conversion(number " ++ toString number ++ ") in " ++ what ++
      "(\"" ++ whole ++ "\")")
    match slot? cs with
    | none => if values.isEmpty then lacking else improper
    | some (slot, rest) =>
      let take (count : Option (Option Nat)) (values : List Value) :
          Option (Option Int × List Value) :=
        match count, values with
        | none, _ => some (none, values)
        | some (some k), _ => some (some k, values)
        | some none, v :: values => some (some (wholePart v.toNumber), values)
        | some none, [] => none
      match take slot.width values with
      | none => lacking
      | some (width, values) =>
        match take slot.precision values with
        | none => lacking
        | some (precision, values) =>
          match values with
          | [] => lacking
          | v :: values =>
            let w := width.getD 0
            let flags := if w < 0 then '-' :: slot.flags else slot.flags
            let d : Shell.Format.Directive :=
              { flags, width := w.natAbs, letter := slot.letter
                precision := precision.bind fun p ↦ if p < 0 then none else some p.toNat }
            match Slot.render toText d v with
            | none => improper
            | some text =>
              format toText what whole n (number + 1) rest values (text.toList.reverse ++ done)
  | n + 1, number, c :: cs, values, done => format toText what whole n number cs values (c :: done)

def numberText (pattern : String) (x : Float) : String :=
  -- Most numbers are small and whole.
  if x.floor == x && x.abs < 1000000000000000 then toString x.toInt64.toInt
  else
    match integral? x with
    | some n =>
      if -9223372036854775808 ≤ n && n < 18446744073709551616 then toString n
      else if n = 18446744073709551616 then "18446744073709551615"
      else fallback
    | none => fallback
where
  fallback : String :=
    (format (fun _ ↦ "") "" "" (pattern.length + 1) 1 pattern.toList [.number x] []).text

def Value.toText (pattern : String) : Value → String
  | unset => ""
  | number x => numberText pattern x
  | text octets | reading octets _ => octets

def Value.toKey (pattern : String) : Value → Key
  | number x =>
    if x.floor == x && -2147483648 ≤ x && x ≤ 2147483647 then .number x.toInt64.toInt
    else .text (numberText pattern x)
  | v => .text (v.toText pattern)

def compareValues (pattern : String) (how : Comparison) (a b : Value) : Bool :=
  if a.isNumeric && b.isNumeric then
    let x := a.toNumber
    let y := b.toNumber
    match how with
    | .less => x < y
    | .lessOrEqual => x ≤ y
    | .equal => x == y
    | .notEqual => x != y
    | .greater => y < x
    | .greaterOrEqual => y ≤ x
  else
    let x := a.toText pattern
    let y := b.toText pattern
    match how with
    | .less => x < y
    | .lessOrEqual => !(y < x)
    | .equal => x = y
    | .notEqual => x ≠ y
    | .greater => y < x
    | .greaterOrEqual => !(x < y)

end Tool.Record

end RegisterLang
