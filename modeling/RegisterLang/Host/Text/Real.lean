import RegisterLang.Text.Blank

namespace RegisterLang.Real

def power (base : Nat) : Nat → Nat
  | 0 => 1
  | n + 1 => base * power base n

def bigPower (base n : Nat) : Nat :=
  let rec go : Nat → Nat → Nat → Nat → Nat
    | 0, _, _, acc => acc
    | fuel + 1, b, n, acc =>
      if n = 0 then acc else go fuel (b * b) (n / 2) (if n % 2 = 1 then acc * b else acc)
  go (n.log2 + 2) base n 1

/-- A number as a fraction, or what floating point has besides. -/
inductive Value where
  | finite (negative : Bool) (numerator denominator : Nat)
  | infinite (negative : Bool)
  | undefined (negative : Bool)
  deriving DecidableEq, Repr

/-- The quotient as a whole number; a half goes to the even neighbour. -/
def roundDiv (a b : Nat) : Nat :=
  let q := a / b
  let r := a % b
  if 2 * r < b then q else if b < 2 * r then q + 1 else if q % 2 = 0 then q else q + 1

/-- A binary format: its digits, and the exponents of the last one. -/
structure Format where
  digits : Nat
  lowest : Int
  highest : Int

def double : Format := { digits := 53, lowest := -1074, highest := 971 }

def extended : Format := { digits := 64, lowest := -16445, highest := 16320 }

def scaled (numerator denominator : Nat) (exponent : Int) : Nat × Nat :=
  if exponent < 0 then (numerator, denominator * bigPower 2 exponent.natAbs)
  else (numerator * bigPower 2 exponent.natAbs, denominator)

namespace Value

def isNegative : Value → Bool
  | finite n _ _ | infinite n | undefined n => n

def zero : Value := .finite false 0 1

def ofInt (n : Int) : Value := .finite (n < 0) n.natAbs 1

/-- The nearest number of a format. -/
def roundTo (f : Format) : Value → Value
  | finite negative a b =>
    if a = 0 then finite negative 0 1
    else
      let estimate : Int := Int.ofNat a.log2 - Int.ofNat b.log2
      -- The exponent of the last digit, for which the significand has as many digits as it may.
      let start := estimate - f.digits
      let fitting := [start, start + 1, start + 2].find? fun e ↦
        let (x, y) := scaled a b (-e)
        x < y * bigPower 2 f.digits
      let e := max f.lowest (fitting.getD start)
      let (x, y) := scaled a b (-e)
      let m := roundDiv x y
      let (m, e) := if m = bigPower 2 f.digits then (m / 2, e + 1) else (m, e)
      if f.highest < e then infinite negative
      else
        let (n, d) := scaled m 1 e
        finite negative n d
  | other => other

def ofFloat (x : Float) : Value :=
  let bits := x.toBits.toNat
  let negative := bits / 9223372036854775808 = 1
  let exponent := bits / 4503599627370496 % 2048
  let fraction := bits % 4503599627370496
  if exponent = 2047 then if fraction = 0 then infinite negative else undefined negative
  else
    let (m, e) : Nat × Int := if exponent = 0 then (fraction, -1074)
      else (fraction + 4503599627370496, Int.ofNat exponent - 1075)
    let (a, b) := scaled m 1 e
    finite negative a b

def less : Value → Value → Bool
  | undefined _, _ | _, undefined _ => false
  | infinite true, infinite true => false
  | infinite true, _ => true
  | infinite false, _ => false
  | _, infinite negative => !negative
  | finite n a b, finite m c d =>
    let x : Int := if n then -Int.ofNat a else a
    let y : Int := if m then -Int.ofNat c else c
    x * d < y * b

def add : Value → Value → Value
  | finite n a b, finite m c d =>
    let x : Int := if n then -Int.ofNat a else a
    let y : Int := if m then -Int.ofNat c else c
    let sum := x * d + y * b
    finite (sum < 0 || (sum = 0 && n && m)) sum.natAbs (b * d)
  | undefined n, _ | _, undefined n => undefined n
  | infinite n, infinite m => if n = m then infinite n else undefined false
  | infinite n, _ | _, infinite n => infinite n

def times (v : Value) (k : Int) : Value :=
  match v with
  | finite n a b => finite (n != decide (k < 0)) (a * k.natAbs) b
  | infinite n => if k = 0 then undefined false else infinite (n != decide (k < 0))
  | undefined n => undefined n

end Value

def digitValue? (c : Char) : Option Nat :=
  if c.isDigit then some (c.toNat - '0'.toNat)
  else if 'a' ≤ c && c ≤ 'f' then some (c.toNat - 'a'.toNat + 10)
  else if 'A' ≤ c && c ≤ 'F' then some (c.toNat - 'A'.toNat + 10)
  else none

def readDigits (base : Nat) (cs : List Char) : Nat :=
  cs.foldl (fun n c ↦ n * base + (digitValue? c).getD 0) 0

def readExponent (cs : List Char) : Option (Int × List Char) :=
  let (negative, rest) := match cs with
    | '-' :: rest => (true, rest)
    | '+' :: rest => (false, rest)
    | _ => (false, cs)
  let digits := rest.takeWhile Char.isDigit
  if digits.isEmpty then none
  else
    let n : Int := readDigits 10 digits
    some (if negative then -n else n, rest.drop digits.length)

def exponentLimit : Int := 20000

def readUnsigned (hex : Bool) (cs : List Char) : Option (Nat × Nat × List Char) :=
  let isDigit (c : Char) : Bool := if hex then (digitValue? c).isSome else c.isDigit
  let whole := cs.takeWhile isDigit
  let after := cs.drop whole.length
  let (fraction, after) := match after with
    | '.' :: rest =>
      let fraction := rest.takeWhile isDigit
      if whole.isEmpty && fraction.isEmpty then ([], after)
      else (fraction, rest.drop fraction.length)
    | _ => ([], after)
  if whole.isEmpty && fraction.isEmpty then none
  else
    let base := if hex then 16 else 10
    let numerator := readDigits base (whole ++ fraction)
    let denominator := bigPower base fraction.length
    let marks := if hex then ['p', 'P'] else ['e', 'E']
    let exponent := match after with
      | c :: rest => if marks.contains c then readExponent rest else none
      | [] => none
    match exponent with
    | none => some (numerator, denominator, after)
    | some (e, rest) =>
      let e := max (-exponentLimit) (min exponentLimit e)
      let factor := bigPower (if hex then 2 else 10) e.natAbs
      if e < 0 then some (numerator, denominator * factor, rest)
      else some (numerator * factor, denominator, rest)

def read? (text : List Char) : Option (Value × List Char) :=
  let isSpace (c : Char) : Bool := c = ' ' || ('\t' ≤ c && c ≤ '\r')
  let cs := text.dropWhile isSpace
  let (negative, cs) := match cs with
    | '-' :: rest => (true, rest)
    | '+' :: rest => (false, rest)
    | _ => (false, cs)
  let lower (n : Nat) : String := (String.ofList (cs.take n)).map Char.toLower
  if lower 8 = "infinity" then some (.infinite negative, cs.drop 8)
  else if lower 3 = "inf" then some (.infinite negative, cs.drop 3)
  else if lower 3 = "nan" then
    -- A word in parentheses may follow.
    let rest := cs.drop 3
    match rest with
    | '(' :: more =>
      match more.dropWhile fun c ↦ c.isAlphanum || c = '_' with
      | ')' :: after => some (.undefined negative, after)
      | _ => some (.undefined negative, rest)
    | _ => some (.undefined negative, rest)
  else
    let hex := if lower 2 = "0x" then readUnsigned true (cs.drop 2) else none
    match hex.orElse fun _ ↦ readUnsigned false cs with
    | some (a, b, rest) => some (.finite negative a b, rest)
    | none => none

def fixedDigits (a b places : Nat) (point : Bool) : String :=
  let n := roundDiv (a * bigPower 10 places) b
  let digits := Text.padLeft (places + 1) '0' (toString n)
  let whole := digits.toList.take (digits.length - places)
  let fraction := digits.toList.drop (digits.length - places)
  String.ofList whole ++ (if places = 0 then if point then "." else ""
    else "." ++ String.ofList fraction)

def digitCount (n : Nat) : Nat := (toString n).length

def decimalExponent (a b : Nat) : Int :=
  let guess : Int := Int.ofNat (digitCount a) - Int.ofNat (digitCount b)
  let atLeast (e : Int) : Bool :=
    if e < 0 then b ≤ a * bigPower 10 e.natAbs else b * bigPower 10 e.natAbs ≤ a
  if atLeast guess then guess else guess - 1

def significant (a b count : Nat) : Nat × Int :=
  if a = 0 then (0, 0)
  else
    let e := decimalExponent a b
    let shift := e - Int.ofNat count + 1
    let n := if shift < 0 then roundDiv (a * bigPower 10 shift.natAbs) b
      else roundDiv a (b * bigPower 10 shift.natAbs)
    if digitCount n > count then (n / 10, e + 1) else (n, e)

def exponentText (letter : Char) (e : Int) : String :=
  letter.toString ++ (if e < 0 then "-" else "+") ++ Text.padLeft 2 '0' (toString e.natAbs)

def exponentDigits (a b places : Nat) (point : Bool) (letter : Char) : String :=
  let (n, e) := significant a b (places + 1)
  let digits := (Text.padLeft (places + 1) '0' (toString n)).toList
  String.ofList (digits.take 1) ++ (if places = 0 then if point then "." else ""
    else "." ++ String.ofList (digits.drop 1)) ++ exponentText letter e

def stripZeros (text : String) : String :=
  if text.toList.contains '.' then
    let reversed := text.toList.reverse.dropWhile (· = '0')
    String.ofList (match reversed with
      | '.' :: rest => rest
      | _ => reversed).reverse
  else text

/-- Fixed places, or an exponent for numbers that are small or large. -/
def generalDigits (a b count : Nat) (keep : Bool) (letter : Char) : String :=
  let count := max 1 count
  let (_, e) := significant a b count
  if e < -4 || Int.ofNat count ≤ e then
    let text := exponentDigits a b (count - 1) keep letter
    if keep then text
    else
      let mantissa := text.toList.takeWhile (· ≠ letter)
      stripZeros (String.ofList mantissa) ++ String.ofList (text.toList.drop mantissa.length)
  else
    let text := fixedDigits a b (Int.ofNat count - 1 - e).toNat keep
    if keep then text else stripZeros text

def hexDigits (f : Format) (lead : Nat) (a b : Nat) (places : Option Nat) (point upper : Bool) :
    String :=
  let spell (text : String) : String := if upper then text.map Char.toUpper else text
  if a = 0 then
    spell ("0" ++ (match places with
      | some n => if n = 0 then if point then "." else "" else "." ++ Text.repeated n '0'
      | none => if point then "." else "") ++ "p+0")
  else
    let guess : Int := Int.ofNat a.log2 - Int.ofNat b.log2
    let atLeast (e : Int) : Bool := let (x, y) := scaled a b (-e); y ≤ x
    let e := if atLeast guess then guess else guess - 1
    let e := e - (Int.ofNat lead - 1)
    let total := (f.digits - lead + 3) / 4
    let count := places.getD total
    let (x, y) := scaled a b (-e)
    let n := roundDiv (x * bigPower 16 count) y
    let digits := (Nat.toDigits 16 n)
    let digits := List.replicate (count + 1 - digits.length) '0' ++ digits
    let whole := digits.take (digits.length - count)
    let fraction := digits.drop (digits.length - count)
    let fraction := match places with
      | some _ => fraction
      | none => (fraction.reverse.dropWhile (· = '0')).reverse
    spell (String.ofList whole ++ (if fraction.isEmpty then if point then "." else ""
      else "." ++ String.ofList fraction) ++ "p" ++
        (if e < 0 then "-" else "+") ++ toString e.natAbs)

def unsigned (f : Format) (letter : Char) (places : Option Nat) (alternative : Bool) (v : Value) :
    String :=
  let upper := letter.isUpper
  let spell (text : String) : String := if upper then text.map Char.toUpper else text
  match v with
  | .infinite _ => spell "inf"
  | .undefined _ => spell "nan"
  | .finite _ a b =>
    match letter.toLower with
    | 'f' => fixedDigits a b (places.getD 6) alternative
    | 'e' => exponentDigits a b (places.getD 6) alternative letter
    | 'a' =>
      (if upper then "0X" else "0x") ++
        hexDigits f (if f.digits = 64 then 4 else 1) a b places alternative upper
    | _ => generalDigits a b (places.getD 6) alternative (if upper then 'E' else 'e')

end RegisterLang.Real
