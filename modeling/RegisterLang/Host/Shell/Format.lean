import RegisterLang.Host.Shell.Arithmetic
import RegisterLang.Text.Blank
import RegisterLang.Host.Text.Real

namespace RegisterLang.Shell.Format

def octal? (c : Char) : Option Nat :=
  if '0' ≤ c && c ≤ '7' then some (c.toNat - '0'.toNat) else none

def takeOctal : Nat → Nat → List Char → Nat × List Char
  | n + 1, value, c :: rest =>
    match octal? c with
    | some d => takeOctal n (value * 8 + d) rest
    | none => (value, c :: rest)
  | _, value, rest => (value, rest)

def escape? : Char → Option Char
  | 'a' => some '\x07'
  | 'b' => some '\x08'
  | 'e' => some '\x1b'
  | 'f' => some '\x0c'
  | 'n' => some '\n'
  | 'r' => some '\r'
  | 't' => some '\t'
  | 'v' => some '\x0b'
  | '\\' => some '\\'
  | _ => none

def escaped (cs : List Char) : Char × List Char :=
  match cs with
  | [] => ('\\', [])
  | c :: rest =>
    if (octal? c).isSome then
      let (value, after) := takeOctal 3 0 cs
      (Char.ofNat (value % 256), after)
    else
      match escape? c with
      | some e => (e, rest)
      | none => ('\\', cs)

def unescape : Nat → List Char → List Char × Bool
  | 0, _ => ([], false)
  | _ + 1, [] => ([], false)
  | n + 1, '\\' :: cs =>
    match cs with
    | 'c' :: _ => ([], true)
    | _ =>
      let cs := match cs with
        | '0' :: d :: rest => if (octal? d).isSome then d :: rest else cs
        | _ => cs
      let (c, rest) := escaped cs
      let (text, done) := unescape n rest
      (c :: text, done)
  | n + 1, c :: cs =>
    let (text, done) := unescape n cs
    (c :: text, done)

def echo (args : List String) : String :=
  let (newline, words) := match args with
    | "-n" :: rest => (false, rest)
    | _ => (true, args)
  let text := (" ".intercalate words).toList
  let (text, done) := unescape (text.length + 1) text
  String.ofList (if newline && !done then text ++ ['\n'] else text)

/-- A conversion with its flags, width and precision. -/
structure Directive where
  flags : List Char
  width : Nat
  precision : Option Nat
  letter : Char

namespace Directive

def has (d : Directive) (flag : Char) : Bool := d.flags.contains flag

def fill (d : Directive) (text : String) : String :=
  if d.has '-' then Text.padRight d.width ' ' text else Text.padLeft d.width ' ' text

def text (d : Directive) (argument : String) : String :=
  d.fill (match d.precision with
    | some n => String.ofList (argument.toList.take n)
    | none => argument)

def number (d : Directive) (head digits : String) : String :=
  let digits := match d.precision with
    | some n => if n = 0 && digits = "0" then "" else Text.padLeft n '0' digits
    | none => digits
  if d.has '0' && !d.has '-' && d.precision.isNone then
    head ++ Text.padLeft (d.width - head.length) '0' digits
  else d.fill (head ++ digits)

def signed (d : Directive) (n : Int) : String :=
  let head := if n < 0 then "-" else if d.has '+' then "+" else if d.has ' ' then " " else ""
  d.number head (toString n.natAbs)

def unsigned (d : Directive) (n : Nat) : String :=
  match d.letter with
  | 'o' =>
    let digits := String.ofList (Nat.toDigits 8 n)
    if d.has '#' && n = 0 && d.precision = some 0 then d.fill "0"
    else d.number "" (if d.has '#' && n ≠ 0 then "0" ++ digits else digits)
  | 'x' =>
    d.number (if d.has '#' && n ≠ 0 then "0x" else "") (String.ofList (Nat.toDigits 16 n))
  | 'X' =>
    d.number (if d.has '#' && n ≠ 0 then "0X" else "")
      ((String.ofList (Nat.toDigits 16 n)).map Char.toUpper)
  | _ => d.number "" (toString n)

def real (d : Directive) (f : Real.Format) (v : Real.Value) : String :=
  let head := if v.isNegative then "-" else if d.has '+' then "+" else if d.has ' ' then " " else ""
  let body := Real.unsigned f d.letter d.precision (d.has '#') v
  match v with
  | .finite _ _ _ =>
    if d.has '0' && !d.has '-' then
      -- The digits of a hexadecimal number come after its mark.
      let (mark, digits) := if d.letter.toLower = 'a' then
        (String.ofList (body.toList.take 2), String.ofList (body.toList.drop 2)) else ("", body)
      head ++ mark ++ Text.padLeft (d.width - head.length - mark.length) '0' digits
    else d.fill (head ++ body)
  | _ => d.fill (head ++ body)

end Directive

/-- A number as far as it could be read, and what is wrong with it. -/
structure Numeral where
  value : Int
  complaint : Option String := none

def numeral (low high : Int) (argument : String) : Numeral :=
  match argument.toList with
  | '\x27' :: rest | '"' :: rest => { value := (rest.headD '\x00').toNat }
  | cs =>
    let cs := cs.dropWhile Arithmetic.isSpace
    let (negative, digits) := match cs with
      | '-' :: rest => (true, rest)
      | '+' :: rest => (false, rest)
      | _ => (false, cs)
    match Arithmetic.takeNumber digits with
    | (none, _) =>
      { value := 0
        complaint :=
          if argument.isEmpty then none else some (argument ++ ": expected numeric value") }
    | (some n, rest) =>
      let value : Int := if negative then -Int.ofNat n else n
      if rest.isEmpty then
        if value < low then
          { value := low, complaint := some (argument ++ ": Numerical result out of range") }
        else if high < value then
          { value := high, complaint := some (argument ++ ": Numerical result out of range") }
        else { value }
      else { value, complaint := some (argument ++ ": not completely converted") }

def realNumeral (argument : String) : Real.Value × Option String :=
  match argument.toList with
  | '\x27' :: rest | '"' :: rest => (.ofInt (rest.headD '\x00').toNat, none)
  | cs =>
    match Real.read? cs with
    | none =>
      (.zero, if argument.isEmpty then none else some (argument ++ ": expected numeric value"))
    | some (v, rest) =>
      let rounded := v.roundTo Real.double
      let lost := match v, rounded with
        | .finite _ _ _, .infinite _ => true
        | .finite _ a _, .finite _ 0 _ => a ≠ 0
        | _, _ => false
      (rounded, if !rest.isEmpty then some (argument ++ ": not completely converted")
        else if lost then some (argument ++ ": Numerical result out of range")
        else none)

def lowest : Int := -9223372036854775808

def highest : Int := 9223372036854775807

/-- What is printed so far, and the arguments that are left. -/
structure Printing where
  text : List Char := []
  args : List String
  complaints : List String := []
  fault : Option String := none
  done : Bool := false

namespace Printing

def add (p : Printing) (text : String) : Printing := { p with text := p.text ++ text.toList }

def takeArgument (p : Printing) : Option String × Printing :=
  (p.args.head?, { p with args := p.args.tail })

def takeNumber (p : Printing) (low high : Int) : Int × Printing :=
  let (argument, p) := p.takeArgument
  let n := numeral low high (argument.getD "")
  (n.value, { p with complaints := p.complaints ++ n.complaint.toList })

def takeReal (p : Printing) : Real.Value × Printing :=
  let (argument, p) := p.takeArgument
  let (v, complaint) := realNumeral (argument.getD "")
  (v, { p with complaints := p.complaints ++ complaint.toList })

def takeCount (p : Printing) (cs : List Char) : Option Int × List Char × Printing :=
  match cs with
  | '*' :: rest =>
    let (n, p) := p.takeNumber lowest highest
    (some (Int.bmod n 4294967296), rest, p)
  | _ =>
    let digits := cs.takeWhile Char.isDigit
    ((String.ofList digits).toNat?.map Int.ofNat, cs.dropWhile Char.isDigit, p)

def sizeLimit : Nat := 16777216

def directive (p : Printing) (d : Directive) (source : String) : Printing :=
  if sizeLimit ≤ d.width || d.precision.any (sizeLimit ≤ ·) then p.takeArgument.2
  else
  match d.letter with
  | 's' => let (a, p) := p.takeArgument; p.add (d.text (a.getD ""))
  | 'c' =>
    let (a, p) := p.takeArgument
    p.add (d.fill (((a.getD "").toList.headD '\x00').toString))
  | 'b' =>
    let (a, p) := p.takeArgument
    let cs := (a.getD "").toList
    let (text, done) := unescape (cs.length + 1) cs
    { p.add (d.text (String.ofList text)) with done }
  | 'd' | 'i' => let (n, p) := p.takeNumber lowest highest; p.add (d.signed n)
  | 'o' | 'u' | 'x' | 'X' =>
    let (n, p) := p.takeNumber (-18446744073709551615) 18446744073709551615
    p.add (d.unsigned (n % 18446744073709551616).toNat)
  | letter =>
    if "aAeEfFgG".toList.contains letter then
      let (v, p) := p.takeReal
      p.add (d.real Real.double v)
    else { p with fault := some (source ++ ": invalid directive") }

def pass : Nat → List Char → Printing → Printing
  | 0, _, p => p
  | _ + 1, [], p => p
  | n + 1, '\\' :: cs, p =>
    let (c, rest) := escaped cs
    pass n rest (p.add c.toString)
  | n + 1, '%' :: '%' :: cs, p => pass n cs (p.add "%")
  | n + 1, '%' :: cs, p =>
    let isFlag (c : Char) : Bool := "#-+ 0".toList.contains c
    let flags := cs.takeWhile isFlag
    let (width, rest, p) := p.takeCount (cs.dropWhile isFlag)
    let (precision, rest, p) := match rest with
      | '.' :: rest =>
        let (precision, rest, p) := p.takeCount rest
        (some (precision.getD 0), rest, p)
      | _ => (none, rest, p)
    match rest with
    | [] => { p with fault := some "missing format character" }
    | letter :: after =>
      let width := width.getD 0
      let d : Directive :=
        { flags := if width < 0 then '-' :: flags else flags
          width := width.natAbs
          precision := precision.bind fun n ↦ if n < 0 then none else some n.toNat
          letter }
      let source := String.ofList ('%' :: cs.take (cs.length - after.length))
      let p := p.directive d source
      if p.done || p.fault.isSome then p else pass n after p
  | n + 1, c :: cs, p => pass n cs (p.add c.toString)

/-- Uses a format again as long as arguments are left. -/
def passes (format : List Char) : Nat → Printing → Printing
  | 0, p => p
  | n + 1, p =>
    let q := pass (format.length + 1) format p
    if q.done || q.fault.isSome || q.args.isEmpty || q.args.length = p.args.length then q
    else passes format n q

end Printing

def printf (format : String) (args : List String) : Printing :=
  Printing.passes format.toList (args.length + 1) { args }

end RegisterLang.Shell.Format
