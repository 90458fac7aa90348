import RegisterLang.Host.Shell.Format
import RegisterLang.Host.Tool.Options

namespace RegisterLang.Tool

open Shell.Format (Directive octal? escape?)

def takeDigits (base : Nat) : Nat → Nat → List Char → Nat × Nat × List Char
  | n + 1, value, c :: rest =>
    match (Real.digitValue? c).filter (· < base) with
    | some d =>
      let (count, value, rest) := takeDigits base n (value * base + d) rest
      (count + 1, value, rest)
    | none => (0, value, c :: rest)
  | _, value, rest => (0, value, rest)

def numberedChar (n : Nat) : String :=
  let hex (width : Nat) : String :=
    Text.padLeft width '0' ((String.ofList (Nat.toDigits 16 n)).map Char.toUpper)
  if n < 128 then (Char.ofNat n).toString
  else if n < 65536 then "\\u" ++ hex 4
  else "\\U" ++ hex 8

/-- What a backslash and what follows it stand for. -/
inductive Escape where
  | text (octets : String) (rest : List Char)
  | stop
  | fault (reason : String)

def readEscape (zero : Bool) (cs : List Char) : Escape :=
  match cs with
  | [] => .text "\\" []
  | 'c' :: _ => .stop
  | '"' :: rest => .text "\"" rest
  | 'x' :: rest =>
    match takeDigits 16 2 0 rest with
    | (0, _, _) => .fault "missing hexadecimal number in escape"
    | (_, n, rest) => .text (Char.ofNat n).toString rest
  | c :: rest =>
    if c = 'u' || c = 'U' then
      let width := if c = 'u' then 4 else 8
      let (count, n, after) := takeDigits 16 width 0 rest
      if count < width then .fault "missing hexadecimal number in escape"
      else if (n < 160 && n ≠ 36 && n ≠ 64 && n ≠ 96) || (55296 ≤ n && n ≤ 57343) then
        .fault ("invalid universal character name \\" ++ c.toString ++
          String.ofList (rest.take width))
      else .text (numberedChar n) after
    else if (octal? c).isSome then
      let digits := if zero && c = '0' then rest else cs
      let (_, n, after) := takeDigits 8 3 0 digits
      .text (Char.ofNat (n % 256)).toString after
    else
      match escape? c with
      | some e => .text e.toString rest
      | none => .text (String.ofList ['\\', c]) rest

def resolveEscapes (zero : Bool) : Nat → List Char → List String → Except String (String × Bool)
  | 0, _, done => .ok (String.join done.reverse, false)
  | _ + 1, [], done => .ok (String.join done.reverse, false)
  | n + 1, '\\' :: cs, done =>
    match readEscape zero cs with
    | .text octets rest => resolveEscapes zero n rest (octets :: done)
    | .stop => .ok (String.join done.reverse, true)
    | .fault reason => .error reason
  | n + 1, c :: cs, done => resolveEscapes zero n cs (c.toString :: done)

namespace Echo

def resolve : Nat → List Char → List Char → List Char × Bool
  | 0, _, done => (done.reverse, false)
  | _ + 1, [], done => (done.reverse, false)
  | n + 1, '\\' :: cs, done =>
    match cs with
    | 'c' :: _ => (done.reverse, true)
    | '0' :: rest =>
      let (_, value, rest) := takeDigits 8 3 0 rest
      resolve n rest (Char.ofNat (value % 256) :: done)
    | 'x' :: rest =>
      match takeDigits 16 2 0 rest with
      | (0, _, _) => resolve n rest ('x' :: '\\' :: done)
      | (_, value, rest) => resolve n rest (Char.ofNat value :: done)
    | c :: rest =>
      if (octal? c).isSome then
        let (_, value, rest) := takeDigits 8 3 0 cs
        resolve n rest (Char.ofNat (value % 256) :: done)
      else
        match escape? c with
        | some e => resolve n rest (e :: done)
        | none => resolve n rest (c :: '\\' :: done)
    | [] => (('\\' :: done).reverse, false)
  | n + 1, c :: cs, done => resolve n cs (c :: done)

def readOptions : List String → Bool → Bool → Bool × Bool × List String
  | [], newline, escapes => (newline, escapes, [])
  | arg :: rest, newline, escapes =>
    match arg.toList with
    | '-' :: c :: cs =>
      if (c :: cs).all "neE".toList.contains then
        let escapes := (c :: cs).foldl (fun e c ↦ if c = 'n' then e else decide (c = 'e')) escapes
        readOptions rest (newline && !(c :: cs).contains 'n') escapes
      else (newline, escapes, arg :: rest)
    | _ => (newline, escapes, arg :: rest)

def main (args : List String) : Tool Nat := do
  if args = ["--help"] || args = ["--version"] then return 0
  let (newline, escapes, words) := readOptions args true false
  let text := " ".intercalate words
  let (text, stopped) := if escapes then
      let (cs, stopped) := resolve (text.length + 1) text.toList []
      (String.ofList cs, stopped)
    else (text, false)
  say text
  if newline && !stopped then say "\n"
  return 0

end Echo

namespace Printf

structure State where
  args : List String
  failed : Bool := false
  stopped : Bool := false

def takeArgument (s : State) : Option String × State :=
  (s.args.head?, { s with args := s.args.tail })

def quotedChar? (argument : String) : Tool (Option Nat) := do
  match argument.toList with
  | q :: c :: rest =>
    if q = '\x27' || q = '"' then
      unless rest.isEmpty do
        complain ("warning: " ++ String.ofList rest ++
          ": character(s) following character constant have been ignored")
      return some c.toNat
    else return none
  | _ => return none

/-- Complains about what of an argument is no number. -/
def verify (argument : String) (nothing range : Bool) (rest : List Char) : Tool Bool := do
  let reason? := if range then some "Numerical result out of range"
    else if argument.isEmpty then none
    else if nothing then some "expected a numeric value"
    else if !rest.isEmpty then some "value not completely converted"
    else none
  match reason? with
  | none => return true
  | some reason =>
    complain (cited argument ++ ": " ++ reason)
    return false

def integer (low high : Int) (s : State) : Tool (Int × State) := do
  let (argument, s) := takeArgument s
  let argument := argument.getD ""
  if let some n ← quotedChar? argument then return (n, s)
  let cs := argument.toList.dropWhile Shell.Arithmetic.isSpace
  let (negative, digits) := match cs with
    | '-' :: rest => (true, rest)
    | '+' :: rest => (false, rest)
    | _ => (false, cs)
  match Shell.Arithmetic.takeNumber digits with
  | (none, _) =>
    let fine ← verify argument true false []
    return (0, { s with failed := s.failed || !fine })
  | (some n, rest) =>
    let value : Int := if negative then -Int.ofNat n else n
    let cut := max low (min high value)
    let fine ← verify argument false (cut ≠ value) rest
    return (cut, { s with failed := s.failed || !fine })

def real (s : State) : Tool (Real.Value × State) := do
  let (argument, s) := takeArgument s
  let argument := argument.getD ""
  if let some n ← quotedChar? argument then return (.ofInt n, s)
  match Real.read? argument.toList with
  | none =>
    let fine ← verify argument true false []
    return (.zero, { s with failed := s.failed || !fine })
  | some (v, rest) =>
    let rounded := v.roundTo Real.extended
    let lost := match v, rounded with
      | .finite _ _ _, .infinite _ => true
      | .finite _ a _, .finite _ 0 _ => a ≠ 0
      | _, _ => false
    let fine ← verify argument false lost rest
    return (rounded, { s with failed := s.failed || !fine })

def measure (what : String) (cs : List Char) (s : State) :
    Tool (Option Int × List Char × State) := do
  match cs with
  | '*' :: rest =>
    match s.args with
    | [] => return (some 0, rest, s)
    | argument :: _ =>
      let (n, s) ← integer Shell.Format.lowest Shell.Format.highest s
      if n < -2147483648 || 2147483647 < n then
        fail 1 ("invalid " ++ what ++ ": " ++ cited argument)
      return (some n, rest, s)
  | _ =>
    let digits := cs.takeWhile Char.isDigit
    return ((String.ofList digits).toNat?.map Int.ofNat, cs.drop digits.length, s)

def goesWith (flags : List Char) (hasPrecision : Bool) (letter : Char) : Bool :=
  let isIn (text : String) : Bool := text.toList.contains letter
  isIn "aAcdeEfFgGiosuxX" &&
    !(flags.any (fun c ↦ c = 'I' || c = '\x27') && isIn "aAceEosxX") &&
    !(flags.contains '#' && isIn "cdisu") &&
    !(flags.contains '0' && isIn "cs") &&
    !(hasPrecision && letter = 'c')

def directive (d : Directive) (s : State) : Tool State := do
  match d.letter with
  | 's' =>
    let (a, s) := takeArgument s
    say (d.text (a.getD ""))
    return s
  | 'c' =>
    let (a, s) := takeArgument s
    say (d.fill ((a.getD "").toList.headD '\x00').toString)
    return s
  | 'd' | 'i' =>
    let (n, s) ← integer Shell.Format.lowest Shell.Format.highest s
    say (d.signed n)
    return s
  | 'o' | 'u' | 'x' | 'X' =>
    let (n, s) ← integer (-18446744073709551615) 18446744073709551615 s
    say (d.unsigned (n % 18446744073709551616).toNat)
    return s
  | _ =>
    let (v, s) ← real s
    say (d.real Real.extended v)
    return s

/-- Goes through the format once. An argument that is missing counts as empty. -/
def pass : Nat → List Char → State → Tool State
  | 0, _, s => return s
  | _ + 1, [], s => return s
  | n + 1, '\\' :: cs, s => do
    match readEscape false cs with
    | .text octets rest => say octets; pass n rest s
    | .stop => return { s with stopped := true }
    | .fault reason => fail 1 reason
  | n + 1, '%' :: '%' :: cs, s => do say "%"; pass n cs s
  | n + 1, '%' :: 'b' :: cs, s => do
    let (a, s) := takeArgument s
    let text := (a.getD "").toList
    match resolveEscapes true (text.length + 1) text [] with
    | .error reason => fail 1 reason
    | .ok (text, stopped) =>
      say text
      if stopped then return { s with stopped := true } else pass n cs s
  | n + 1, '%' :: 'q' :: cs, s => do
    let (a, s) := takeArgument s
    say (quotedIfNeeded (a.getD ""))
    pass n cs s
  | n + 1, '%' :: cs, s => do
    let isFlag (c : Char) : Bool := "#-+ 0I'".toList.contains c
    let flags := cs.takeWhile isFlag
    let (width, rest, s) ← measure "field width" (cs.drop flags.length) s
    let (precision, rest, s) ← match rest with
      | '.' :: rest => do
        let (precision, rest, s) ← measure "precision" rest s
        pure (some (precision.getD 0), rest, s)
      | _ => pure (none, rest, s)
    let rest := rest.dropWhile "lLhjtz".toList.contains
    let letter := rest.headD '\x00'
    unless goesWith flags precision.isSome letter do
      fail 1 (String.ofList ('%' :: cs.take (cs.length - rest.length + 1)) ++
        ": invalid conversion specification")
    let width := width.getD 0
    let s ← directive
      { flags := if width < 0 then '-' :: flags else flags
        width := width.natAbs
        precision := precision.bind fun n ↦ if n < 0 then none else some n.toNat
        letter } s
    pass n rest.tail s
  | n + 1, c :: cs, s => do say c.toString; pass n cs s

def passes (format : List Char) (s : State) : Tool State :=
  iterate (fun (s : State) ↦ do
    let after ← pass (format.length + 1) format s
    if after.stopped || after.args.isEmpty || after.args.length = s.args.length then
      return .inr after
    else return .inl after) s

def main (args : List String) : Tool Nat := do
  if args = ["--help"] || args = ["--version"] then return 0
  let args := match args with
    | "--" :: rest => rest
    | _ => args
  match args with
  | [] => missingOperand
  | format :: rest =>
    let s ← passes format.toList { args := rest }
    if !s.stopped then
      if let extra :: _ := s.args then
        complain ("warning: ignoring excess arguments, starting with " ++ cited extra)
    return if s.failed then 1 else 0

end Printf

end RegisterLang.Tool
