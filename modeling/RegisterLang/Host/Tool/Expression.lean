import RegisterLang.Host.Regex.Match
import RegisterLang.Host.Tool.Options

namespace RegisterLang.Tool.Expression

def integer? (text : String) : Option Int :=
  let (negative, digits) := match text.toList with
    | '-' :: rest => (true, rest)
    | cs => (false, cs)
  if digits.isEmpty || !digits.all Char.isDigit then none
  else
    let n := digits.foldl (fun n c ↦ n * 10 + (c.toNat - '0'.toNat)) 0
    some (if negative then -(n : Int) else n)

def isNull (text : String) : Bool :=
  match text.toList with
  | [] => true
  | '-' :: digits => !digits.isEmpty && digits.all (· = '0')
  | digits => digits.all (· = '0')

def truth (b : Bool) : String := if b then "1" else "0"

inductive Fault where
  | missing (before : String)
  | unclosed (before : String)
  | notClosed (instead : String)
  | closed
  | extra (argument : String)
  | notInteger
  | division
  | pattern (fault : Regex.Fault)

def Fault.message : Fault → String
  | missing before => "syntax error: missing argument after " ++ cited before
  | unclosed before => "syntax error: expecting ')' after " ++ cited before
  | notClosed instead => "syntax error: expecting ')' instead of " ++ cited instead
  | closed => "syntax error: unexpected ')'"
  | extra argument => "syntax error: unexpected argument " ++ cited argument
  | notInteger => "non-integer argument"
  | division => "division by zero"
  | pattern fault => fault.message

def matched (text pattern : String) : Except Fault String :=
  match Regex.prepare { lastBracket := .unreadable } pattern with
  | .error fault => .error (.pattern fault)
  | .ok m =>
    let bytes := Octet.toBytes text
    match m.matchAt { text := bytes } true 0 with
    | some found =>
      if m.groups = 0 then .ok (toString found.finish)
      else
        match (found.groups[1]?).join with
        | some (s, e) => .ok (Octet.ofBytes (bytes.extract s e))
        | none => .ok ""
    | none => .ok (if m.groups = 0 then "0" else "")

def substring (text start length : String) : String :=
  match integer? start, integer? length with
  | some s, some n =>
    if s ≤ 0 || n ≤ 0 then "" else String.ofList ((text.toList.drop (s.toNat - 1)).take n.toNat)
  | _, _ => ""

def position (text chars : String) : String :=
  let i := text.toList.findIdx fun c ↦ chars.toList.contains c
  toString (if i < text.length then i + 1 else 0)

def compared (operator a b : String) : String :=
  let order := match integer? a, integer? b with
    | some x, some y => compare x y
    | _, _ => compare a b
  truth (match operator with
    | "<" => order = .lt
    | "<=" => order ≠ .gt
    | "=" | "==" => order = .eq
    | "!=" => order ≠ .eq
    | ">=" => order ≠ .lt
    | _ => order = .gt)

def combine (operator a b : String) : Except Fault String :=
  let arithmetic (f : Int → Int → Except Fault Int) : Except Fault String := do
    match integer? a, integer? b with
    | some x, some y => return toString (← f x y)
    | _, _ => .error .notInteger
  let divided (f : Int → Int → Int) (x y : Int) : Except Fault Int :=
    if y = 0 then .error .division else .ok (f x y)
  match operator with
  | "|" => .ok (if !isNull a then a else if isNull b then "0" else b)
  | "&" => .ok (if isNull a || isNull b then "0" else a)
  | "+" => arithmetic fun x y ↦ .ok (x + y)
  | "-" => arithmetic fun x y ↦ .ok (x - y)
  | "*" => arithmetic fun x y ↦ .ok (x * y)
  | "/" => arithmetic (divided Int.tdiv)
  | "%" => arithmetic (divided Int.tmod)
  | ":" => matched a b
  | _ => .ok (compared operator a b)

/-- The operators, from those that bind least to those that bind most. -/
def levels : List (List String) :=
  [["|"], ["&"], ["<", "<=", "=", "==", "!=", ">=", ">"], ["+", "-"], ["*", "/", "%"], [":"]]

abbrev Result := Except Fault (String × Nat)

section

variable (args : Array String)

def before (i : Nat) : String := args.getD (i - 1) ""

mutual

/-- An expression from a level up. One that is not wanted is read but not worked out. -/
def expression : Nat → Bool → List (List String) → Nat → Result
  | 0, _, _, i => .error (.missing (before args i))
  | n + 1, wanted, [], i => primary n wanted i
  | n + 1, wanted, operators :: higher, i => do
    let (first, i) ← expression n wanted higher i
    further n wanted operators higher first i

def further : Nat → Bool → List String → List (List String) → String → Nat → Result
  | 0, _, _, _, first, i => .ok (first, i)
  | n + 1, wanted, operators, higher, first, i =>
    match args[i]? with
    | none => .ok (first, i)
    | some operator =>
      if operators.contains operator then do
        let isIdle := (operator = "|" && !isNull first) || (operator = "&" && isNull first)
        let (second, i) ← expression n (wanted && !isIdle) higher (i + 1)
        let value ← if !wanted then pure first
          else if isIdle then pure (if operator = "|" then first else "0")
          else combine operator first second
        further n wanted operators higher value i
      else .ok (first, i)

def primary : Nat → Bool → Nat → Result
  | 0, _, i => .error (.missing (before args i))
  | n + 1, wanted, i =>
    match args[i]? with
    | none => .error (.missing (before args i))
    | some "+" =>
      match args[i + 1]? with
      | some word => .ok (word, i + 2)
      | none => .error (.missing "+")
    | some "length" => do
      let (text, i) ← primary n wanted (i + 1)
      return (toString text.length, i)
    | some "match" => do
      let (text, i) ← primary n wanted (i + 1)
      let (pattern, i) ← primary n wanted i
      if wanted then return (← matched text pattern, i) else return (text, i)
    | some "index" => do
      let (text, i) ← primary n wanted (i + 1)
      let (chars, i) ← primary n wanted i
      return (position text chars, i)
    | some "substr" => do
      let (text, i) ← primary n wanted (i + 1)
      let (start, i) ← primary n wanted i
      let (length, i) ← primary n wanted i
      return (substring text start length, i)
    | some "(" => do
      let (value, i) ← expression n wanted levels (i + 1)
      match args[i]? with
      | some ")" => return (value, i + 1)
      | some other => .error (.notClosed other)
      | none => .error (.unclosed (before args i))
    | some ")" => .error .closed
    | some word => .ok (word, i + 1)

end

end

def evaluate (arguments : List String) : Except Fault String := do
  let args := arguments.toArray
  let (value, i) ← expression args (20 * args.size + 20) true levels 0
  match args[i]? with
  | some extra => .error (.extra extra)
  | none => return value

def main (args : List String) : Tool Nat := do
  if args = ["--help"] || args = ["--version"] then return 0
  let args := match args with
    | "--" :: rest => rest
    | other => other
  if args.isEmpty then missingOperand 2
  match evaluate args with
  | .error fault => fail 2 fault.message
  | .ok value =>
    sayLine value
    return if isNull value then 1 else 0

end RegisterLang.Tool.Expression
