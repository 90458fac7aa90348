namespace RegisterLang.Shell.Arithmetic

inductive Token where
  | number (value : Int64)
  | name (text : String)
  | symbol (text : String)
  | unknown
  deriving DecidableEq

/-- Binary operators, from the tightest to the loosest. -/
def levels : List (List String) :=
  [["*", "/", "%"], ["+", "-"], ["<<", ">>"], ["<", "<=", ">", ">="], ["==", "!="], ["&"], ["^"],
    ["|"]]

def assigning : List String := ["*", "/", "%", "+", "-", "<<", ">>", "&", "^", "|"]

def symbols : List String :=
  ["<<=", ">>=", "*=", "/=", "%=", "+=", "-=", "&=", "^=", "|=", "<<", ">>", "<=", ">=", "==", "!=",
    "&&", "||", "*", "/", "%", "+", "-", "<", ">", "&", "^", "|", "=", "!", "~", "?", ":", "(", ")"]

def digit? (c : Char) : Option Nat :=
  if c.isDigit then some (c.toNat - '0'.toNat)
  else if 'a' ≤ c && c ≤ 'z' then some (c.toNat - 'a'.toNat + 10)
  else if 'A' ≤ c && c ≤ 'Z' then some (c.toNat - 'A'.toNat + 10)
  else none

def takeDigits (base : Nat) (sofar : Option Nat) : List Char → Option Nat × List Char
  | [] => (sofar, [])
  | c :: cs =>
    match digit? c with
    | some d =>
      if d < base then takeDigits base (some (sofar.getD 0 * base + d)) cs else (sofar, c :: cs)
    | none => (sofar, c :: cs)

def takeNumber (cs : List Char) : Option Nat × List Char :=
  match cs with
  | '0' :: x :: rest =>
    if x = 'x' || x = 'X' then
      match takeDigits 16 none rest with
      | (some n, after) => (some n, after)
      | (none, _) => (some 0, x :: rest)
    else takeDigits 8 none cs
  | '0' :: _ => takeDigits 8 none cs
  | _ => takeDigits 10 none cs

/-- Numerals beyond 64 bits stand for the nearest number. -/
def saturate (n : Int) : Int64 :=
  if n < -9223372036854775808 then Int64.minValue
  else if 9223372036854775807 < n then Int64.maxValue
  else Int64.ofInt n

def isSpace (c : Char) : Bool := c = ' ' || ('\t' ≤ c && c ≤ '\r')

def tokens : Nat → List Char → List Token
  | 0, _ => []
  | _ + 1, [] => []
  | n + 1, c :: cs =>
    if c = ' ' || c = '\t' || c = '\n' then tokens n cs
    else if c.isDigit then
      match takeNumber (c :: cs) with
      | (value, rest) => .number (saturate (value.getD 0)) :: tokens n rest
    else if c.isAlpha || c = '_' then
      let belongs (d : Char) : Bool := d.isAlphanum || d = '_'
      .name (String.ofList (c :: cs.takeWhile belongs)) :: tokens n (cs.dropWhile belongs)
    else
      match symbols.find? fun s ↦ s.toList.isPrefixOf (c :: cs) with
      | some s => .symbol s :: tokens n ((c :: cs).drop s.length)
      | none => .unknown :: tokens n cs

inductive Fault where
  | expecting (what : String)
  | divisionByZero
  | overflow
  | illegalNumber (text : String)
  deriving DecidableEq, Repr

def Fault.message (expression : String) : Fault → String
  | expecting what =>
    "arithmetic expression: expecting " ++ what ++ ": \"" ++ expression ++ "\""
  | divisionByZero => "arithmetic expression: division by zero: \"" ++ expression ++ "\""
  | overflow => "Floating point exception"
  | illegalNumber text => "Illegal number: " ++ text

structure State where
  tokens : List Token
  lookup : String → Option String
  assigned : List (String × String) := []

/-- Evaluates from left to right and keeps what is assigned. -/
abbrev Eval := StateT State (Except Fault)

def readNumber? (text : String) : Option Int64 :=
  let cs := text.toList.dropWhile isSpace
  let (negative, digits) := match cs with
    | '-' :: rest => (true, rest)
    | '+' :: rest => (false, rest)
    | _ => (false, cs)
  match takeNumber digits with
  | (some n, after) =>
    let value : Int := if negative then -Int.ofNat n else n
    if after.all isSpace && (saturate value).toInt = value then some (saturate value) else none
  | (none, _) => if text.toList.all isSpace then some 0 else none

def peek : Eval (Option Token) := do return (← get).tokens.head?

def skip : Eval Unit := modify fun s ↦ { s with tokens := s.tokens.tail }

def value (name : String) : Eval Int64 := do
  let s ← get
  let text := ((s.assigned.lookup name).or (s.lookup name)).getD ""
  match readNumber? text with
  | some n => return n
  | none => throw (.illegalNumber text)

def assign (name : String) (n : Int64) : Eval Unit :=
  modify fun s ↦ { s with assigned := (name, toString n.toInt) :: s.assigned }

def truth (b : Bool) : Int64 := if b then 1 else 0

def checkDivision (a b : Int64) : Eval Unit :=
  if b = 0 then throw .divisionByZero
  else if b = -1 && a = Int64.minValue then throw .overflow
  else return

def apply (op : String) (a b : Int64) : Eval Int64 := do
  match op with
  | "*" => return a * b
  | "/" => checkDivision a b; return a / b
  | "%" => checkDivision a b; return a % b
  | "+" => return a + b
  | "-" => return a - b
  | "<<" => return a <<< b
  | ">>" => return a >>> b
  | "<" => return truth (a < b)
  | "<=" => return truth (a ≤ b)
  | ">" => return truth (b < a)
  | ">=" => return truth (b ≤ a)
  | "==" => return truth (a = b)
  | "!=" => return truth (a ≠ b)
  | "&" => return a &&& b
  | "^" => return a ^^^ b
  | _ => return a ||| b

/-- Left-associative operators, from those of one level down to the tightest. In the parts that are
not wanted nothing is computed. -/
def chain (wanted : Bool) (operators : List String) (operand : Eval Int64) :
    Nat → Int64 → Eval Int64
  | 0, a => return a
  | n + 1, a => do
    match ← peek with
    | some (.symbol op) =>
      if operators.contains op then
        skip
        let b ← operand
        chain wanted operators operand n (← if wanted then apply op a b else pure b)
      else return a
    | _ => return a

def binary (wanted : Bool) (primary : Eval Int64) : List (List String) → Eval Int64
  | [] => primary
  | operators :: tighter => do
    let a ← binary wanted primary tighter
    chain wanted operators (binary wanted primary tighter) ((← get).tokens.length + 1) a

def close (symbol : String) : Eval Unit := do
  if (← peek) = some (.symbol symbol) then skip else throw (.expecting ("'" ++ symbol ++ "'"))

def primary (wanted : Bool) (inside : Eval Int64) : Nat → Eval Int64
  | 0 => throw (.expecting "primary")
  | n + 1 => do
    let token ← peek
    skip
    match token with
    | some (.number value) => return value
    | some (.name name) => if wanted then value name else return 0
    | some (.symbol "(") =>
      let result ← inside
      close ")"
      return result
    | some (.symbol "+") => primary wanted inside n
    | some (.symbol "-") => return -(← primary wanted inside n)
    | some (.symbol "!") => return truth ((← primary wanted inside n) = 0)
    | some (.symbol "~") => return ~~~(← primary wanted inside n)
    | _ => throw (.expecting "primary")

def conjunction (inside : Bool → Eval Int64) : Nat → Bool → Eval Int64
  | 0, _ => throw (.expecting "primary")
  | n + 1, wanted => do
    let count := (← get).tokens.length + 1
    let a ← binary wanted (primary wanted (inside wanted) count) levels.reverse
    if (← peek) = some (.symbol "&&") then
      skip
      let b ← conjunction inside n (wanted && a ≠ 0)
      return truth (a ≠ 0 && b ≠ 0)
    else return a

def disjunction (inside : Bool → Eval Int64) : Nat → Bool → Eval Int64
  | 0, _ => throw (.expecting "primary")
  | n + 1, wanted => do
    let a ← conjunction inside (n + 1) wanted
    if (← peek) = some (.symbol "||") then
      skip
      let b ← disjunction inside n (wanted && a = 0)
      return truth (a ≠ 0 || b ≠ 0)
    else return a

def conditional (inside : Bool → Eval Int64) : Nat → Bool → Eval Int64
  | 0, _ => throw (.expecting "primary")
  | n + 1, wanted => do
    let a ← disjunction inside (n + 1) wanted
    if (← peek) = some (.symbol "?") then
      skip
      let b ← inside (wanted && a ≠ 0)
      close ":"
      let c ← conditional inside n (wanted && a = 0)
      return if a ≠ 0 then b else c
    else return a

def assignmentOperator? (token : Option Token) : Option (Option String) :=
  match token with
  | some (.symbol "=") => some none
  | some (.symbol s) => (assigning.find? fun op ↦ op ++ "=" = s).map some
  | _ => none

/-- An expression. In parts that are not wanted nothing is assigned. -/
def expression : Nat → Bool → Eval Int64
  | 0, _ => throw (.expecting "primary")
  | n + 1, wanted => do
    match (← get).tokens with
    | .name name :: rest =>
      match assignmentOperator? rest.head? with
      | some op =>
        skip
        skip
        let b ← expression n wanted
        if wanted then
          let result ← match op with
            | none => pure b
            | some op => do apply op (← value name) b
          assign name result
          return result
        else return b
      | none => conditional (expression n) (n + 1) wanted
    | _ => conditional (expression n) (n + 1) wanted

def evaluate (lookup : String → Option String) (text : String) :
    Except Fault (Int64 × List (String × String)) := do
  let tokens := tokens (text.length + 1) text.toList
  let (n, s) ← (expression (tokens.length + 1) true).run { tokens, lookup }
  if s.tokens.isEmpty then return (n, s.assigned) else throw (.expecting "EOF")

end RegisterLang.Shell.Arithmetic
