import RegisterLang.Host.Tool.Record.Pattern
import RegisterLang.Host.Tool.Record.Value

namespace RegisterLang.Tool.Record

/-- What is wrong, and in which line. -/
structure Complaint where
  line : Nat
  message : String
  short : Bool := false

inductive Token where
  | symbol (text : String)
  | word (text : String)
  | name (text : String)
  | function (text : String)
  | builtin (text : String)
  | number (x : Float) (text : String)
  | text (octets : String)
  | pattern (p : Pattern)
  | lineEnd
  | finish
  | broken (c : Complaint)

namespace Token

def describe : Token → String
  | symbol t | word t | name t | function t | builtin t | number _ t | text t => t
  | pattern p => "/" ++ p.text ++ "/"
  | lineEnd | finish => "end of line"
  | broken c => c.message

def is (t : Token) (text : String) : Bool :=
  match t with
  | symbol s | word s => s = text
  | _ => false

/-- Whether a slash after it divides, and starts no pattern. -/
def isDividend : Token → Bool
  | name _ | number _ _ | text _ | pattern _ => true
  | symbol s => s = ")" || s = "]" || s = "++" || s = "--" || s = "$"
  | word s => s = "getline"
  | _ => false

end Token

structure Located where
  token : Token
  line : Nat

def words : List String :=
  ["BEGIN", "END", "function", "if", "else", "while", "for", "do", "break", "continue", "next",
    "nextfile", "exit", "return", "delete", "in", "getline", "print", "printf", "length", "split",
    "match", "sub", "gsub"]

def builtins : List (String × Nat × Nat) :=
  [("index", 2, 2), ("substr", 2, 3), ("sprintf", 1, 255), ("tolower", 1, 1), ("toupper", 1, 1),
    ("sin", 1, 1), ("cos", 1, 1), ("atan2", 2, 2), ("exp", 1, 1), ("log", 1, 1), ("sqrt", 1, 1),
    ("int", 1, 1), ("rand", 0, 0), ("srand", 0, 1), ("close", 1, 1), ("system", 1, 1),
    ("fflush", 0, 1), ("strftime", 0, 3), ("mktime", 1, 1), ("systime", 0, 0)]

def symbols : List String :=
  ["&&", "||", "++", "--", "+=", "-=", "*=", "/=", "%=", "^=", "==", "!=", "<=", ">=", ">>", "!~",
    "\x7b", "\x7d", "(", ")", "[", "]", ";", ",", "+", "-", "*", "/", "%", "^", "!", "<", ">", "|",
    "~",
    "?", ":", "=", "$"]

def isNameStart (c : Char) : Bool := c.isAlpha || c = '_'

def isNamePart (c : Char) : Bool := c.isAlphanum || c = '_'

def unescape : Nat → List Char → List Char
  | 0, cs => cs
  | _ + 1, [] => []
  | n + 1, '\\' :: cs =>
    match Pattern.numbered? cs with
    | some (c, rest) => c :: unescape n rest
    | none =>
      match cs with
      | '\n' :: rest => unescape n rest
      | '"' :: rest => '"' :: unescape n rest
      | '\\' :: rest => '\\' :: unescape n rest
      | c :: rest =>
        match Pattern.letter? c with
        | some e => e :: unescape n rest
        | none => '\\' :: c :: unescape n rest
      | [] => ['\\']
  | n + 1, c :: cs => c :: unescape n cs

/-- What stands up to a mark that no backslash precedes, and what follows; without the mark, what
stands on the line. In a pattern the mark may stand in brackets. -/
def upToMark (mark : Char) (brackets : Bool) : Nat → (inside : Bool) → List Char → List Char →
    Except (List Char) (List Char × List Char)
  | 0, _, done, _ | _, _, done, [] => .error done.reverse
  | n + 1, inside, done, '\\' :: c :: cs =>
    -- A mark in a pattern needs its backslash no more, and the end of a line is left out.
    if brackets && c = mark then upToMark mark brackets n inside (c :: done) cs
    else if brackets && c = '\n' then upToMark mark brackets n inside done cs
    else upToMark mark brackets n inside (c :: '\\' :: done) cs
  | n + 1, inside, done, c :: cs =>
    if c = mark && !inside then .ok (done.reverse, cs)
    else if c = '\n' then .error done.reverse
    else if brackets && c = '[' && !inside then
      -- A bracket that closes at once is part of the set.
      match cs with
      | '^' :: ']' :: rest => upToMark mark brackets n true (']' :: '^' :: '[' :: done) rest
      | ']' :: rest => upToMark mark brackets n true (']' :: '[' :: done) rest
      | _ => upToMark mark brackets n true ('[' :: done) cs
    else upToMark mark brackets n (inside && c ≠ ']') (c :: done) cs

structure Scanner where
  line : Nat := 1
  tokens : List Located := []
  functions : List String := []
  others : List String := []
  parentheses : Nat := 0
  braces : Nat := 0
  complaints : List Complaint := []

namespace Scanner

def add (s : Scanner) (token : Token) : Scanner :=
  { s with tokens := { token, line := s.line } :: s.tokens }

def fail (s : Scanner) (message : String) (short : Bool := false) : Scanner :=
  s.add (.broken { line := s.line, message, short })

def addSymbol (s : Scanner) (symbol : String) (rest : List Char) : Scanner :=
  let extra : Scanner :=
    let first : Complaint := { line := s.line, message := "extra '" ++ symbol ++ "'" }
    let onLine := rest.takeWhile (· ≠ '\n')
    let second : List Complaint :=
      if s.braces = 0 && onLine.all Char.isWhitespace then
        [{ line := s.line, message := "syntax error at or near end of line" }]
      else []
    { s with complaints := s.complaints ++ first :: second }
  match symbol with
  | "(" => { s.add (.symbol symbol) with parentheses := s.parentheses + 1 }
  | ")" => if s.parentheses = 0 then extra
    else { s.add (.symbol symbol) with parentheses := s.parentheses - 1 }
  | "\x7b" => { s.add (.symbol symbol) with braces := s.braces + 1 }
  | "\x7d" => if s.braces = 0 then extra
    else { s.add (.symbol symbol) with braces := s.braces - 1, parentheses := 0 }
  | _ => s.add (.symbol symbol)

def last? (s : Scanner) : Option Token := s.tokens.head?.map Located.token

def addName (s : Scanner) (name : String) (called : Bool) : Scanner :=
  if words.contains name then s.add (.word name)
  else if (builtins.lookup name).isSome then s.add (.builtin name)
  else if s.functions.contains name then s.add (.function name)
  else if s.others.contains name then s.add (.name name)
  else if called || (s.last?.any (·.is "function")) then
    { s.add (.function name) with functions := name :: s.functions }
  else { s.add (.name name) with others := name :: s.others }

end Scanner

def shownLength : Nat := 10

def numeral (cs : List Char) : List Char :=
  let whole := cs.takeWhile Char.isDigit
  let after := cs.drop whole.length
  let fraction := match after with
    | '.' :: rest => '.' :: rest.takeWhile Char.isDigit
    | _ => []
  let after := after.drop fraction.length
  let exponent := match after with
    | e :: rest =>
      if e = 'e' || e = 'E' then
        let sign := rest.takeWhile fun c ↦ c = '+' || c = '-'
        let digits := (rest.drop sign.length).takeWhile Char.isDigit
        if sign.length ≤ 1 && !digits.isEmpty then e :: sign ++ digits else []
      else []
    | [] => []
  whole ++ fraction ++ exponent

def leastNormal : Float := 2.2250738585072014e-308

/-- Takes a program apart into words. -/
def scan : Nat → List Char → Scanner → Scanner
  | 0, _, s => s
  | _ + 1, [], s => s.add .finish
  | n + 1, c :: cs, s =>
    if c = '\n' then scan n cs { s.add .lineEnd with line := s.line + 1 }
    else if c = ' ' || ('\t' ≤ c && c ≤ '\r') then scan n cs s
    else if c = '\\' && cs.head? = some '\n' then scan n (cs.drop 1) { s with line := s.line + 1 }
    else if c = '#' then scan n (cs.dropWhile (· ≠ '\n')) s
    else if c = '"' then
      match upToMark '"' false (cs.length + 1) false [] cs with
      | .ok (text, rest) =>
        let lines := text.count '\n'
        let text := unescape (text.length + 1) text
        scan n rest { s.add (.text (String.ofList text)) with line := s.line + lines }
      | .error text =>
        s.fail ("runaway string constant \"" ++ String.ofList (text.take shownLength) ++ " ...")
    else if c = '/' && !(s.last?.any Token.isDividend) then
      match upToMark '/' true (cs.length + 1) false [] cs with
      | .ok (text, rest) =>
        let text := String.ofList text
        match Pattern.read text with
        | .ok p => scan n rest (s.add (.pattern p))
        | .error fault =>
          let c : Complaint :=
            { line := s.line
              message := "regular expression compile failed (" ++ fault.message ++ ")\n" ++ text }
          scan n rest { s.add (.text text) with complaints := s.complaints ++ [c] }
      | .error text =>
        s.fail ("runaway regular expression /" ++ String.ofList (text.take shownLength) ++ " ...")
    else if c.isDigit || (c = '.' && cs.head?.any Char.isDigit) then
      let digits := numeral (c :: cs)
      let text := String.ofList digits
      match readNumber? digits with
      | some (x, _) =>
        if x.isInf || (x != 0 && x < leastNormal) then s.fail (text ++ " : decimal overflow")
        else scan n (cs.drop (digits.length - 1)) (s.add (.number x text))
      | none => scan n cs s
    else if isNameStart c then
      let name := c :: cs.takeWhile isNamePart
      let rest := cs.drop (name.length - 1)
      scan n rest (s.addName (String.ofList name) (rest.head? = some '('))
    else
      match symbols.find? fun symbol ↦ symbol.toList.isPrefixOf (c :: cs) with
      | some symbol =>
        let rest := cs.drop (symbol.length - 1)
        scan n rest (s.addSymbol symbol rest)
      | none =>
        let shown := if ' ' < c && c ≤ '~' then "'" ++ c.toString ++ "'"
          else "0x" ++ String.ofList (Nat.toDigits 16 c.toNat)
        s.fail ("unexpected character " ++ shown) true

def tokensOf (text : String) : List Located × List Complaint :=
  let s := scan (text.length + 1) text.toList {}
  (s.tokens.reverse, s.complaints)

end RegisterLang.Tool.Record
