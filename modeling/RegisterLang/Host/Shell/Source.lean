import RegisterLang.Host.Shell.Syntax

namespace RegisterLang.Shell

def keywords : List String :=
  ["!", "case", "do", "done", "elif", "else", "esac", "fi", "for", "if", "in", "then", "until",
    "while", "\x7b", "\x7d"]

inductive Token where
  | word (word : Word)
  | keyword (text : String)
  | operator (symbol : String)
  | redirect (descriptor : Option Nat) (opening : Opening)
  | document (descriptor : Option Nat) (indented : Bool)
  | newline
  | finish

namespace Token

def describe : Token → String
  | word _ => "word"
  | keyword text => "\"" ++ text ++ "\""
  | operator symbol => "\"" ++ symbol ++ "\""
  | redirect _ _ | document _ _ => "redirection"
  | newline => "newline"
  | finish => "end of file"

def isKeyword (token : Token) (text : String) : Bool :=
  match token with
  | keyword t => t = text
  | _ => false

def isOperator (token : Token) (symbol : String) : Bool :=
  match token with
  | operator s => s = symbol
  | _ => false

def withKeyword : Token → Token
  | word w =>
    match w.plain? with
    | some text => if keywords.contains text then keyword text else word w
    | none => word w
  | t => t

def endsList : Token → Bool
  | finish => true
  | operator symbol => [")", ";;"].contains symbol
  | keyword text => ["do", "done", "elif", "else", "esac", "fi", "then", "\x7d"].contains text
  | _ => false

end Token

/-- A document that starts after the line at hand. -/
structure Announced where
  id : Nat
  delimiter : String
  indented : Bool
  verbatim : Bool

/-- What is left of a script, with aliases that are being expanded. -/
structure Source where
  rest : List Char
  line : Nat := 1
  pushed : Option Token := none
  announced : List Announced := []
  documents : List (Nat × Word) := []
  nextDocument : Nat := 0
  aliases : List (String × String) := []
  expanding : List (String × Nat) := []

structure SyntaxFault where
  line : Nat
  message : String
  deriving DecidableEq, Repr

abbrev Parse := StateT Source (Except SyntaxFault)

namespace Source

def refuse {α : Type} (message : String) : Parse α := do
  throw ⟨(← get).line, message⟩

def unexpected {α : Type} (token : Token) (expected : Option Token := none) : Parse α :=
  refuse (token.describe ++ " unexpected" ++
    match expected with
    | some t => " (expecting " ++ t.describe ++ ")"
    | none => "")

/-- Leaves out backslashes at the ends of lines. -/
def joinLines : List Char → Nat → List Char × Nat
  | '\\' :: '\n' :: rest, line => joinLines rest (line + 1)
  | rest, line => (rest, line)

def skipBlanks : List Char → Nat → List Char × Nat
  | '\\' :: '\n' :: rest, line => skipBlanks rest (line + 1)
  | ' ' :: rest, line => skipBlanks rest line
  | '\t' :: rest, line => skipBlanks rest line
  | '#' :: rest, line => (rest.dropWhile (· ≠ '\n'), line)
  | rest, line => (rest, line)

def peek : Parse (Option Char) := do
  let s ← get
  let (rest, line) := joinLines s.rest s.line
  set { s with rest, line }
  return rest.head?

def peekRaw : Parse (Option Char) := do return (← get).rest.head?

def skip : Parse Unit :=
  modify fun s ↦ { s with
    rest := s.rest.tail
    line := if s.rest.head? = some '\n' then s.line + 1 else s.line }

def drop : Parse Unit := modify fun s ↦ { s with rest := s.rest.tail }

def accept (c : Char) : Parse Bool := do
  if (← peek) = some c then skip; return true
  else return false

def push (token : Token) : Parse Unit := modify fun s ↦ { s with pushed := some token }

def takeWhile (belongs : Char → Bool) : Nat → Parse String
  | 0 => return ""
  | n + 1 => do
    match ← peek with
    | some c =>
      if belongs c then
        skip
        return c.toString ++ (← takeWhile belongs n)
      else return ""
    | none => return ""

def size : Parse Nat := do return (← get).rest.length

end Source

end RegisterLang.Shell
