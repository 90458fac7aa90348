namespace RegisterLang.Shell

inductive Opening where
  | read
  | write
  | clobber
  | append
  | readWrite
  | share
  | document (id : Nat)
  deriving DecidableEq, Repr

mutual

inductive Part where
  | text (content : String) (quoted : Bool)
  | parameter (name : String) (form : Form) (quoted : Bool)
  | output (script : Option Command) (quoted : Bool)
  | arithmetic (expression : List Part) (quoted : Bool)

/-- What is asked of a parameter. A parameter that is empty counts as unset for the forms that want
it nonempty. -/
inductive Form where
  | value
  | length
  | orElse (nonempty : Bool) (word : List Part)
  | orAssign (nonempty : Bool) (word : List Part)
  | orRefuse (nonempty : Bool) (word : List Part)
  | ifSet (nonempty : Bool) (word : List Part)
  | trim (atEnd longest : Bool) (pattern : List Part)
  | senseless

inductive Redirect where
  | mk (descriptor : Nat) (opening : Opening) (target : List Part)

inductive Command where
  | simple (line : Nat) (assignments : List (String × List Part)) (words : List (List Part))
      (redirects : List Redirect)
  | pipeline (stages : List Command)
  | negated (command : Command)
  | both (first second : Command)
  | either (first second : Command)
  | sequence (first second : Command)
  | background (command : Command)
  | subshell (line : Nat) (body : Command) (redirects : List Redirect)
  | redirected (line : Nat) (body : Command) (redirects : List Redirect)
  | conditional (test body : Command) (alternative : Option Command)
  | loop (untilSuccess : Bool) (test body : Command)
  | forEach (line : Nat) (name : String) (words : List (List Part)) (body : Command)
  | choice (line : Nat) (subject : List Part)
      (branches : List (List (List Part) × Option Command))
  | define (name : String) (body : Command)

end

abbrev Word := List Part

namespace Part

def isQuoted : Part → Bool
  | text _ quoted | parameter _ _ quoted | output _ quoted | arithmetic _ quoted => quoted

end Part

namespace Word

def plain? : Word → Option String
  | [.text content false] => some content
  | _ => none

def literal (word : Word) : String :=
  String.join (word.map fun part ↦
    match part with
    | .text content _ => content
    | _ => "")

def isNameStart (c : Char) : Bool := c.isAlpha || c = '_'

def isNameChar (c : Char) : Bool := isNameStart c || c.isDigit

def isName (text : String) : Bool :=
  match text.toList with
  | [] => false
  | c :: cs => isNameStart c && cs.all isNameChar

/-- Splits a text at its first equals sign if a name stands in front of it. -/
def splitAssignment? (text : String) : Option (String × String) :=
  let name := String.ofList (text.toList.takeWhile (· ≠ '='))
  match text.toList.dropWhile (· ≠ '=') with
  | '=' :: value => if isName name then some (name, String.ofList value) else none
  | _ => none

def assignment? : Word → Option (String × Word)
  | .text content false :: rest =>
    (splitAssignment? content).map fun (name, value) ↦
      (name, if value.isEmpty then rest else .text value false :: rest)
  | _ => none

end Word

def isSpecialBuiltin (name : String) : Bool :=
  [":", ".", "break", "continue", "eval", "exec", "exit", "export", "readonly", "return", "set",
    "shift", "times", "trap", "unset", "local"].contains name

end RegisterLang.Shell
