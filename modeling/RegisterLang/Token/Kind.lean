namespace RegisterLang

inductive Operation where
  | add | subtract | multiply | divide | modulus
  deriving DecidableEq, Repr

inductive Condition where
  | positive | negative | zero
  deriving DecidableEq, Repr

inductive Kind where
  | whitespace | comment
  | identifier | integer
  | leftParen | rightParen
  | plus | minus | multiply | divide | modulus | assignment
  | programStart | blockEnd
  | ifPositive | ifZero | ifNegative | otherwise
  | loop | leave | print | read
  deriving DecidableEq, Repr

namespace Operation

def symbol : Operation → String
  | add => "+"
  | subtract => "-"
  | multiply => "*"
  | divide => "/"
  | modulus => "%"

end Operation

namespace Condition

def symbol : Condition → String
  | positive => ">"
  | negative => "<"
  | zero => "=="

def describe (c : Condition) : String := c.symbol ++ " 0"

end Condition

namespace Kind

/-- The one spelling of a kind; `none` where each token carries its own text. -/
def literal : Kind → Option String
  | whitespace | comment | identifier | integer => none
  | leftParen => "("
  | rightParen => ")"
  | plus => "+"
  | minus => "-"
  | multiply => "*"
  | divide => "/"
  | modulus => "%"
  | assignment => "="
  | programStart => "BEGIN"
  | blockEnd => "END"
  | ifPositive => "IFP"
  | ifZero => "IFZ"
  | ifNegative => "IFN"
  | otherwise => "ELSE"
  | loop => "LOOP"
  | leave => "BREAK"
  | print => "PRINT"
  | read => "READ"

def name : Kind → String
  | whitespace => "Whitespace"
  | comment => "Comment"
  | identifier => "Variable"
  | integer => "Integer"
  | leftParen => "LeftParen"
  | rightParen => "RightParen"
  | plus => "Plus"
  | minus => "Minus"
  | multiply => "Multiply"
  | divide => "Divide"
  | modulus => "Modulus"
  | assignment => "Assignment"
  | programStart => "Begin"
  | blockEnd => "End"
  | ifPositive => "IfP"
  | ifZero => "IfZ"
  | ifNegative => "IfN"
  | otherwise => "Else"
  | loop => "Loop"
  | leave => "Break"
  | print => "Print"
  | read => "Read"

/-- How an error message speaks of a kind: by its spelling, else by its class. -/
def describe (k : Kind) : String :=
  match k.literal, k with
  | some text, _ => text
  | none, whitespace => "whitespace"
  | none, comment => "comment"
  | none, identifier => "variable"
  | none, integer => "integer"
  | none, _ => ""

def keywords : List Kind :=
  [programStart, blockEnd, ifPositive, ifZero, ifNegative, otherwise, loop, leave, print, read]

/-- Keywords are spelled in capitals only. -/
def keyword? (text : String) : Option Kind :=
  keywords.find? fun k ↦ k.literal = some text

def operator? : Char → Option Kind
  | '+' => plus
  | '-' => minus
  | '*' => multiply
  | '/' => divide
  | '%' => modulus
  | '=' => assignment
  | _ => none

def isSkippable (k : Kind) : Bool := k = whitespace || k = comment

def isBlockEnd (k : Kind) : Bool := k = blockEnd || k = otherwise

def condition? : Kind → Option Condition
  | ifPositive => some .positive
  | ifNegative => some .negative
  | ifZero => some .zero
  | _ => none

def additive? : Kind → Option Operation
  | plus => some .add
  | minus => some .subtract
  | _ => none

def multiplicative? : Kind → Option Operation
  | multiply => some .multiply
  | divide => some .divide
  | modulus => some .modulus
  | _ => none

end Kind

end RegisterLang
