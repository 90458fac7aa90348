import RegisterLang.Instruction
import RegisterLang.Token.Basic

namespace RegisterLang.Grammar

inductive Production where
  | program
  | block
  | statement
  | alternative
  | readTarget
  | expression
  | moreTerms
  | term
  | moreFactors
  | signed
  | factor
  deriving DecidableEq, Repr

/-- What a right-hand side is made of. -/
inductive Item where
  /-- Takes a token of this kind. -/
  | token (kind : Kind)
  /-- Asks for a token of this kind and leaves it in place. -/
  | sight (kind : Kind)
  /-- Gives an instruction. -/
  | give (instruction : Instruction)
  /-- Opens a level of nesting. -/
  | enter
  /-- Closes a level of nesting. -/
  | leave
  | production (p : Production)
  deriving DecidableEq, Repr

open Item Production

/-- A conditional statement that starts with the given keyword. -/
def conditional (kind : Kind) (condition : Condition) : List Item :=
  [enter, token kind, production expression, give (.branch condition), production block,
    production alternative, token .blockEnd, give .branchEnd, leave]

def loopStatement : List Item :=
  [enter, token .loop, give .loopStart, production block, token .blockEnd, give .loopEnd, leave]

/-- An assignment to the variable that stands ahead; with none ahead it asks for one. -/
def assignment (ahead : Token) : List Item :=
  [token .identifier, token .assignment, production expression, give (.store ahead.text)]

/-- How a statement goes on that starts with this token. -/
def statementItems (ahead : Token) : List Item :=
  match ahead.kind.condition?, ahead.kind with
  | some condition, kind => conditional kind condition
  | none, .loop => loopStatement
  | none, .leave => [token .leave, give .exitLoop]
  | none, .print => [token .print, production expression, give .print]
  | none, .read => [token .read, production readTarget]
  | none, _ => assignment ahead

def operatorTail (kind : Kind) (operation : Operation) (operand more : Production) : List Item :=
  [give .push, token kind, production operand, give (.apply operation), production more]

def parenthesised : List Item :=
  [enter, token .leftParen, production expression, token .rightParen, leave]

/-- The right-hand side of a production, given the token ahead. With the instructions left out, the
grammar is

    program    := BEGIN block END
    block      := { statement }
    statement  := (IFP | IFZ | IFN) expression block [ ELSE block ] END | LOOP block END | BREAK
                | PRINT expression | READ variable | variable = expression
    expression := term { (+ | -) term }
    term       := signed { (* | / | %) factor }
    signed     := [ + | - ] factor
    factor     := integer | variable | ( expression ) -/
def expand (p : Production) (ahead : Option Token) : List Item :=
  match p with
  | program => [token .programStart, give .programStart, production block, sight .blockEnd,
      give .programEnd]
  | block => match ahead with
    | none => []
    | some t => if t.kind.isBlockEnd then [] else [production statement, production block]
  | statement => match ahead with
    | none => [token .identifier]
    | some t => statementItems t
  | alternative =>
    if ahead.map Token.kind = some .otherwise then
      [token .otherwise, give .otherwise, production block]
    else []
  | readTarget => match ahead with
    | none => [token .identifier]
    | some t => [token .identifier, give (.read t.text)]
  | expression => [production term, production moreTerms]
  | moreTerms => match ahead.bind fun t ↦ t.kind.additive?.map (t.kind, ·) with
    | none => []
    | some (kind, operation) => operatorTail kind operation term moreTerms
  | term => [production signed, production moreFactors]
  | moreFactors => match ahead.bind fun t ↦ t.kind.multiplicative?.map (t.kind, ·) with
    | none => []
    | some (kind, operation) => operatorTail kind operation factor moreFactors
  | signed => match ahead.map Token.kind with
    | some .plus => [token .plus, production factor]
    | some .minus => [token .minus, production factor, give .negate]
    | _ => [production factor]
  | factor => match ahead with
    | none => parenthesised
    | some t => match t.kind with
      | .integer => [token .integer, give (.loadInteger t.text)]
      | .identifier => [token .identifier, give (.loadVariable t.text)]
      | _ => parenthesised

/-- Productions that may derive nothing. -/
def Production.isNullable : Production → Bool
  | block | alternative | moreTerms | moreFactors => true
  | _ => false

/-- More than the steps that a production takes before a token is taken or it turns out empty. -/
def Production.weight : Production → Nat
  | program => 2
  | block => 4
  | statement => 3
  | alternative => 2
  | readTarget => 2
  | expression => 6
  | moreTerms => 3
  | term => 5
  | moreFactors => 3
  | signed => 4
  | factor => 3

/-- Bounds the steps that a list of items takes before the next token is taken. -/
def potential : List Item → Nat
  | [] => 0
  | token _ :: _ => 1
  | production p :: rest => if p.isNullable then p.weight + potential rest else p.weight
  | _ :: rest => potential rest + 1

/-- To expand a production brings the next token nearer. -/
theorem potential_expand_lt (p : Production) (ahead : Option Token) (rest : List Item) :
    potential (expand p ahead ++ rest) < potential (production p :: rest) := by
  cases p with
  | program => simp [expand, potential, isNullable, weight]
  | block =>
    cases ahead with
    | none => simp [expand, potential, isNullable, weight]
    | some t =>
      by_cases h : t.kind.isBlockEnd
      · simp [expand, h, potential, isNullable, weight]
      · simp [expand, h, potential, isNullable, weight]
        omega
  | statement =>
    cases ahead with
    | none => simp [expand, potential, isNullable, weight]
    | some t =>
      simp only [expand, statementItems]
      split <;>
        simp [conditional, loopStatement, assignment, potential, isNullable, weight]
  | alternative =>
    by_cases h : ahead.map Token.kind = some .otherwise
    · simp [expand, h, potential, isNullable, weight]
      omega
    · simp [expand, h, potential, isNullable, weight]
  | readTarget => cases ahead <;> simp [expand, potential, isNullable, weight]
  | expression => simp [expand, potential, isNullable, weight]
  | moreTerms =>
    simp only [expand]
    split
    · simp [potential, isNullable, weight]
    · simp [operatorTail, potential, isNullable, weight]
      omega
  | term => simp [expand, potential, isNullable, weight]
  | moreFactors =>
    simp only [expand]
    split
    · simp [potential, isNullable, weight]
    · simp [operatorTail, potential, isNullable, weight]
      omega
  | signed =>
    simp only [expand]
    split <;> simp [potential, isNullable, weight]
  | factor =>
    cases ahead with
    | none => simp [expand, parenthesised, potential, isNullable, weight]
    | some t =>
      simp only [expand]
      split <;> simp [parenthesised, potential, isNullable, weight]

end RegisterLang.Grammar
