import RegisterLang.Grammar.Table

namespace RegisterLang

abbrev Word := Kind × String

def Token.word (t : Token) : Word := (t.kind, t.text)

def Kind.word (k : Kind) : Word := (k, k.literal.getD "")

namespace Condition

def keyword : Condition → Kind
  | positive => .ifPositive
  | negative => .ifNegative
  | zero => .ifZero

end Condition

namespace Operation

def kind : Operation → Kind
  | add => .plus
  | subtract => .minus
  | multiply => .multiply
  | divide => .divide
  | modulus => .modulus

def isAdditive : Operation → Bool
  | add | subtract => true
  | _ => false

end Operation

namespace Grammar

/-- Derivations of the grammar, by the production that they start from. -/
inductive Tree : Production → Type where
  /-- `BEGIN block END` -/
  | program (body : Tree .block) : Tree .program
  | empty : Tree .block
  | sequence (first : Tree .statement) (rest : Tree .block) : Tree .block
  /-- `(IFP | IFZ | IFN) expression block [ ELSE block ] END` -/
  | conditional (condition : Condition) (test : Tree .expression) (body : Tree .block)
      (other : Tree .alternative) : Tree .statement
  /-- `LOOP block END` -/
  | loop (body : Tree .block) : Tree .statement
  /-- `BREAK` -/
  | leave : Tree .statement
  /-- `PRINT expression` -/
  | print (value : Tree .expression) : Tree .statement
  /-- `READ variable` -/
  | read (into : Tree .readTarget) : Tree .statement
  /-- `variable = expression` -/
  | assign (name : String) (value : Tree .expression) : Tree .statement
  | noAlternative : Tree .alternative
  /-- `ELSE block` -/
  | otherwise (body : Tree .block) : Tree .alternative
  | target (name : String) : Tree .readTarget
  /-- `term { (+ | -) term }` -/
  | expression (first : Tree .term) (rest : Tree .moreTerms) : Tree .expression
  | noTerms : Tree .moreTerms
  | moreTerms (operation : Operation) (additive : operation.isAdditive = true)
      (next : Tree .term) (rest : Tree .moreTerms) : Tree .moreTerms
  /-- `signed { (* | / | %) factor }` -/
  | term (first : Tree .signed) (rest : Tree .moreFactors) : Tree .term
  | noFactors : Tree .moreFactors
  | moreFactors (operation : Operation) (multiplicative : operation.isAdditive = false)
      (next : Tree .factor) (rest : Tree .moreFactors) : Tree .moreFactors
  | unsigned (factor : Tree .factor) : Tree .signed
  /-- `+ factor` -/
  | plus (factor : Tree .factor) : Tree .signed
  /-- `- factor` -/
  | minus (factor : Tree .factor) : Tree .signed
  | integer (text : String) : Tree .factor
  | identifier (name : String) : Tree .factor
  /-- `( expression )` -/
  | group (inner : Tree .expression) : Tree .factor

namespace Tree

def words : {p : Production} → Tree p → List Word
  | _, program body => Kind.programStart.word :: (body.words ++ [Kind.blockEnd.word])
  | _, empty | _, noAlternative | _, noTerms | _, noFactors => []
  | _, sequence first rest => first.words ++ rest.words
  | _, conditional condition test body other =>
    condition.keyword.word ::
      (test.words ++ (body.words ++ (other.words ++ [Kind.blockEnd.word])))
  | _, loop body => Kind.loop.word :: (body.words ++ [Kind.blockEnd.word])
  | _, leave => [Kind.leave.word]
  | _, print value => Kind.print.word :: value.words
  | _, read into => Kind.read.word :: into.words
  | _, assign name value => (.identifier, name) :: Kind.assignment.word :: value.words
  | _, otherwise body => Kind.otherwise.word :: body.words
  | _, target name => [(.identifier, name)]
  | _, expression first rest => first.words ++ rest.words
  | _, moreTerms operation _ next rest => operation.kind.word :: (next.words ++ rest.words)
  | _, term first rest => first.words ++ rest.words
  | _, moreFactors operation _ next rest => operation.kind.word :: (next.words ++ rest.words)
  | _, unsigned factor => factor.words
  | _, plus factor => Kind.plus.word :: factor.words
  | _, minus factor => Kind.minus.word :: factor.words
  | _, integer text => [(.integer, text)]
  | _, identifier name => [(.identifier, name)]
  | _, group inner => Kind.leftParen.word :: (inner.words ++ [Kind.rightParen.word])

/-- Levels of nesting: each conditional, each loop and each pair of parentheses is one. -/
def nesting : {p : Production} → Tree p → Nat
  | _, program body => body.nesting
  | _, empty | _, leave | _, noAlternative | _, target _ | _, noTerms | _, noFactors => 0
  | _, integer _ | _, identifier _ => 0
  | _, sequence first rest => max first.nesting rest.nesting
  | _, conditional _ test body other => max test.nesting (max body.nesting other.nesting) + 1
  | _, loop body => body.nesting + 1
  | _, print value | _, assign _ value => value.nesting
  | _, read into => into.nesting
  | _, otherwise body => body.nesting
  | _, expression first rest => max first.nesting rest.nesting
  | _, moreTerms _ _ next rest => max next.nesting rest.nesting
  | _, term first rest => max first.nesting rest.nesting
  | _, moreFactors _ _ next rest => max next.nesting rest.nesting
  | _, unsigned factor | _, plus factor | _, minus factor => factor.nesting
  | _, group inner => inner.nesting + 1

def instructions : {p : Production} → Tree p → List Instruction
  | _, program body => .programStart :: (body.instructions ++ [.programEnd])
  | _, empty | _, noAlternative | _, noTerms | _, noFactors => []
  | _, sequence first rest => first.instructions ++ rest.instructions
  | _, conditional condition test body other =>
    test.instructions ++ .branch condition ::
      (body.instructions ++ (other.instructions ++ [.branchEnd]))
  | _, loop body => .loopStart :: (body.instructions ++ [.loopEnd])
  | _, leave => [.exitLoop]
  | _, print value => value.instructions ++ [.print]
  | _, read into => into.instructions
  | _, assign name value => value.instructions ++ [.store name]
  | _, otherwise body => .otherwise :: body.instructions
  | _, target name => [.read name]
  | _, expression first rest => first.instructions ++ rest.instructions
  | _, moreTerms operation _ next rest =>
    .push :: (next.instructions ++ .apply operation :: rest.instructions)
  | _, term first rest => first.instructions ++ rest.instructions
  | _, moreFactors operation _ next rest =>
    .push :: (next.instructions ++ .apply operation :: rest.instructions)
  | _, unsigned factor | _, plus factor => factor.instructions
  | _, minus factor => factor.instructions ++ [.negate]
  | _, integer text => [.loadInteger text]
  | _, identifier name => [.loadVariable name]
  | _, group inner => inner.instructions

end Tree

end Grammar

end RegisterLang
