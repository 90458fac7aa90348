import RegisterLang.Source.Span
import RegisterLang.Token.Kind

namespace RegisterLang

/-- A token of a source text; `value` matters only for kinds without a fixed spelling. -/
structure Token where
  kind : Kind
  span : Span
  value : String
  deriving DecidableEq, Repr

namespace Token

def text (t : Token) : String := t.kind.literal.getD t.value

end Token

inductive LexicalFault where
  | illegalCharacter (c : Char)
  | illegalOperator (text : String)
  | unterminatedComment
  | sourceTooLarge (bytes : Nat)
  deriving DecidableEq, Repr

structure LexicalError where
  fault : LexicalFault
  span : Span
  deriving DecidableEq, Repr

end RegisterLang
