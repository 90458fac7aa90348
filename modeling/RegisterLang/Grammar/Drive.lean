import RegisterLang.Grammar.Table
import RegisterLang.Token.Scanner

namespace RegisterLang

structure Mismatch where
  expected : Kind
  found : Option Token
  span : Span
  deriving DecidableEq, Repr

inductive SourceError where
  | lexical (error : LexicalError)
  | mismatch (error : Mismatch)
  | nesting (limit : Nat) (span : Span)
  deriving DecidableEq, Repr

namespace Grammar

def nestingLimit : Nat := 256

/-- The tokens still to be read and what ends them, the open levels, and the backend. -/
structure Progress (σ : Type) where
  tokens : List Token
  ending : Option LexicalError
  size : Nat
  depth : Nat
  backend : σ

namespace Progress

variable {σ : Type}

def span (s : Progress σ) : Span :=
  match s.tokens with
  | t :: _ => t.span
  | [] => ⟨s.size, 0⟩

def mismatch (s : Progress σ) (expected : Kind) : SourceError :=
  .mismatch ⟨expected, s.tokens.head?, s.span⟩

end Progress

variable {σ : Type}

/-- Follows the items to their end or to the first error. To take a token is also to look at the
next one, so an error behind it shows at once. -/
def drive (give : σ → Instruction → σ) :
    List Item → Progress σ → Progress σ × Except SourceError Unit
  | [], s => (s, .ok ())
  | .give i :: rest, s => drive give rest { s with backend := give s.backend i }
  | .enter :: rest, s =>
    if nestingLimit < s.depth + 1 then
      ({ s with depth := s.depth + 1 }, .error (.nesting nestingLimit s.span))
    else drive give rest { s with depth := s.depth + 1 }
  | .leave :: rest, s => drive give rest { s with depth := s.depth - 1 }
  | .sight kind :: rest, s =>
    if s.tokens.head?.map Token.kind = some kind then drive give rest s
    else (s, .error (s.mismatch kind))
  | .token kind :: rest, s =>
    match _h : s.tokens with
    | [] => (s, .error (s.mismatch kind))
    | t :: tokens =>
      if t.kind = kind then
        match tokens.isEmpty, s.ending with
        | true, some e => ({ s with tokens }, .error (.lexical e))
        | _, _ => drive give rest { s with tokens }
      else (s, .error (s.mismatch kind))
  | .production p :: rest, s => drive give (expand p s.tokens.head? ++ rest) s
termination_by items s => (s.tokens.length, potential items)
decreasing_by
  all_goals first
    | exact Prod.Lex.right _ (potential_expand_lt p s.tokens.head? rest)
    | exact Prod.Lex.right _ (by simp [potential])
    | exact Prod.Lex.left _ _ (by simp [*])

def compile (give : σ → Instruction → σ) (start : σ) (source : String) :
    σ × Except SourceError Unit :=
  let read := (Tokens.ofSource source).significant
  match read.tokens, read.error with
  | [], some e => (start, .error (.lexical e))
  | tokens, ending =>
    let (s, result) := drive give [.production .program]
      ⟨tokens, ending, source.utf8ByteSize, 0, start⟩
    (s.backend, result)

def instructions (source : String) : Array Instruction × Except SourceError Unit :=
  compile Array.push #[] source

end Grammar

end RegisterLang
