import RegisterLang.Source.Head
import RegisterLang.Token.Lexeme

namespace RegisterLang

/-- The largest source, in bytes, whose offsets fit a 32-bit word. -/
def sourceLimit : Nat := 4294967295

/-- Reads tokens one at a time, one ahead of its consumer, and can be stepped on after an error. -/
structure Scanner where
  head : Head
  current : Option Token

namespace Scanner

/-- Reads the next token. An error leaves the current token as it was. -/
def advance (s : Scanner) : Except LexicalError Unit × Scanner :=
  match Lexeme.next s.head.rest with
  | none => (.ok (), { s with current := none })
  | some l =>
    let head := s.head.past l.passed l.rest
    match l.place s.head.offset with
    | .ok token => (.ok (), ⟨head, some token⟩)
    | .error e => (.error e, { s with head })

def hasMore (s : Scanner) : Bool := s.head.hasMore

def ofHead (head : Head) : Except LexicalError Scanner :=
  let bytes := Text.size head.text
  if sourceLimit < bytes then .error ⟨.sourceTooLarge bytes, ⟨0, 0⟩⟩
  else
    match advance ⟨head, none⟩ with
    | (.ok (), s) => .ok s
    | (.error e, _) => .error e

/-- The rest of a scanner as a sequence: its tokens, then the error that ends them. -/
structure Items where
  scanner : Scanner
  pending : Option LexicalError

namespace Items

def ofScanner (s : Scanner) : Items := ⟨s, none⟩

/-- The next item; after the end and after the error there are no more. -/
def next (i : Items) : Option (Except LexicalError Token) × Items :=
  match i.scanner.current with
  | some token =>
    match i.scanner.advance with
    | (.ok (), scanner) => (some (.ok token), { i with scanner })
    | (.error e, scanner) => (some (.ok token), ⟨{ scanner with current := none }, some e⟩)
  | none => (i.pending.map .error, { i with pending := none })

end Items

end Scanner

/-- A text read to its end, or to the error that stopped the reading. -/
structure Tokens where
  tokens : List Token
  error : Option LexicalError

namespace Tokens

def scanFrom (offset : Nat) (cs : List Char) : Tokens :=
  match _h : Lexeme.next cs with
  | none => ⟨[], none⟩
  | some l =>
    match _hl : l.outcome with
    | .error fault => ⟨[], some ⟨fault, ⟨offset, Text.size l.taken⟩⟩⟩
    | .ok (kind, value) =>
      let width := Text.size l.taken
      let more := scanFrom (offset + width) l.rest
      ⟨⟨kind, ⟨offset, width⟩, value⟩ :: more.tokens, more.error⟩
termination_by cs.length
decreasing_by exact Lexeme.rest_length_lt _h _hl

def ofSource (source : String) : Tokens :=
  if sourceLimit < source.utf8ByteSize then
    ⟨[], some ⟨.sourceTooLarge source.utf8ByteSize, ⟨0, 0⟩⟩⟩
  else scanFrom 0 source.toList

def toExcept (t : Tokens) : Except LexicalError (List Token) :=
  match t.error with
  | some e => .error e
  | none => .ok t.tokens

def significant (t : Tokens) : Tokens :=
  { t with tokens := t.tokens.filter fun token ↦ !token.kind.isSkippable }

end Tokens

end RegisterLang
