import RegisterLang.Token.Basic

namespace RegisterLang

namespace Lexeme

def isBlank (c : Char) : Bool := c = ' ' || c = '\t' || c = '\n'

def isDigit (c : Char) : Bool := '0' ≤ c && c ≤ '9'

def isLetter (c : Char) : Bool := 'a' ≤ c && c ≤ 'z' || 'A' ≤ c && c ≤ 'Z' || c = '_'

def isOperator (c : Char) : Bool := (Kind.operator? c).isSome

end Lexeme

/-- The outcome of looking at the front of a text. `taken` is what the outcome covers; `rest` is
where reading goes on, which is the text itself when an illegal character blocks the way. -/
structure Lexeme where
  taken : List Char
  outcome : Except LexicalFault (Kind × String)
  rest : List Char

namespace Lexeme

def run (kind : Kind) (p : Char → Bool) (cs : List Char) : Lexeme :=
  let text := cs.takeWhile p
  ⟨text, .ok (kind, String.ofList text), cs.dropWhile p⟩

/-- A run of letters is a keyword or a variable. -/
def word (cs : List Char) : Lexeme :=
  let text := String.ofList (cs.takeWhile isLetter)
  let token := match Kind.keyword? text with
    | some kind => (kind, "")
    | none => (.identifier, text)
  ⟨cs.takeWhile isLetter, .ok token, cs.dropWhile isLetter⟩

/-- A run of operator characters is a token only when it is a single character. -/
def operator (cs : List Char) : Lexeme :=
  let text := cs.takeWhile isOperator
  let outcome := match text with
    | [c] => match Kind.operator? c with
      | some kind => .ok (kind, "")
      | none => .error (.illegalOperator (String.ofList text))
    | _ => .error (.illegalOperator (String.ofList text))
  ⟨text, outcome, cs.dropWhile isOperator⟩

def comment (cs : List Char) : Lexeme :=
  let body := cs.takeWhile (· ≠ '}')
  match cs.dropWhile (· ≠ '}') with
  | [] => ⟨'{' :: body, .error .unterminatedComment, []⟩
  | close :: rest => ⟨'{' :: body ++ [close], .ok (.comment, String.ofList body), rest⟩

def next : List Char → Option Lexeme
  | [] => none
  | c :: cs =>
    if isBlank c then run .whitespace isBlank (c :: cs)
    else if isDigit c then run .integer isDigit (c :: cs)
    else if c = '(' then some ⟨[c], .ok (.leftParen, ""), cs⟩
    else if c = ')' then some ⟨[c], .ok (.rightParen, ""), cs⟩
    else if isLetter c then word (c :: cs)
    else if isOperator c then operator (c :: cs)
    else if c = '{' then comment cs
    else some ⟨[c], .error (.illegalCharacter c), c :: cs⟩

/-- What is read over: all that is taken, but an illegal character stays where it is. -/
def passed (l : Lexeme) : List Char :=
  match l.outcome with
  | .error (.illegalCharacter _) => []
  | _ => l.taken

/-- The result as a token or an error, given the offset at which the lexeme starts. -/
def place (l : Lexeme) (offset : Nat) : Except LexicalError Token :=
  let span : Span := ⟨offset, Text.size l.taken⟩
  match l.outcome with
  | .ok (kind, value) => .ok ⟨kind, span, value⟩
  | .error fault => .error ⟨fault, span⟩

theorem dropWhile_length_lt {p : Char → Bool} {c : Char} (h : p c = true) (cs : List Char) :
    ((c :: cs).dropWhile p).length < (c :: cs).length := by
  have := List.Sublist.length_le (List.dropWhile_sublist p (l := cs))
  simp only [List.dropWhile_cons, h, if_true, List.length_cons]
  omega

theorem rest_length_lt {cs : List Char} {l : Lexeme} {token : Kind × String}
    (h : next cs = some l) (hok : l.outcome = .ok token) : l.rest.length < cs.length := by
  cases cs with
  | nil => simp [next] at h
  | cons c cs =>
    simp only [next] at h
    split at h
    · next hc => cases h; exact dropWhile_length_lt hc cs
    split at h
    · next hc => cases h; exact dropWhile_length_lt hc cs
    split at h
    · cases h; simp
    split at h
    · cases h; simp
    split at h
    · next hc => cases h; exact dropWhile_length_lt hc cs
    split at h
    · next hc => cases h; exact dropWhile_length_lt hc cs
    split at h
    · cases h
      have hs := List.Sublist.length_le (List.dropWhile_sublist (l := cs) (· ≠ '}'))
      unfold comment at hok ⊢
      dsimp only at hok ⊢
      split at hok
      · simp at hok
      · next heq => rw [heq] at hs; simp only [List.length_cons] at hs ⊢; omega
    · cases h; simp at hok

end Lexeme

end RegisterLang
