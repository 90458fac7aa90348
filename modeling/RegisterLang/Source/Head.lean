import RegisterLang.Text.Bytes

namespace RegisterLang

/-- A position in a text: what is still ahead, and how many bytes are behind. -/
structure Head where
  text : List Char
  rest : List Char
  offset : Nat
  deriving DecidableEq, Repr

namespace Head

def ofText (text : List Char) : Head := ⟨text, text, 0⟩

def current (h : Head) : Option Char := h.rest.head?

def hasMore (h : Head) : Bool := !h.rest.isEmpty

/-- Moves over one character; at the end it stays where it is. -/
def advance (h : Head) : Head :=
  match h.rest with
  | [] => h
  | c :: rest => { h with rest, offset := h.offset + c.utf8Size }

def advanceBy : Nat → Head → Head
  | 0, h => h
  | n + 1, h => advanceBy n h.advance

/-- The text between an earlier offset and the head. -/
def fragmentFrom? (h : Head) (start : Nat) : Option (List Char) :=
  Text.slice? h.text start h.offset

/-- The head after `taken`, with `rest` still ahead. -/
def past (h : Head) (taken rest : List Char) : Head :=
  { h with rest, offset := h.offset + Text.size taken }

end Head

end RegisterLang
