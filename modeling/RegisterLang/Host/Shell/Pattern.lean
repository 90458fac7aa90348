namespace RegisterLang.Shell

/-- A character of a word after expansion. One that is quoted stands for itself. -/
structure Glyph where
  char : Char
  quoted : Bool := false
  deriving DecidableEq, Repr

namespace Pattern

def namedSet? (name : String) : Option (Char → Bool) :=
  match name with
  | "alpha" => some Char.isAlpha
  | "digit" => some Char.isDigit
  | "alnum" => some Char.isAlphanum
  | "upper" => some Char.isUpper
  | "lower" => some Char.isLower
  | "space" => some fun c ↦ c = ' ' || ('\t' ≤ c && c ≤ '\r')
  | "blank" => some fun c ↦ c = ' ' || c = '\t'
  | "punct" => some fun c ↦ '!' ≤ c && c ≤ '~' && !c.isAlphanum
  | "print" => some fun c ↦ ' ' ≤ c && c ≤ '~'
  | "graph" => some fun c ↦ '!' ≤ c && c ≤ '~'
  | "cntrl" => some fun c ↦ c < ' ' || c = '\x7f'
  | "xdigit" => some fun c ↦ c.isDigit || ('a' ≤ c && c ≤ 'f') || ('A' ≤ c && c ≤ 'F')
  | _ => none

end Pattern

inductive PatternItem where
  | exactly (c : Char)
  | any
  | many
  | among (accepts : Char → Bool)

abbrev Pattern := List PatternItem

namespace PatternItem

def accepts : PatternItem → Char → Bool
  | exactly c, d => c = d
  | any, _ => true
  | many, _ => false
  | among p, d => p d

end PatternItem

namespace Pattern

def members : Nat → Bool → List Glyph → Option ((Char → Bool) × List Glyph)
  | 0, _, _ => none
  | n + 1, atStart, glyphs =>
    let also (p : Char → Bool) (rest : List Glyph) : Option ((Char → Bool) × List Glyph) :=
      (members n false rest).map fun (q, after) ↦ (fun c ↦ p c || q c, after)
    match glyphs with
    | [] => none
    | ⟨']', false⟩ :: rest => if atStart then also (· = ']') rest else some (fun _ ↦ false, rest)
    | ⟨'[', false⟩ :: ⟨':', false⟩ :: rest =>
      let name := String.ofList ((rest.takeWhile (·.char ≠ ':')).map (·.char))
      match namedSet? name, rest.dropWhile (·.char ≠ ':') with
      | some p, ⟨':', _⟩ :: ⟨']', _⟩ :: after => also p after
      | _, _ => also (· = '[') (⟨':', false⟩ :: rest)
    | low :: ⟨'-', false⟩ :: high :: rest =>
      if high = ⟨']', false⟩ then also (· = low.char) (⟨'-', false⟩ :: high :: rest)
      else also (fun c ↦ low.char ≤ c && c ≤ high.char) rest
    | g :: rest => also (· = g.char) rest

def bracket? (glyphs : List Glyph) : Option ((Char → Bool) × List Glyph) :=
  match glyphs with
  | ⟨'!', false⟩ :: rest =>
    (members (rest.length + 1) true rest).map fun (p, after) ↦ (fun c ↦ !p c, after)
  | _ => members (glyphs.length + 1) true glyphs

/-- Reads a pattern. A backslash in a value takes the meaning from the character behind it. A slash
never matches a wildcard in a file name, but file names are matched piece by piece, so nothing here
depends on it. -/
def ofGlyphs : Nat → List Glyph → Pattern
  | 0, _ => []
  | _ + 1, [] => []
  | n + 1, g :: rest =>
    if g.quoted then .exactly g.char :: ofGlyphs n rest
    else
      match g.char with
      | '*' => .many :: ofGlyphs n rest
      | '?' => .any :: ofGlyphs n rest
      | '[' =>
        match bracket? rest with
        | some (p, after) => .among p :: ofGlyphs n after
        | none => .exactly '[' :: ofGlyphs n rest
      | '\\' =>
        match rest with
        | next :: after => .exactly next.char :: ofGlyphs n after
        | [] => [.exactly '\\']
      | c => .exactly c :: ofGlyphs n rest

def read (glyphs : List Glyph) : Pattern := ofGlyphs (glyphs.length + 1) glyphs

def anySuffix (p : List Char → Bool) : List Char → Bool
  | [] => p []
  | c :: cs => p (c :: cs) || anySuffix p cs

def fits : Pattern → List Char → Bool
  | [], cs => cs.isEmpty
  | .many :: items, cs => anySuffix (fits items) cs
  | item :: items, c :: cs => item.accepts c && fits items cs
  | _ :: _, [] => false

def isActive : List Glyph → Bool
  | [] => false
  | [g] => !g.quoted && "*?[".toList.contains g.char
  | g :: next :: rest =>
    if g = ⟨'\\', false⟩ then isActive rest
    else (!g.quoted && "*?[".toList.contains g.char) || isActive (next :: rest)

def literal : List Glyph → List Char
  | [] => []
  | [g] => [g.char]
  | g :: next :: rest =>
    if g = ⟨'\\', false⟩ then next.char :: literal rest else g.char :: literal (next :: rest)

def separator : Char := '\x00'

/-- A text without the piece at its start or end that fits. Pieces are tried from the left for the
shortest start and the longest end, and from the right for the others; none reaches over a
separator. -/
def trim (pattern : Pattern) (atEnd longest : Bool) (text : List Char) : List Char :=
  let upToSeparator (cs : List Char) : List Char := cs.takeWhile (· ≠ separator)
  let places := if longest = atEnd then List.range ((upToSeparator text).length + 1)
    else (List.range (text.length + 1)).reverse
  let fitsAt (n : Nat) : Bool :=
    pattern.fits (upToSeparator (if atEnd then text.drop n else text.take n))
  match places.find? fitsAt with
  | some n => if atEnd then text.take n else text.drop n
  | none => text

end Pattern

end RegisterLang.Shell
