import RegisterLang.Text.Bytes

namespace RegisterLang

/-- A stretch of a source text: where it starts and how long it is, in bytes. What a span shows is
missing where it does not lie on characters of the text. -/
structure Span where
  index : Nat
  size : Nat
  deriving DecidableEq, Repr, Inhabited

namespace Span

def stop (s : Span) : Nat := s.index + s.size

def fragment? (s : Span) (text : List Char) : Option (List Char) :=
  Text.slice? text s.index s.stop

/-- The text before and after the start of the span; a start past the end counts as the end. -/
def around? (s : Span) (text : List Char) : Option (List Char × List Char) :=
  Text.cut? (min s.index (Text.size text)) text

/-- Line and column of the start, both counted from one, columns in characters. -/
def lineColumn? (s : Span) (text : List Char) : Option (Nat × Nat) :=
  (s.around? text).map fun (before, _) ↦
    (before.count '\n' + 1, (Text.lastLine before).length + 1)

/-- The line that holds the start, without its newline, and where it stands. -/
def surroundingLine? (s : Span) (text : List Char) : Option (List Char × Span) :=
  (s.around? text).map fun (before, after) ↦
    let head := Text.lastLine before
    let tail := Text.firstLine after
    (head ++ tail, ⟨Text.size before - Text.size head, Text.size head + Text.size tail⟩)

end Span

end RegisterLang
