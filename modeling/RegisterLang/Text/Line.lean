import RegisterLang.Text.Utf8

namespace RegisterLang

def splitLine : List UInt8 → List UInt8 × List UInt8
  | [] => ([], [])
  | b :: rest =>
    if b = 10 then ([b], rest)
    else
      let (line, more) := splitLine rest
      (b :: line, more)

theorem splitLine_append (bs : List UInt8) : (splitLine bs).1 ++ (splitLine bs).2 = bs := by
  induction bs with
  | nil => rfl
  | cons b bs ih =>
    by_cases h : b = 10
    · simp [splitLine, h]
    · simp [splitLine, h, ih]

/-- Takes one line off a stream. A line that is not UTF-8 has no text, but it is taken all the
same. -/
def readLine (stream : List UInt8) : Option (List Char) × List UInt8 :=
  let (line, rest) := splitLine stream
  (Utf8.decode? line, rest)

end RegisterLang
