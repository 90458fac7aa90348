import RegisterLang.Disk.Basic
import RegisterLang.Text.Line

namespace RegisterLang.Input

def nameEnding : String := "bitsy"

def ofFile (d : Disk) (path : String) : Except InputFault String :=
  if path.endsWith nameEnding then
    match d.read path with
    | .error fault => .error (.unreadable path fault)
    | .ok bytes =>
      match Utf8.decode? bytes with
      | some text => .ok (String.ofList text)
      | none => .error (.unreadable path .invalidText)
  else .error (.wrongName path)

theorem splitLine_cons_length (b : UInt8) (bs : List UInt8) :
    (splitLine (b :: bs)).2.length < (b :: bs).length := by
  have h := congrArg List.length (splitLine_append (b :: bs))
  have hpos : 0 < (splitLine (b :: bs)).1.length := by
    by_cases hb : b = 10 <;> simp [splitLine, hb]
  simp only [List.length_append] at h
  omega

/-- Takes lines off a stream up to one that starts with a dot, which is taken but not part of the
text. A line that is not UTF-8 ends the reading with a fault. -/
def ofStream : List UInt8 → Except SystemFault (List Char) × List UInt8
  | [] => (.ok [], [])
  | b :: bs =>
    match Utf8.decode? (splitLine (b :: bs)).1 with
    | none => (.error .invalidText, (splitLine (b :: bs)).2)
    | some line =>
      if line.head? = some '.' then (.ok [], (splitLine (b :: bs)).2)
      else
        match ofStream (splitLine (b :: bs)).2 with
        | (.ok text, rest) => (.ok (line ++ text), rest)
        | (.error fault, rest) => (.error fault, rest)
termination_by stream => stream.length
decreasing_by exact splitLine_cons_length b bs

end RegisterLang.Input
