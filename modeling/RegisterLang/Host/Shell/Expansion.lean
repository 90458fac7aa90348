import RegisterLang.Host.Shell.Arithmetic
import RegisterLang.Host.Shell.Pattern
import RegisterLang.Host.Shell.Process

namespace RegisterLang.Shell

inductive Mark where
  | glyph (glyph : Glyph) (splits : Bool)
  | quotes
  | cut

namespace Mark

def ofText (quoted splits : Bool) (text : String) : List Mark :=
  (if quoted then [quotes] else []) ++
    text.toList.map fun c ↦ glyph ⟨c, quoted⟩ (splits && !quoted)

def glyphs (marks : List Mark) : List Glyph :=
  marks.filterMap fun m ↦
    match m with
    | glyph g _ => some g
    | quotes => none
    | cut => some ⟨' ', true⟩

def text (marks : List Mark) : String := String.ofList ((glyphs marks).map (·.char))

def separate (quoted : Bool) : List String → List Mark
  | [] => []
  | [value] => ofText quoted true value
  | value :: rest => ofText quoted true value ++ cut :: separate quoted rest

end Mark

/-- Fields that are done, the last one first, and the one that is open. After blanks have ended a
field, `blank` is true: a separator of another kind then belongs to the same gap. -/
structure Fields where
  closed : List (List Glyph) := []
  current : Option (List Glyph) := none
  blank : Bool := false

namespace Fields

def close (f : Fields) (blank : Bool) : Fields :=
  match f.current with
  | some field => { closed := field.reverse :: f.closed, current := none, blank }
  | none => { f with blank }

def isBlank (c : Char) : Bool := c = ' ' || c = '\t' || c = '\n'

/-- Takes a mark up. Blanks only separate; any other separator ends a field, empty or not. -/
def add (separators : List Char) (f : Fields) : Mark → Fields
  | .quotes => { f with current := some (f.current.getD []), blank := false }
  | .cut => f.close false
  | .glyph g splits =>
    if splits && separators.contains g.char then
      if isBlank g.char then if f.current.isSome then f.close true else f
      else if f.current.isSome then f.close false
      else if f.blank then { f with blank := false }
      else { f with closed := [] :: f.closed }
    else { f with current := some (g :: f.current.getD []), blank := false }

end Fields

def splitFields (separators : List Char) (marks : List Mark) : List (List Glyph) :=
  ((marks.foldl (Fields.add separators) {}).close false).closed.reverse

def splitPath : List Glyph → List (List Glyph)
  | [] => [[]]
  | g :: rest =>
    if g.char = '/' then [] :: splitPath rest
    else
      match splitPath rest with
      | piece :: pieces => (g :: piece) :: pieces
      | [] => [[g]]

def glyphText (glyphs : List Glyph) : String := String.ofList (glyphs.map (·.char))

def fittingNames (d : Disk) (directory : String) (piece : List Glyph) : List String :=
  match d.list (Octet.toText directory) with
  | .ok (_, children) =>
    let hidden := (piece.head?.map (·.char)) = some '.'
    let names := (if hidden then [".", ".."] else []) ++ children.map Octet.ofText
    let pattern := Pattern.read piece
    names.filter fun name ↦
      pattern.fits name.toList && (hidden || name.toList.head? ≠ some '.')
  | _ => []

def matchPieces (d : Disk) : Bool → List String → List (List Glyph) → List String
  | _, found, [] => found
  | first, found, piece :: pieces =>
    let next := found.flatMap fun start ↦
      let start := if first then start else start ++ "/"
      if Pattern.isActive piece then
        let directory := if start.isEmpty then "." else start
        (fittingNames d directory piece).map (start ++ ·)
      else [start ++ String.ofList (Pattern.literal piece)]
    matchPieces d false next pieces

def expandPattern (d : Disk) (field : List Glyph) : List String :=
  if Pattern.isActive field then
    let found := (matchPieces d true [""] (splitPath field)).filter fun path ↦
      (d.look (Octet.toText path) false).toOption.isSome
    if found.isEmpty then [glyphText field] else found.mergeSort
  else [glyphText field]

def optionOrder : List Char := "pubaCEVvxsnmiIfe".toList

def Process.parameter? (p : Process) (name : String) : Option String :=
  match name with
  | "?" => some (toString p.status)
  | "#" => some (toString p.arguments.length)
  | "$" => some (toString p.shell)
  | "!" => p.lastJob.map toString
  | "-" => some (String.ofList (optionOrder.filter p.has))
  | "0" => some p.name
  | _ =>
    if !name.isEmpty && name.toList.all Char.isDigit then p.arguments[(name.toNat?.getD 0) - 1]?
    else p.value? name

def isArguments (name : String) : Bool := name = "@" || name = "*"

def Process.joined (p : Process) (name : String) : String :=
  let by_ := if name = "*" then String.ofList (p.separators.take 1) else " "
  by_.intercalate p.arguments

def compute (text : String) : Run String := do
  match Arithmetic.evaluate (← process).value? text with
  | .ok (n, assigned) =>
    for (name, value) in assigned.reverse do assign name value
    return toString n.toInt
  | .error .overflow => throw (.killed 8)
  | .error fault => refuse (fault.message text)

/-- The marks of a parameter. `expand` expands a word in place of it, and `wholes` tells whether
arguments may become fields of their own. -/
def expandParameter (expand : Word → Run (List Mark)) (wholes : Bool) (name : String) (form : Form)
    (quoted : Bool) : Run (List Mark) := do
  let p ← process
  let many := isArguments name
  let value? := if many then some (p.joined name) else p.parameter? name
  let unset : Run String := do
    if p.has 'u' && !many then refuse (name ++ ": parameter not set") else return ""
  let one (text : String) : List Mark := Mark.ofText quoted true text
  let apart := many && wholes && !(quoted && name = "*")
  let itself : List Mark :=
    if apart then Mark.separate quoted p.arguments
    else if many && quoted && name = "@" && p.arguments.isEmpty then []
    else one (value?.getD "")
  let isSet (nonempty : Bool) : Bool :=
    match value? with
    | some text => !(nonempty && text.isEmpty)
    | none => false
  let instead (word : Word) : Run (List Mark) := do
    let marks ← expand word
    return if quoted then .quotes :: marks else marks
  match form with
  | .value =>
    if value?.isNone then let _ ← unset
    return itself
  | .length =>
    match value? with
    | some text => return one (toString text.length)
    | none => let _ ← unset; return one "0"
  | .orElse nonempty word => if isSet nonempty then return itself else instead word
  | .ifSet nonempty word =>
    if isSet nonempty then instead word else return (if quoted then [.quotes] else [])
  | .orAssign nonempty word =>
    if isSet nonempty then return itself
    else
      let text := Mark.text (← expand word)
      if Word.isName name then
        assign name text
        return one text
      else refuse (name ++ ": bad variable name")
  | .orRefuse nonempty word =>
    if isSet nonempty then return itself
    else
      let text := Mark.text (← expand word)
      let reason := if word.isEmpty then
          "parameter not set" ++ (if nonempty then " or null" else "")
        else text
      refuse (name ++ ": " ++ reason)
  | .trim atEnd longest word =>
    match value? with
    | none => return one (← unset)
    | some text =>
      let pattern := Pattern.read (Mark.glyphs (← expand word))
      if apart then
        let all := Pattern.separator.toString.intercalate p.arguments
        let trimmed := pattern.trim atEnd longest all.toList
        return Mark.separate quoted
          ((String.ofList trimmed).splitOn Pattern.separator.toString)
      else return one (String.ofList (pattern.trim atEnd longest text.toList))
  | .senseless => refuse "Bad substitution"

/-- The marks of parts. Literal text splits only where it stands in place of a parameter. -/
def expandParts (output : Option Command → Run String) (wholes : Bool) :
    Nat → Bool → Word → Run (List Mark)
  | 0, _, _ => refuse "word unexpected"
  | n + 1, splits, word => do
    let mut marks := []
    for part in word do
      let more ← match part with
        | .text content quoted => pure (Mark.ofText quoted splits content)
        | .parameter name form quoted =>
          expandParameter (expandParts output wholes n true) wholes name form quoted
        | .output script quoted => do pure (Mark.ofText quoted true (← output script))
        | .arithmetic expression quoted => do
          let text := Mark.text (← expandParts output false n false expression)
          pure (Mark.ofText quoted true (← compute text))
      marks := marks ++ more
    return marks

def wordDepth : Nat := 10000

def withHome (p : Process) (word : Word) : Word :=
  match word with
  | .text content false :: rest =>
    match content.toList with
    | '~' :: cs =>
      let user := String.ofList (cs.takeWhile (· ≠ '/'))
      let after := String.ofList (cs.dropWhile (· ≠ '/'))
      let home := if user.isEmpty then p.value? "HOME" else if user = "root" then some "/root"
        else none
      match home with
      | some home =>
        if after.isEmpty && !rest.isEmpty then word
        else if after.isEmpty then [.text home true]
        else .text home true :: .text after false :: rest
      | none => word
    | _ => word
  | _ => word

section

variable (output : Option Command → Run String)

def expandFields (word : Word) : Run (List String) := do
  let marks ← expandParts output true wordDepth false (withHome (← process) word)
  let p ← process
  let fields := splitFields p.separators marks
  let d ← disk
  return fields.flatMap fun field ↦ if p.has 'f' then [glyphText field] else expandPattern d field

def expandText (word : Word) : Run String := do
  return Mark.text (← expandParts output false wordDepth false (withHome (← process) word))

def expandGlyphs (word : Word) : Run Pattern := do
  return Pattern.read
    (Mark.glyphs (← expandParts output false wordDepth false (withHome (← process) word)))

end

end RegisterLang.Shell
