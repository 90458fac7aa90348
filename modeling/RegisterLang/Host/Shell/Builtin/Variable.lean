import RegisterLang.Host.Shell.Builtin.Options
import RegisterLang.Host.Shell.Expansion

namespace RegisterLang.Shell.Builtin

def checkName (name : String) : Run Unit :=
  if Word.isName name then return else refuse (name ++ ": bad variable name")

def splitOperand (operand : String) : String × Option String :=
  match operand.toList.dropWhile (· ≠ '=') with
  | '=' :: value => (String.ofList (operand.toList.takeWhile (· ≠ '=')), some (String.ofList value))
  | _ => (operand, none)

def sorted (bindings : List Variable) : List Variable :=
  bindings.mergeSort fun a b ↦ a.name ≤ b.name

/-- Marks variables, or shows those that are marked. -/
def mark (command : String) (isMarked : Variable → Bool) (change : Variable → Variable)
    (args : List String) : Run Nat := do
  let (found, operands) ← options "p" args
  if operands.isEmpty || !found.isEmpty then
    for v in sorted ((← process).bindings.filter isMarked) do
      say (command ++ " " ++ v.name ++
        (match v.value with
        | some value => "=" ++ quote value
        | none => "") ++ "\n")
  else
    for operand in operands do
      let (name, value) := splitOperand operand
      checkName name
      if let some value := value then assign name value
      modifyProcess fun p ↦ p.putVariable (change ((p.lookUp? name).getD { name }))
  return 0

def exportNames : List String → Run Nat := mark "export" (·.exported) ({ · with exported := true })

def fixNames : List String → Run Nat := mark "readonly" (·.fixed) ({ · with fixed := true })

def declareLocal (args : List String) : Run Nat := do
  if (← process).calls = 0 then refuse "not in a function"
  else
    for operand in args do
      let (name, value) := splitOperand operand
      checkName name
      modifyProcess fun p ↦
        match p.setAside with
        | frame :: frames =>
          if frame.any (·.1 = name) then p
          else { p with setAside := ((name, p.lookUp? name) :: frame) :: frames }
        | [] => p
      if let some value := value then assign name value
    return 0

def unset (args : List String) : Run Nat := do
  let (found, names) ← options "vf" args
  for name in names do
    if (found.getLast?.map (·.1)) = some 'f' then
      modifyProcess fun p ↦ { p with functions := p.functions.filter (·.1 ≠ name) }
    else
      checkName name
      unassign name
  return 0

def lineGlyphs (raw : Bool) : List Char → List Glyph × Bool
  | [] => ([], false)
  | ['\\'] => if raw then ([⟨'\\', false⟩], false) else ([], true)
  | '\\' :: c :: rest =>
    if raw then
      let (glyphs, more) := lineGlyphs raw (c :: rest)
      (⟨'\\', false⟩ :: glyphs, more)
    else
      let (glyphs, more) := lineGlyphs raw rest
      (⟨c, true⟩ :: glyphs, more)
  | c :: rest =>
    let (glyphs, more) := lineGlyphs raw rest
    (⟨c, false⟩ :: glyphs, more)

def physicalLine : Nat → String → Run String
  | 0, sofar => return sofar
  | n + 1, sofar => do
    match ← Strand.readLineAt 0 with
    | .error _ => return sofar
    | .ok bytes =>
      let text := sofar ++ Octet.ofBytes bytes
      if bytes.isEmpty || bytes.toList.getLast? = some 10 then return text else physicalLine n text

def logicalLine (raw : Bool) : Nat → Run (List Glyph × Bool)
  | 0 => return ([], false)
  | n + 1 => do
    let line := (← physicalLine 1000000 "").toList
    let complete := line.getLast? = some '\n'
    let text := (if complete then line.dropLast else line).filter (· ≠ '\x00')
    let (glyphs, more) := lineGlyphs raw text
    if more && complete then
      let (rest, complete) ← logicalLine raw n
      return (glyphs ++ rest, complete)
    else return (glyphs, complete)

section

variable (separators : List Char)

def separates (g : Glyph) : Bool := !g.quoted && separators.contains g.char

def isGap (g : Glyph) : Bool := separates separators g && Fields.isBlank g.char

def takeField (line : List Glyph) : List Glyph × List Glyph :=
  let line := line.dropWhile (isGap separators)
  let field := line.takeWhile (!separates separators ·)
  let rest := (line.dropWhile (!separates separators ·)).dropWhile (isGap separators)
  match rest with
  | g :: after =>
    (field, if separates separators g then after.dropWhile (isGap separators) else rest)
  | [] => (field, [])

structure Cut where
  place : Option Nat := none
  ended : Bool := false
  gap : Bool := false

/-- Goes over one more character of the rest of a line. Escaped ones do not count as text. -/
def Cut.step (cut : Cut) (item : Glyph × Nat) : Cut :=
  let (g, i) := item
  if g.quoted then { cut with gap := false }
  else if !cut.ended then
    if separates separators g then { place := some i, ended := true, gap := isGap separators g }
    else cut
  else if isGap separators g then { cut with place := some (cut.place.getD i) }
  else
    { cut with
      place := if separates separators g && cut.gap then cut.place else none
      gap := false }

def lastField (line : List Glyph) : List Glyph :=
  let line := line.dropWhile (isGap separators)
  match (line.zipIdx.foldl (Cut.step separators) {}).place with
  | some n => line.take n
  | none => line

/-- Gives each name a field of the line, and the last one the rest. -/
def distribute : List String → List Glyph → Run Unit
  | [], _ => return
  | [name], line => assign name (glyphText (lastField separators line))
  | name :: names, line => do
    let (field, rest) := takeField separators line
    assign name (glyphText field)
    distribute names rest

end

def read (args : List String) : Run Nat := do
  let (found, names) ← options "p:r" args
  if names.isEmpty then refuse "arg count"
  else
    let (line, complete) ← logicalLine (found.any (·.1 = 'r')) 100000
    for name in names do checkName name
    distribute (← process).separators names line
    return if complete then 0 else 1

def restOfArgument (args : List String) (index : Nat) (offset : Option Nat) : List Char :=
  match offset with
  | some n => if index ≤ 1 then [] else ((args[index - 2]?).getD "").toList.drop n
  | none => []

def getOptions (args : List String) : Run Nat := do
  match args with
  | known :: name :: rest =>
    let p ← process
    let operands := if rest.isEmpty then p.arguments else rest
    let index := max 1 (((p.value? "OPTIND").bind (·.toNat?)).getD 1)
    let quiet := known.startsWith ":"
    let left := restOfArgument operands index p.optionOffset
    -- The letters to go on with, and the index of the argument after them.
    let (letters, index, finished) :=
      if !left.isEmpty then (left, index, false)
      else
        match ((operands[index - 1]?).getD "").toList with
        | ['-', '-'] => ([], index + 1, true)
        | '-' :: c :: cs => (c :: cs, index + 1, false)
        | _ => ([], index, true)
    let finish (letter : String) (index : Nat) (offset : Option Nat) (status : Nat) : Run Nat := do
      assign "OPTIND" (toString index)
      modifyProcess ({ · with optionOffset := offset })
      checkName name
      assign name letter
      return status
    let word := ((operands[index - 2]?).getD "").length
    match finished, letters with
    | false, c :: cs =>
      let offset := some (word - cs.length)
      match option? known.toList c with
      | none =>
        if quiet then assign "OPTARG" c.toString
        else
          complain ("Illegal option -" ++ c.toString)
          unassign "OPTARG"
        finish "?" index offset 0
      | some false =>
        assign "OPTARG" ""
        finish c.toString index offset 0
      | some true =>
        match cs, operands[index - 1]? with
        | [], none =>
          if quiet then
            assign "OPTARG" c.toString
            finish ":" index offset 0
          else
            complain ("No arg for -" ++ c.toString ++ " option")
            unassign "OPTARG"
            finish "?" index offset 0
        | [], some value =>
          assign "OPTARG" value
          finish c.toString (index + 1) none 0
        | _, _ =>
          assign "OPTARG" (String.ofList cs)
          finish c.toString index none 0
    | _, _ => finish "?" index none 1
  | _ => refuse "Usage: getopts optstring var [arg...]"

end RegisterLang.Shell.Builtin
