import RegisterLang.Host.Tool.Edit.Basic

namespace RegisterLang.Tool.Edit

inductive Origin where
  | expression (number : Nat)
  | file (name : String)
  deriving DecidableEq, Repr

/-- Where the reader stands in which part of the script. -/
structure Cursor where
  origin : Origin
  rest : List Char
  used : Nat := 0
  line : Nat := 1

def Cursor.describe (c : Cursor) : String :=
  match c.origin with
  | .expression n => "-e expression #" ++ toString n ++ ", char " ++ toString c.used
  | .file name => "file " ++ name ++ " line " ++ toString c.line

structure Fault where
  message : String
  status : Nat := 1

abbrev Reader := StateT Cursor (Except Fault)

def wrong {α : Type} (message : String) : Reader α := do
  throw { message := (← get).describe ++ ": " ++ message }

def next : Reader (Option Char) := do
  let c ← get
  match c.rest with
  | [] => return none
  | ch :: rest =>
    set { c with rest, used := c.used + 1, line := if ch = '\n' then c.line + 1 else c.line }
    return some ch

def back (ch : Option Char) : Reader Unit :=
  modify fun c ↦
    match ch with
    | none => c
    | some ch =>
      { c with rest := ch :: c.rest, used := c.used - 1
               line := if ch = '\n' then c.line - 1 else c.line }

def isBlank (ch : Char) : Bool := ch = ' ' || ch = '\t'

def isSpace (ch : Char) : Bool := ch = ' ' || ('\t' ≤ ch && ch ≤ '\r')

def takeWhile (p : Char → Bool) : Reader (List Char) := do
  let c ← get
  let taken := c.rest.takeWhile p
  set { c with rest := c.rest.drop taken.length, used := c.used + taken.length
               line := c.line + taken.count '\n' }
  return taken

def nextNonblank : Reader (Option Char) := do
  let _ ← takeWhile isBlank
  next

def integer (first : Option Char) : Reader Nat := do
  back first
  let digits ← takeWhile Char.isDigit
  return digits.foldl (fun n c ↦ n * 10 + (c.toNat - '0'.toNat)) 0

def endOfCommand : Reader Unit := do
  match ← nextNonblank with
  | some '}' => back (some '}')
  | some '#' => back (some '#')
  | none | some '\n' | some ';' => return
  | some _ => wrong "extra characters after command"

def labelName : Reader String := do
  let _ ← takeWhile isBlank
  return String.ofList (← takeWhile fun ch ↦ !isSpace ch && ch ≠ ';' && ch ≠ '}' && ch ≠ '#')

def fileName : Reader String := do
  let _ ← takeWhile isBlank
  let name ← takeWhile (· ≠ '\n')
  let _ ← next
  return String.ofList name

def bracketLength (cs : List Char) : Option Nat :=
  let lead := match cs with
    | '^' :: ']' :: _ => 2
    | '^' :: _ => 1
    | ']' :: _ => 1
    | _ => 0
  let rec go : Nat → Nat → List Char → Option Nat
    | 0, _, _ => none
    | n + 1, i, cs =>
      match cs with
      | [] => none
      | ']' :: _ => some (i + 1)
      | '[' :: mark :: rest =>
        if mark = ':' || mark = '.' || mark = '=' then
          let inside := rest.takeWhile (· ≠ mark)
          match rest.drop inside.length with
          | _ :: ']' :: after => go n (i + inside.length + 4) after
          | _ => none
        else go n (i + 1) (mark :: rest)
      | _ :: rest => go n (i + 1) rest
  (go (cs.length + 1) lead (cs.drop lead))

/-- The text up to a delimiter. A backslash before the delimiter keeps it in the text; in a pattern,
one before an `n` makes a newline, and brackets hide delimiters. -/
def delimited (mark : Char) (isPattern : Bool) : Nat → List Char → Reader (Option (List Char))
  | 0, _ => return none
  | n + 1, sofar => do
    match ← next with
    | none => return none
    | some '\n' =>
      back (some '\n')
      return none
    | some ch =>
      if ch = mark then return some sofar.reverse
      else if ch = '\\' then
        match ← next with
        | none => return none
        | some c =>
          if c = 'n' && isPattern && mark ≠ 'n' then delimited mark isPattern n ('\n' :: sofar)
          else if c = '\n' then
            delimited mark isPattern n ('\n' :: (if isPattern then sofar else '\\' :: sofar))
          else if c = mark && (isPattern || c ≠ '&') then delimited mark isPattern n (c :: sofar)
          else delimited mark isPattern n (c :: '\\' :: sofar)
      else if ch = '[' && isPattern then
        match bracketLength (← get).rest with
        | none =>
          -- What is not closed goes on to the end.
          let _ ← takeWhile (fun _ ↦ true)
          return none
        | some length =>
          let inside := (← get).rest.take length
          modify fun c ↦ { c with
            rest := c.rest.drop length, used := c.used + length
            line := c.line + inside.count '\n' }
          let rec unescape : List Char → List Char
            | '\\' :: 'n' :: rest => '\n' :: unescape rest
            | c :: rest => c :: unescape rest
            | [] => []
          delimited mark isPattern n ((unescape inside).reverse ++ '[' :: sofar)
      else delimited mark isPattern n (ch :: sofar)

def delimitedText (mark : Char) (isPattern : Bool) : Reader (Option (List Char)) := do
  delimited mark isPattern ((← get).rest.length + 1) []

/-- Where escapes stand, since a pattern keeps some of them. -/
inductive Setting where
  | plain
  | pattern
  | replacement
  deriving DecidableEq, Repr

def digitOf? (base : Nat) (c : Char) : Option Nat :=
  let n := if c.isDigit then c.toNat - '0'.toNat
    else if 'a' ≤ c && c ≤ 'f' then c.toNat - 'a'.toNat + 10
    else if 'A' ≤ c && c ≤ 'F' then c.toNat - 'A'.toNat + 10
    else 99
  if n < base then some n else none

def takeNumber (base : Nat) (most : Nat) (cs : List Char) : Option (Nat × List Char) :=
  let digits := (cs.take most).takeWhile fun c ↦ (digitOf? base c).isSome
  if digits.isEmpty then none
  else
    some (digits.foldl (fun n c ↦ n * base + (digitOf? base c).getD 0) 0, cs.drop digits.length)

/-- Replaces escapes that stand for characters. -/
def resolve (setting : Setting) : Nat → List Char → Except String (List Char)
  | 0, cs => .ok cs
  | _ + 1, [] => .ok []
  | n + 1, '\\' :: c :: rest => do
    let one (x : Char) (rest : List Char) : Except String (List Char) := do
      return x :: (← resolve setting n rest)
    let coded (value : Nat) (rest : List Char) : Except String (List Char) := do
      let x := Char.ofNat (value % 256)
      let rest ← resolve setting n rest
      return if x = '\\' || (x = '&' && setting = .replacement) then '\\' :: x :: rest
        else x :: rest
    let number (base most : Nat) : Except String (List Char) := do
      match takeNumber base most rest with
      | some (value, rest) => coded value rest
      | none => return '\\' :: c :: (← resolve setting n rest)
    match c with
    | 'a' => one '\x07' rest
    | 'f' => one '\x0c' rest
    | 'r' => one '\r' rest
    | 't' => one '\t' rest
    | 'v' => one '\x0b' rest
    | 'n' =>
      if setting = .pattern then return '\\' :: c :: (← resolve setting n rest) else one '\n' rest
    | 'd' => number 10 3
    | 'o' => number 8 3
    | 'x' => number 16 2
    | 'c' =>
      match rest with
      | [] => .ok ['\\']
      | '\\' :: '\\' :: rest => coded (('\\'.toNat) ^^^ 64) rest
      | '\\' :: _ => .error "recursive escaping after \\c not allowed"
      | x :: rest => coded (x.toUpper.toNat ^^^ 64) rest
    | _ => return '\\' :: c :: (← resolve setting n rest)
  | n + 1, c :: rest => return c :: (← resolve setting n rest)

def resolved (setting : Setting) (cs : List Char) : Reader (List Char) := do
  match resolve setting (cs.length + 1) cs with
  | .ok cs => return cs
  | .error message => wrong message

def unescaped : List Char → List Char
  | '\\' :: c :: rest => c :: unescaped rest
  | c :: rest => c :: unescaped rest
  | [] => []

structure Flags where
  fold : Bool := false
  multiline : Bool := false

/-- Reads a pattern by its flags. An empty one is the last one used. -/
def pattern (extended : Bool) (cs : List Char) (flags : Flags) : Reader Pattern := do
  if cs.isEmpty then
    if flags.fold || flags.multiline then wrong "cannot specify modifiers on empty regexp"
    return none
  let text := String.ofList (← resolved .pattern cs)
  let flavor : Regex.Flavor :=
    if extended then
      { extended := true, leading := .refuse, lastBracket := .unreadable, checksClasses := true
        linewise := flags.multiline }
    else
      { strictRepeats := true, lastBracket := .unreadable, checksClasses := true
        linewise := flags.multiline }
  match Regex.prepare flavor text flags.fold with
  | .ok m => return some (m, flags.multiline)
  | .error .bareClass => throw { message := Regex.Fault.bareClass.message, status := 4 }
  | .error fault => wrong fault.message

def addressFlags : Nat → Flags → Reader Flags
  | 0, f => return f
  | n + 1, f => do
    match ← nextNonblank with
    | some 'I' => addressFlags n { f with fold := true }
    | some 'M' => addressFlags n { f with multiline := true }
    | ch =>
      back ch
      return f

def address (extended : Bool) (ch : Option Char) : Reader (Option Address) := do
  match ch with
  | some '$' => return some .last
  | some '+' => return some (.plus (← integer (← nextNonblank)))
  | some '~' => return some (.multiple (← integer (← nextNonblank)))
  | some '/' | some '\\' =>
    let mark ← if ch = some '\\' then next else pure ch
    match mark with
    | none => wrong "unterminated address regex"
    | some mark =>
      match ← delimitedText mark true with
      | none => wrong "unterminated address regex"
      | some text =>
        let flags ← addressFlags ((← get).rest.length + 1) {}
        return some (.pattern (← pattern extended text flags))
  | some c =>
    if c.isDigit then
      let first ← integer ch
      match ← nextNonblank with
      | some '~' =>
        let interval ← integer (← nextNonblank)
        return some (if interval = 0 then .line first else .step first interval)
      | other =>
        back other
        return some (.line first)
    else return none
  | none => return none

def replacement : Nat → List Char → List Piece
  | 0, _ => []
  | _ + 1, [] => []
  | n + 1, '\\' :: c :: rest =>
    if c.isDigit then .group (c.toNat - '0'.toNat) :: replacement n rest
    else
      match c with
      | 'U' => .case .upper :: replacement n rest
      | 'L' => .case .lower :: replacement n rest
      | 'E' => .case .none :: replacement n rest
      | 'u' => .nextCase .upper :: replacement n rest
      | 'l' => .nextCase .lower :: replacement n rest
      | c => .text c.toString :: replacement n rest
  | n + 1, '&' :: rest => .group 0 :: replacement n rest
  | n + 1, c :: rest => .text c.toString :: replacement n rest

def highestGroup (pieces : List Piece) : Nat :=
  pieces.foldl (fun n p ↦
    match p with
    | .group k => max n k
    | _ => n) 0

structure Marks where
  flags : Flags := {}
  everywhere : Bool := false
  number : Option Nat := none
  printed : Bool := false
  printedFirst : Bool := false
  evaluated : Bool := false
  file : Option String := none

def marks : Nat → Marks → Reader Marks
  | 0, m => return m
  | n + 1, m => do
    match ← next with
    | some 'i' | some 'I' => marks n { m with flags := { m.flags with fold := true } }
    | some 'm' | some 'M' => marks n { m with flags := { m.flags with multiline := true } }
    | some 'e' => marks n { m with evaluated := true }
    | some 'p' =>
      if m.printed then wrong "multiple \x60p' options to \x60s' command"
      marks n { m with printed := true, printedFirst := !m.evaluated }
    | some 'g' =>
      if m.everywhere then wrong "multiple \x60g' options to \x60s' command"
      marks n { m with everywhere := true }
    | some 'w' => return { m with file := some (← fileName) }
    | some '}' =>
      back (some '}')
      return m
    | some '#' =>
      back (some '#')
      return m
    | none | some '\n' | some ';' => return m
    | some c =>
      if c.isDigit then
        if m.number.isSome then wrong "multiple number options to \x60s' command"
        let k ← integer (some c)
        if k = 0 then wrong "number option to \x60s' command may not be zero"
        marks n { m with number := some k }
      else if isBlank c then marks n m
      else if c = '\r' && (← get).rest.head? = some '\n' then
        let _ ← next
        return m
      else wrong "unknown option to \x60s'"

/-- The script as far as it is read, with blocks and labels still open. -/
structure Parsing where
  extended : Bool := false
  sandbox : Bool := false
  script : Script := {}
  blocks : List (Nat × Cursor) := []
  labels : List (String × Nat) := []
  jumps : List (Nat × String) := []
  pending : Option (List Char) := none

namespace Parsing

def size (p : Parsing) : Nat := p.script.instructions.size

def add (p : Parsing) (lines : Lines) (command : Command) : Parsing :=
  { p with script := { p.script with
    instructions := p.script.instructions.push { lines, command } } }

def outlet (p : Parsing) (path : String) : Parsing × Outlet :=
  if path = "/dev/stdout" then (p, .output)
  else if path = "/dev/stderr" then (p, .error)
  else
    let i := p.script.outputs.findIdx (· = path)
    if i < p.script.outputs.length then (p, .file i)
    else ({ p with script := { p.script with outputs := p.script.outputs ++ [path] } }, .file i)

def input (p : Parsing) (path : String) : Parsing × Nat :=
  let i := p.script.inputs.findIdx (· = path)
  if i < p.script.inputs.length then (p, i)
  else ({ p with script := { p.script with inputs := p.script.inputs ++ [path] } }, i)

def setText (p : Parsing) (text : String) : Parsing :=
  let change (i : Instruction) : Instruction :=
    { i with command := match i.command with
      | .append _ => .append text
      | .insert _ => .insert text
      | .change _ => .change text
      | .run _ => .run (some text)
      | other => other }
  { p with script := { p.script with
    instructions := p.script.instructions.modify (p.size - 1) change } }

end Parsing

def textLines : Nat → List Char → Reader (List Char × Bool)
  | 0, sofar => return (sofar.reverse, false)
  | n + 1, sofar => do
    match ← next with
    | none | some '\n' => return (('\n' :: sofar).reverse, false)
    | some '\\' =>
      match ← next with
      | none => return (('\n' :: sofar).reverse, true)
      | some c => textLines n (c :: '\\' :: sofar)
    | some c => textLines n (c :: sofar)

def readText (p : Parsing) (sofar : List Char) : Reader Parsing := do
  let (lines, goesOn) ← textLines ((← get).rest.length + 1) []
  let all := sofar ++ lines
  if goesOn then return { p.setText (String.ofList (unescaped all)) with pending := some all }
  let text ← resolved .plain all
  return { p.setText (String.ofList (unescaped text)) with pending := none }

def commandText (p : Parsing) (first : Option Char) : Reader Parsing := do
  match first with
  | none => wrong "expected \\ after \x60a', \x60c' or \x60i'"
  | some '\\' =>
    -- Blanks before the end of the line do not belong to the text.
    let rest := (← get).rest
    let blanks := rest.takeWhile isBlank
    match rest.drop blanks.length with
    | '\n' :: _ =>
      let _ ← takeWhile isBlank
      let _ ← next
      readText p []
    | [] =>
      if blanks.isEmpty then return { p with pending := some [] } else readText p []
    | _ => readText p []
  | some '\n' => wrong "expected \\ after \x60a', \x60c' or \x60i'"
  | some c =>
    back (some c)
    readText p []

def requireFile (name : String) : Reader Unit := do
  if name.isEmpty then wrong "missing filename in r/R/w/W commands"

def translated : List Char → List Char
  | '\\' :: 'n' :: rest => '\n' :: translated rest
  | '\\' :: c :: rest => c :: translated rest
  | c :: rest => c :: translated rest
  | [] => []

def substitution (p : Parsing) (lines : Lines) : Reader Parsing := do
  let unterminated {α : Type} : Reader α := wrong "unterminated \x60s' command"
  match ← next with
  | none => unterminated
  | some mark =>
    let some regex ← delimitedText mark true | unterminated
    let some text ← delimitedText mark false | unterminated
    let pieces := replacement (text.length + 1) (← resolved .replacement text)
    let m ← marks ((← get).rest.length + 1) {}
    if let some name := m.file then requireFile name
    if p.sandbox && (m.evaluated || m.file.isSome) then
      wrong "e/r/w commands disabled in sandbox mode"
    let compiled ← pattern p.extended regex m.flags
    let groups := (compiled.map fun (m, _) ↦ m.groups).getD 9
    if groups < highestGroup pieces then
      wrong ("invalid reference \\" ++ toString (highestGroup pieces) ++
        " on \x60s' command's RHS")
    let (p, outlet) := match m.file with
      | some name => ((p.outlet name).1, some (p.outlet name).2)
      | none => (p, none)
    return p.add lines (.substitute
      { pattern := compiled, replacement := pieces, everywhere := m.everywhere
        number := m.number.getD 1, printed := m.printed, printedFirst := m.printedFirst
        evaluated := m.evaluated, outlet })

def translation (p : Parsing) (lines : Lines) : Reader Parsing := do
  let unterminated {α : Type} : Reader α := wrong "unterminated \x60y' command"
  match ← next with
  | none => unterminated
  | some mark =>
    let some source ← delimitedText mark false | unterminated
    let some target ← delimitedText mark false | unterminated
    let a := translated (← resolved .plain source)
    let b := translated (← resolved .plain target)
    if a.length ≠ b.length then wrong "strings for \x60y' command are different lengths"
    endOfCommand
    return p.add lines (.translate (a.zip b))

def plainCommand? : Char → Option Command
  | '=' => some .number
  | 'd' => some .delete
  | 'D' => some .deleteFirst
  | 'F' => some .fileName
  | 'g' => some .fetch
  | 'G' => some .fetchAppend
  | 'h' => some .keep
  | 'H' => some .keepAppend
  | 'n' => some .next
  | 'N' => some .nextAppend
  | 'p' => some .print
  | 'P' => some .printFirst
  | 'z' => some .clear
  | 'x' => some .exchange
  | _ => none

def optionalNumber : Reader (Option Nat) := do
  let ch ← nextNonblank
  let n ← if ch.any Char.isDigit then do pure (some (← integer ch))
    else do
      back ch
      pure none
  endOfCommand
  return n

def command (p : Parsing) (lines : Lines) (ch : Option Char) : Reader Parsing := do
  match ch with
  | none => wrong "missing command"
  | some '{' =>
    return { p.add { lines with negated := !lines.negated } (.block 0) with
      blocks := (p.size, ← get) :: p.blocks }
  | some '}' =>
    match p.blocks with
    | [] => wrong "unexpected \x60\x7d'"
    | (start, _) :: outer =>
      if lines.first.isSome then wrong "\x60\x7d' doesn't want any addresses"
      endOfCommand
      let p := p.add {} .blockEnd
      let setFinish (i : Instruction) : Instruction := { i with command := .block p.size }
      return { p with
        blocks := outer
        script := { p.script with instructions := p.script.instructions.modify start setFinish } }
  | some 'e' =>
    if p.sandbox then wrong "e/r/w commands disabled in sandbox mode"
    match ← nextNonblank with
    | none | some '\n' => return p.add lines (.run none)
    | ch => commandText (p.add lines (.run none)) ch
  | some 'a' => do
    let ch ← nextNonblank
    commandText (p.add lines (.append "")) ch
  | some 'i' => do
    let ch ← nextNonblank
    commandText (p.add lines (.insert "")) ch
  | some 'c' => do
    let ch ← nextNonblank
    commandText (p.add lines (.change "")) ch
  | some ':' =>
    if lines.first.isSome then wrong ": doesn't want any addresses"
    let name ← labelName
    if name.isEmpty then wrong "\":\" lacks a label"
    return { p.add {} .label with labels := p.labels ++ [(name, p.size)] }
  | some 'b' => jumpTo .jump
  | some 't' => jumpTo .jumpIfReplaced
  | some 'T' => jumpTo .jumpUnlessReplaced
  | some 'q' | some 'Q' =>
    if lines.second.isSome then wrong "command only uses one address"
    let status := (← optionalNumber).getD 0
    return p.add lines (if ch = some 'q' then .quit status else .quitSilently status)
  | some 'l' => return p.add lines (.list (← optionalNumber))
  | some 'L' =>
    let _ ← optionalNumber
    return p.add lines .fill
  | some 'r' =>
    if p.sandbox then wrong "e/r/w commands disabled in sandbox mode"
    let name ← fileName
    requireFile name
    return p.add lines (.readFile name)
  | some 'R' =>
    if p.sandbox then wrong "e/r/w commands disabled in sandbox mode"
    let name ← fileName
    requireFile name
    let (p, number) := p.input name
    return p.add lines (.readLine number)
  | some 'w' | some 'W' =>
    if p.sandbox then wrong "e/r/w commands disabled in sandbox mode"
    let name ← fileName
    requireFile name
    let (p, outlet) := p.outlet name
    return p.add lines (if ch = some 'w' then .write outlet else .writeFirst outlet)
  | some 's' => substitution p lines
  | some 'y' => translation p lines
  | some c =>
    match plainCommand? c with
    | some command =>
      endOfCommand
      return p.add lines command
    | none => wrong ("unknown command: \x60" ++ c.toString ++ "'")
where
  jumpTo (make : Nat → Command) : Reader Parsing := do
    let name ← labelName
    return { p.add lines (make 0) with jumps := p.jumps ++ [(p.size, name)] }

def commandLines (p : Parsing) (ch : Option Char) : Reader (Lines × Option Char) := do
  let (lines, ch) ← match ← address p.extended ch with
    | none => pure (({} : Lines), ch)
    | some first =>
      match first with
      | .plus _ | .multiple _ => wrong "invalid usage of +N or ~N as first address"
      | _ => pure ()
      let (second, ch) ← match ← nextNonblank with
        | some ',' =>
          match ← address p.extended (← nextNonblank) with
          | none => wrong "unexpected \x60,'"
          | some second => do pure (some second, ← nextNonblank)
        | ch => pure (none, ch)
      match first, second with
      | .line 0, some (.pattern _) => pure ()
      | .line 0, _ => wrong "invalid usage of line address 0"
      | _, _ => pure ()
      pure ({ first := some first, second }, ch)
  match ch with
  | some '!' =>
    match ← nextNonblank with
    | some '!' => wrong "multiple \x60!'s"
    | ch => return ({ lines with negated := true }, ch)
  | _ => return (lines, ch)

def commands : Nat → Parsing → Reader Parsing
  | 0, p => return p
  | n + 1, p => do
    let _ ← takeWhile fun ch ↦ isSpace ch || ch = ';'
    match ← next with
    | none => return p
    | first =>
      let (lines, ch) ← commandLines p first
      match ch with
      | some '#' =>
        if lines.first.isSome then wrong "comments don't accept any addresses"
        let start := (← get).used
        let comment ← takeWhile (· ≠ '\n')
        let isFirst := match (← get).origin with
          | .expression k => k = 1
          | .file _ => true
        let p := if comment.head? = some 'n' && start = 1 && isFirst && p.size = 0 then
            { p with script := { p.script with silent := true } }
          else p
        commands n p
      | some 'v' =>
        let version ← labelName
        let parts := (version.splitOn ".").map String.toNat?
        let isNewer : Bool := match parts with
          | [some a] => 4 < a
          | some a :: some b :: _ => 4 < a || (a = 4 && 9 < b)
          | _ => !version.isEmpty
        if isNewer then wrong "expected newer version of sed"
        commands n p
      | ch => commands n (← command p lines ch)

/-- Reads one part of a script and goes on with what came before. -/
def part (origin : Origin) (text : String) (p : Parsing) : Except Fault Parsing := do
  let start : Cursor := { origin, rest := text.toList }
  let reading : Reader Parsing := do
    let p ← match p.pending with
      | some sofar => readText { p with pending := none } sofar
      | none => pure p
    commands (text.length + 1) p
  return (← reading.run start).1

def finish (p : Parsing) : Except Fault Script := do
  if let (_, place) :: _ := p.blocks then
    let place := match place.origin with
      | .expression _ => { place with used := 0 }
      | .file _ => place
    throw { message := place.describe ++ ": unmatched \x60\x7b'" }
  let size := p.size
  let mut instructions := p.script.instructions
  for (i, name) in p.jumps do
    let target ← if name.isEmpty then pure size
      else
        match p.labels.lookup name with
        | some target => pure target
        | none =>
          throw { message := "can't find label for jump to \x60" ++ name ++ "'", status := 4 }
    instructions := instructions.modify i fun x ↦
      { x with command := match x.command with
        | .jump _ => .jump target
        | .jumpIfReplaced _ => .jumpIfReplaced target
        | .jumpUnlessReplaced _ => .jumpUnlessReplaced target
        | other => other }
  return { p.script with instructions }

end RegisterLang.Tool.Edit
