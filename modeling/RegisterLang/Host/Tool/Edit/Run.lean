import RegisterLang.Host.Tool.Edit.Parse
import RegisterLang.Host.Tool.Launch
import RegisterLang.Host.Tool.Portion

namespace RegisterLang.Tool.Edit

structure Setup where
  script : Script := {}
  silent : Bool := false
  separate : Bool := false
  inPlace : Option String := none
  delimiter : UInt8 := 10
  unbuffered : Bool := false
  width : Nat := 70

/-- Whether the lines between two addresses are open, and where they end. -/
inductive Phase where
  | idle
  | active (finish : Nat)
  | closed
  deriving DecidableEq, Repr

/-- What is written when the cycle ends. -/
inductive Queued where
  | text (octets : String)
  | file (path : String)

structure Draft where
  path : String
  mode : Nat
  output : ByteArray := .empty

/-- The pattern space and the hold space, the input, and what is still to write. -/
structure Machine where
  pattern : ByteArray := .empty
  ended : Bool := true
  hold : ByteArray := .empty
  holdEnded : Bool := true
  line : Nat := 0
  replaced : Bool := false
  queue : List Queued := []
  phases : Array Phase := #[]
  lastPattern : Option (Regex.Matcher × Bool) := none
  fileName : String := "-"
  isOpen : Bool := false
  restart : Bool := false
  files : List String := []
  status : Nat := 0
  unended : List Outlet := []
  draft : Option Draft := none
  readers : Array (Option (List String)) := #[]
  descriptors : Array Nat := #[]

def complainAhead (octets : String) : Tool Unit := do
  reportAhead ((← get).name ++ ": " ++ octets ++ "\n")

def giveUp {α : Type} (status : Nat) (octets : String) : Tool α := do
  complainAhead octets
  throw status

def initialPhases (script : Script) : Array Phase :=
  script.instructions.map fun i ↦
    match i.lines.first with
    | some (.line 0) => .active 0
    | _ => .idle

section

variable (u : Setup)

def writeRaw (m : Machine) (o : Outlet) (bytes : ByteArray) : Tool Machine := do
  match o with
  | .output =>
    match m.draft with
    | some d => return { m with draft := some { d with output := d.output ++ bytes } }
    | none =>
      put bytes
      if u.unbuffered then flush
      return m
  | .error =>
    let _ ← Strand.writeAt 2 bytes
    return m
  | .file n =>
    let _ ← Strand.writeAt (m.descriptors.getD n 1) bytes
    return m

def endLine (m : Machine) (o : Outlet) : Tool Machine := do
  if m.unended.contains o then
    writeRaw u { m with unended := m.unended.filter (· ≠ o) } o ⟨#[u.delimiter]⟩
  else return m

def writeLine (m : Machine) (o : Outlet) (bytes : ByteArray) (ended : Bool) : Tool Machine := do
  let m ← endLine u m o
  if ended then writeRaw u m o (bytes.push u.delimiter)
  else
    let m ← writeRaw u m o bytes
    return { m with unended := o :: m.unended }

def writeText (m : Machine) (octets : String) : Tool Machine := do
  let m ← endLine u m .output
  writeRaw u m .output (Octet.toBytes octets)

def writeQueue (m : Machine) : Tool Machine := do
  let mut now := { m with queue := [] }
  for item in m.queue do
    now ← endLine u now .output
    match item with
    | .text octets => now ← writeRaw u now .output (Octet.toBytes octets)
    | .file path =>
      let result ← aside (contentsOf (if path = "/dev/stdin" then "-" else path))
      if let .ok bytes := result then now ← writeRaw u now .output bytes
  return now

def readSize : Nat := if u.unbuffered then 1 else 4096

def copyPath (path suffix : String) : String :=
  let base := baseName path
  let name := if suffix.toList.contains '*' then base.intercalate (suffix.splitOn "*")
    else base ++ suffix
  if name.toList.contains '/' then name
  else if path.toList.contains '/' then below (dirName path) name
  else name

def storeDraft (m : Machine) : Tool Machine := do
  match m.draft with
  | none => return m
  | some d =>
    let suffix := u.inPlace.getD ""
    unless suffix.isEmpty do
      let result ← Strand.changeDisk fun disk ↦
        disk.rename (Octet.toText d.path) (Octet.toText (copyPath d.path suffix))
      if let .error fault := result then
        giveUp 4 ("cannot rename " ++ d.path ++ ": " ++ fault.describe)
    let _ ← Strand.changeDisk fun disk ↦ do
      let place ← disk.locate (Octet.toText d.path) false
      let disk := disk.erase place
      disk.create place { content := .file d.output, mode := d.mode }
    return { m with draft := none, unended := m.unended.filter (· ≠ .output) }

def closeFile (m : Machine) : Tool Machine := do
  if !m.isOpen then return m
  if m.fileName = "-" then readFrom 0 else closeInput
  let m ← storeDraft u m
  return { m with isOpen := false, restart := u.separate }

def openNext (m : Machine) (name : String) (rest : List String) : Tool Machine := do
  let m := { m with files := rest }
  let refuse (status : Nat) (message : String) : Tool Machine := do
    complainAhead message
    return { m with status := max m.status status }
  if name = "-" && u.inPlace.isNone then
    readFrom 0
    return { m with fileName := "-", isOpen := true }
  else
    match ← openInput name with
    | .error fault => refuse 2 ("can't read " ++ name ++ ": " ++ fault.describe)
    | .ok () =>
      let m := { m with fileName := name, isOpen := true }
      if u.inPlace.isSome then
        match ← node? name with
        | .ok node =>
          if !node.isFile then
            closeInput
            let m ← refuse 4 ("couldn't edit " ++ name ++ ": not a regular file")
            return { m with isOpen := false }
          let folder := dirName name
          if ((← Strand.disk).look (Octet.toText folder)).toOption.any fun (_, node) ↦
              !(node.allows .write && node.allows .execute) then
            giveUp 4 ("couldn't open temporary file " ++ below folder "sedAAAAAA" ++ ": " ++
              SystemFault.notPermitted.describe)
          return { m with draft := some { path := name, mode := node.mode } }
        | .error _ => return m
      else return m

/-- Whether a line follows, in this file or in a later one. -/
def hasMore : Nat → Machine → Tool (Bool × Machine)
  | 0, m => return (false, m)
  | n + 1, m => do
    if m.isOpen then
      if !(← atEnd (readSize u)) then return (true, m)
      if (← get).stream.buffer.isEmpty && u.separate then return (false, m)
      let m ← closeFile u m
      hasMore n m
    else
      match m.files with
      | [] => return (false, m)
      | name :: rest => hasMore n (← openNext u m name rest)

def isLast (m : Machine) : Tool (Bool × Machine) := do
  if m.isOpen then
    if !(← atEnd (readSize u)) then return (false, m)
  if u.separate then return (true, m)
  let (more, m) ← hasMore u (2 * m.files.length + 3) m
  return (!more, m)

def takeLine : Nat → Machine → Tool (Option (ByteArray × Bool) × Machine)
  | 0, m => return (none, m)
  | n + 1, m => do
    if !m.isOpen then
      match m.files with
      | [] => return (none, m)
      | name :: rest => takeLine n (← openNext u m name rest)
    else
      match ← nextLine u.delimiter (readSize u) with
      | .error fault => giveUp 4 ("read error on " ++ m.fileName ++ ": " ++ fault.describe)
      | .ok (some (line, ended)) => return (some (Octet.toBytes line, ended), m)
      | .ok none => takeLine n (← closeFile u m)

def readPattern (m : Machine) (append : Bool) : Tool (Bool × Machine) := do
  let m ← writeQueue u m
  let m := { m with replaced := false }
  let (line, m) ← takeLine u (2 * m.files.length + 3) m
  match line with
  | none => return (false, m)
  | some (bytes, ended) =>
    let m ← if m.restart then do
        let m ← endLine u m .output
        pure { m with
          restart := false, line := 0, phases := initialPhases u.script
          readers := m.readers.map fun _ ↦ none }
      else pure m
    let pattern := if append then m.pattern.push u.delimiter ++ bytes else bytes
    return (true, { m with pattern, ended, line := m.line + 1 })

def search (m : Machine) (p : Pattern) (groups : Bool) (start : Nat := 0) :
    Tool (Option Regex.Match × Machine) := do
  match p.or m.lastPattern with
  | none => giveUp 1 "-e expression #1, char 0: no previous regular expression"
  | some (matcher, multiline) =>
    return (matcher.search { text := m.pattern, multiline } groups start,
      { m with lastPattern := some (matcher, multiline) })

def Address.holds (m : Machine) : Address → Tool (Bool × Machine)
  | .line n => return (m.line = n, m)
  | .step first interval => return (first ≤ m.line && (m.line - first) % interval = 0, m)
  | .last => isLast u m
  | .pattern p => do
    let (found, m) ← search m p false
    return (found.isSome, m)
  | .plus _ | .multiple _ => return (false, m)

def openRange (m : Machine) (i : Nat) (first second : Address) : Bool × Machine :=
  let setPhase (phase : Phase) : Machine := { m with phases := m.phases.setIfInBounds i phase }
  let upTo (finish : Nat) : Bool × Machine :=
    if finish ≤ m.line then (true, setPhase .closed) else (true, setPhase (.active finish))
  match second with
  | .line n =>
    let isStart := match first with
      | .line k => m.line = k || m.line ≤ n
      | _ => true
    if n ≤ m.line then (isStart, setPhase .closed) else (true, setPhase (.active n))
  | .plus n => upTo (m.line + n)
  | .multiple n => if n = 0 then (true, setPhase .closed) else upTo (m.line + n - m.line % n)
  | _ => (true, setPhase (.active 0))

/-- Whether a command is meant for the line at hand. -/
def selects (m : Machine) (i : Nat) (lines : Lines) : Tool (Bool × Machine) := do
  match lines.first, lines.second with
  | none, _ => return (true, m)
  | some a, none => a.holds u m
  | some a, some b =>
    let setPhase (m : Machine) (phase : Phase) : Machine :=
      { m with phases := m.phases.setIfInBounds i phase }
    match m.phases.getD i .idle with
    | .active finish =>
      match b with
      | .line _ | .plus _ | .multiple _ =>
        let m := if finish ≤ m.line then setPhase m .closed else m
        return (m.line ≤ finish, m)
      | _ =>
        let (ends, m) ← b.holds u m
        return (true, if ends then setPhase m .closed else m)
    | phase =>
      let (starts, m) ← match a with
        | .line n => pure (phase ≠ .closed && n ≤ m.line, m)
        | _ => a.holds u m
      if starts then return openRange m i a b else return (false, m)

def recase (mode : Case) (first : Option Case) (octets : List Char) : List Char :=
  let change (c : Case) (x : Char) : Char :=
    match c with
    | .none => x
    | .upper => x.toUpper
    | .lower => x.toLower
  match octets, first with
  | x :: rest, some c => change c x :: rest.map (change mode)
  | _, _ => octets.map (change mode)

def expand (text : ByteArray) (found : Regex.Match) :
    List Piece → Case → Option Case → List (List Char) → ByteArray
  | [], _, _, done => Octet.toBytes (String.ofList done.reverse.flatten)
  | .case c :: rest, _, _, done => expand text found rest c none done
  | .nextCase c :: rest, mode, _, done => expand text found rest mode (some c) done
  | .text octets :: rest, mode, first, done =>
    expand text found rest mode none (recase mode first octets.toList :: done)
  | .group k :: rest, mode, first, done =>
    match (found.groups[k]?).join with
    | some (s, e) =>
      if s = e then expand text found rest mode first done
      else
        expand text found rest mode none
          (recase mode first (Octet.ofBytes (text.extract s e)).toList :: done)
    | none => expand text found rest mode first done

def replaceAll (s : Substitution) (matcher : Regex.Matcher) (c : Regex.Context) :
    Nat → (start count : Nat) → (lastEnd : Option Nat) → ByteArray → Bool → ByteArray × Bool
  | 0, start, _, _, done, any => (done ++ c.text.extract start c.text.size, any)
  | n + 1, start, count, lastEnd, done, any =>
    if c.text.size < start then (done, any)
    else
      match matcher.search c true start with
      | none => (done ++ c.text.extract start c.text.size, any)
      | some found =>
        let before := done ++ c.text.extract start found.start
        let isEmpty := found.start = found.finish
        -- After nothing has been matched one octet is passed over.
        let beyond := c.text.extract found.finish (found.finish + 1)
        if isEmpty && lastEnd = some found.start then
          replaceAll s matcher c n (found.finish + 1) count none (before ++ beyond) any
        else if count + 1 < s.number then
          let same := before ++ c.text.extract found.start found.finish
          if isEmpty then
            replaceAll s matcher c n (found.finish + 1) (count + 1) none (same ++ beyond) any
          else replaceAll s matcher c n found.finish (count + 1) (some found.finish) same any
        else
          let changed := before ++ expand c.text found s.replacement .none none []
          if !s.everywhere then (changed ++ c.text.extract found.finish c.text.size, true)
          else if isEmpty then
            replaceAll s matcher c n (found.finish + 1) (count + 1) none (changed ++ beyond) true
          else replaceAll s matcher c n found.finish (count + 1) (some found.finish) changed true

def unambiguous (c : Char) : String :=
  if c = '\\' then "\\\\" else (spelling? c).getD c.toString

def listing (width : Nat) (octets : List Char) : String :=
  let (text, _) := octets.foldl (fun (text, column) c ↦
    let shown := unambiguous c
    if width ≠ 0 && width - 1 < column + shown.length then (text ++ "\\\n" ++ shown, shown.length)
    else (text ++ shown, column + shown.length)) ("", 0)
  text ++ "$\n"

def firstLine (m : Machine) : ByteArray × Option Nat :=
  match m.pattern.findIdx? (· = u.delimiter) with
  | some i => (m.pattern.extract 0 i, some i)
  | none => (m.pattern, none)

/-- Where to go on after a command. -/
inductive After where
  | next
  | jump (target : Nat)
  | endCycle (shown : Bool)
  | again
  | quit (status : Nat)

variable (load : Loader)

def runSubstitution (m : Machine) (s : Substitution) : Tool (After × Machine) := do
  match s.pattern.or m.lastPattern with
  | none => giveUp 1 "-e expression #1, char 0: no previous regular expression"
  | some (matcher, multiline) =>
    let m := { m with lastPattern := some (matcher, multiline) }
    let c : Regex.Context := { text := m.pattern, multiline }
    if matcher.groups < highestGroup s.replacement then
      giveUp 1 ("-e expression #1, char 0: invalid reference \\" ++
        toString (highestGroup s.replacement) ++ " on \x60s' command's RHS")
    let (pattern, any) := replaceAll s matcher c (2 * c.text.size + 3) 0 0 none .empty false
    if !any then return (.next, m)
    let mut m := { m with pattern, replaced := true }
    if s.evaluated then
      if s.printed && s.printedFirst then m ← writeLine u m .output m.pattern m.ended
      let (bytes, _) ← capture load (Octet.ofBytes m.pattern)
      let trimmed := if bytes.size ≠ 0 && bytes.toList.getLast? = some u.delimiter then
        bytes.extract 0 (bytes.size - 1) else bytes
      m := { m with pattern := trimmed }
      if s.printed && !s.printedFirst then m ← writeLine u m .output m.pattern m.ended
    else if s.printed then m ← writeLine u m .output m.pattern m.ended
    if let some o := s.outlet then m ← writeLine u m o m.pattern m.ended
    return (.next, m)

def nextOf (m : Machine) (number : Nat) : Tool (Option String × Machine) := do
  let lines ← match (m.readers[number]?).join with
    | some lines => pure lines
    | none => do
      let path := u.script.inputs.getD number ""
      match ← aside (contentsOf (if path = "/dev/stdin" then "-" else path)) with
      | .ok bytes =>
        let text := Octet.ofBytes bytes
        let parts := text.splitOn (Char.ofNat u.delimiter.toNat).toString
        pure (parts.dropLast.map (· ++ (Char.ofNat u.delimiter.toNat).toString) ++
          (parts.getLast?.filter (!·.isEmpty)).toList)
      | .error _ => pure []
  match lines with
  | [] => return (none, { m with readers := m.readers.setIfInBounds number (some []) })
  | line :: rest =>
    return (some line, { m with readers := m.readers.setIfInBounds number (some rest) })

def carryOut (m : Machine) (i : Nat) (command : Command) : Tool (After × Machine) := do
  match command with
  | .block finish => return (.jump finish, m)
  | .blockEnd | .label => return (.next, m)
  | .number => return (.next, ← writeText u m (toString m.line ++ "\n"))
  | .append text =>
    return (.next, if text.isEmpty then m else { m with queue := m.queue ++ [.text text] })
  | .insert text =>
    let m ← if text.isEmpty then pure m else writeText u m text
    return (.next, m)
  | .change text =>
    let isInside := match m.phases.getD i .idle with
      | .active _ => (u.script.instructions[i]?).any fun x ↦ x.lines.second.isSome
      | _ => false
    let m ← if isInside || text.isEmpty then pure m else writeText u m text
    return (.endCycle false, m)
  | .delete => return (.endCycle false, m)
  | .deleteFirst =>
    match (firstLine u m).2 with
    | none => return (.endCycle false, m)
    | some k => return (.again, { m with pattern := m.pattern.extract (k + 1) m.pattern.size })
  | .run none =>
    let (bytes, _) ← capture load (Octet.ofBytes m.pattern)
    let trimmed := if bytes.toList.getLast? = some u.delimiter then
      bytes.extract 0 (bytes.size - 1) else bytes
    return (.next, { m with pattern := trimmed })
  | .run (some text) =>
    let (bytes, _) ← capture load text
    let m ← endLine u m .output
    return (.next, ← writeRaw u m .output bytes)
  | .fileName => return (.next, ← writeText u m (m.fileName ++ "\n"))
  | .fetch => return (.next, { m with pattern := m.hold, ended := m.ended })
  | .fetchAppend => return (.next, { m with pattern := m.pattern.push u.delimiter ++ m.hold })
  | .keep => return (.next, { m with hold := m.pattern, holdEnded := m.ended })
  | .keepAppend => return (.next, { m with hold := m.hold.push u.delimiter ++ m.pattern })
  | .exchange =>
    return (.next, { m with
      pattern := m.hold, hold := m.pattern, ended := m.holdEnded, holdEnded := m.ended })
  | .list width =>
    return (.next, ← writeText u m (listing (width.getD u.width) (Octet.ofBytes m.pattern).toList))
  | .fill => giveUp 4 "INTERNAL ERROR: Bad cmd L"
  | .next =>
    let (last, m) ← isLast u m
    if last && m.files.isEmpty then return (.endCycle true, m)
    let m ← if u.silent then pure m else writeLine u m .output m.pattern m.ended
    let (found, m) ← readPattern u m false
    return (if found then .next else .endCycle false, m)
  | .nextAppend =>
    let (last, m) ← isLast u m
    if last && m.files.isEmpty then return (.endCycle true, m)
    let (found, m) ← readPattern u m true
    return (if found then .next else .endCycle true, m)
  | .print => return (.next, ← writeLine u m .output m.pattern m.ended)
  | .printFirst =>
    let (bytes, newline) := firstLine u m
    return (.next, ← writeLine u m .output bytes (newline.isSome || m.ended))
  | .quit status =>
    let m ← if u.silent then pure m else writeLine u m .output m.pattern m.ended
    return (.quit status, ← writeQueue u m)
  | .quitSilently status => return (.quit status, m)
  | .readFile path => return (.next, { m with queue := m.queue ++ [.file path] })
  | .readLine number =>
    let (line, m) ← nextOf u m number
    return (.next, match line with
      | some text => { m with queue := m.queue ++ [.text text] }
      | none => m)
  | .substitute s => runSubstitution u load m s
  | .jump target => return (.jump target, m)
  | .jumpIfReplaced target =>
    return if m.replaced then (.jump target, { m with replaced := false }) else (.next, m)
  | .jumpUnlessReplaced target =>
    return if m.replaced then (.next, { m with replaced := false }) else (.jump target, m)
  | .write o => return (.next, ← writeLine u m o m.pattern m.ended)
  | .writeFirst o =>
    let (bytes, newline) := firstLine u m
    return (.next, ← writeLine u m o bytes (newline.isSome || m.ended))
  | .translate pairs =>
    let change (b : UInt8) : UInt8 :=
      match pairs.lookup (Char.ofNat b.toNat) with
      | some c => c.toNat.toUInt8
      | none => b
    return (.next, { m with pattern := ⟨m.pattern.data.map change⟩ })
  | .clear => return (.next, { m with pattern := .empty })

/-- One cycle: every command that is meant for the line, from the first on. -/
def cycle (m : Machine) : Tool (After × Machine) :=
  iterate (fun ((i, m) : Nat × Machine) ↦ do
    match u.script.instructions[i]? with
    | none => return .inr (.endCycle true, m)
    | some x =>
      let (chosen, m) ← selects u m i x.lines
      if chosen == x.lines.negated then return .inl (i + 1, m)
      let (after, m) ← carryOut u load m i x.command
      match after with
      | .next => return .inl (i + 1, m)
      | .jump target => return .inl (target, m)
      | .again =>
        let m ← writeQueue u m
        return .inl (0, m)
      | other => return .inr (other, m)) (0, m)

def editAll (m : Machine) : Tool Nat :=
  iterate (fun (m : Machine) ↦ do
    let (found, m) ← readPattern u m false
    if !found then return .inr m.status
    let (after, m) ← cycle u load m
    match after with
    | .quit status =>
      if m.isOpen && m.fileName = "-" then Head.giveBack
      let _ ← storeDraft u m
      return .inr status
    | .endCycle shown =>
      let m ← if shown && !u.silent then writeLine u m .output m.pattern m.ended else pure m
      return .inl (← writeQueue u m)
    | _ => return .inl m) m

end

def usage : String :=
  "Usage: sed [OPTION]... \x7bscript-only-if-no-other-script\x7d [input-file]...\n\n"

def table : OptionTable :=
  { short := "bsnrzuEe:f:l:i::V:"
    long := OptionTable.plain
      [("binary", "b"), ("regexp-extended", "E"), ("debug", "debug"), ("quiet", "n"),
        ("silent", "n"),
        ("null-data", "z"), ("zero-terminated", "z"), ("separate", "s"), ("unbuffered", "u"),
        ("posix", "posix"), ("sandbox", "sandbox"), ("follow-symlinks", "follow-symlinks")] ++
      OptionTable.valued
        [("expression", "e"), ("file", "f"), ("line-length", "l")] ++
      [{ name := "in-place", key := "i", need := .maybe }] }

def addPart (p : Parsing) (origin : Origin) (text : String) : Tool Parsing := do
  match part origin text p with
  | .ok p => return p
  | .error fault => giveUp fault.status fault.message

def openOutputs (script : Script) : Tool (Array Nat) := do
  let mut numbers : Array Nat := #[]
  for path in script.outputs do
    match ←
        Strand.openAt (Octet.toText path) { write := true, create := true, truncate := true } with
    | .ok n => numbers := numbers.push n
    | .error fault => giveUp 4 ("couldn't open file " ++ path ++ ": " ++ fault.describe)
  return numbers

def main (load : Loader) (args : List String) : Tool Nat := do
  let (found, operands) ← match table.withHelp.read (args.length + 1) args with
    | .ok result => pure result
    | .error message =>
      complain message
      report usage
      throw 1
  if found.has "--help" then
    say usage
    return 0
  if found.has "--version" then return 0
  let mut p : Parsing :=
    { extended := found.has "E" || found.has "r", sandbox := found.has "sandbox" }
  let mut u : Setup :=
    { silent := found.has "n", separate := found.has "s" || found.has "i"
      inPlace := if found.has "i" then some ((found.value? "i").getD "") else none
      delimiter := if found.has "z" then 0 else 10, unbuffered := found.has "u" }
  let mut count := 0
  let mut operands := operands
  for (key, value) in found do
    let text := value.getD ""
    if key = "e" then
      count := count + 1
      p ← addPart p (.expression count) text
    else if key = "f" then
      match ← contentsOf text with
      | .ok bytes => p ← addPart p (.file text) (Octet.ofBytes bytes)
      | .error fault => giveUp 4 ("couldn't open file " ++ text ++ ": " ++ fault.describe)
    else if key = "l" then
      match text.toNat? with
      | some n => u := { u with width := n }
      | none => giveUp 1 ("invalid line length: " ++ text)
  if !(found.has "e" || found.has "f") then
    match operands with
    | [] =>
      report usage
      throw 1
    | text :: rest =>
      p ← addPart p (.expression 1) text
      operands := rest
  match finish p with
  | .error fault => giveUp fault.status fault.message
  | .ok script =>
    u := { u with script, silent := u.silent || script.silent }
    let descriptors ← openOutputs script
    editAll u load
      { phases := initialPhases script, files := if operands.isEmpty then ["-"] else operands
        readers := Array.replicate script.inputs.length none, descriptors }

end RegisterLang.Tool.Edit
