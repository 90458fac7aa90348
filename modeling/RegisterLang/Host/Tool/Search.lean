import RegisterLang.Host.Regex.Match
import RegisterLang.Host.Tool.Listing

namespace RegisterLang.Tool.Search

inductive Reading where
  | basic
  | extended
  | fixed
  deriving DecidableEq, Repr

/-- Whether only the names of files are shown, and which. -/
inductive Listed where
  | none
  | matching
  | without
  deriving DecidableEq, Repr

inductive Folders where
  | read
  | recurse
  | skip
  deriving DecidableEq, Repr

/-- What becomes of files that are no text. -/
inductive Binary where
  | mention
  | asText
  | skip
  deriving DecidableEq, Repr

structure Request where
  matchers : List Regex.Matcher := []
  invert : Bool := false
  words : Bool := false
  whole : Bool := false
  count : Bool := false
  listed : Listed := .none
  quiet : Bool := false
  unseen : Bool := false
  silent : Bool := false
  onlyMatching : Bool := false
  numbered : Bool := false
  offsets : Bool := false
  named : Bool := false
  label : String := "(standard input)"
  before : Option Nat := none
  after : Option Nat := none
  separator : Option String := some "--"
  most : Option Nat := none
  binary : Binary := .mention
  delimiter : UInt8 := 10
  nulAfterName : Bool := false
  aligned : Bool := false
  colored : Bool := false
  folders : Folders := .read
  skipDevices : Bool := false
  follow : Bool := false
  included : List String := []
  excluded : List String := []
  excludedFolders : List String := []

namespace Request

def stopsEarly (r : Request) : Bool := r.quiet || r.unseen || r.listed ≠ .none

def hidesLines (r : Request) : Bool := r.count || r.stopsEarly

def context (r : Request) (line : String) : Regex.Context :=
  { text := Octet.toBytes line, words := r.words, whole := r.whole }

/-- The first match from a position on, leftmost and longest of all patterns. -/
def find (r : Request) (c : Regex.Context) (start : Nat) : Option (Nat × Nat) :=
  r.matchers.foldl (fun best m ↦
    match m.search c false start, best with
    | none, _ => best
    | some found, none => some (found.start, found.finish)
    | some found, some (s, e) =>
      if found.start < s || (found.start = s && e < found.finish) then
        some (found.start, found.finish)
      else best) none

def selects (r : Request) (line : String) : Bool :=
  (r.find (r.context line) 0).isSome != r.invert

end Request

def paint (r : Request) (color text : String) : String :=
  if r.colored then "\x1b[" ++ color ++ "m\x1b[K" ++ text ++ "\x1b[m\x1b[K" else text

structure Line where
  number : Nat
  offset : Nat
  text : String

def nameHead (r : Request) (name : String) (mark : String) : String :=
  paint r "35" name ++ if r.nulAfterName then "\x00" else paint r "36" mark

def lineHead (r : Request) (name : String) (number offset : Nat) (mark : String) (isEmpty : Bool) :
    String :=
  let spaced (n : Nat) : String := if r.aligned then Text.padLeft 2 ' ' (toString n) else toString n
  let part (wanted : Bool) (n : Nat) : String :=
    if wanted then paint r "32" (spaced n) ++ paint r "36" mark else ""
  (if r.named then nameHead r name mark else "") ++ part r.numbered number ++
    part r.offsets offset ++
    if r.aligned && (r.named || r.numbered || r.offsets) && !isEmpty then "\t" else ""

def matchesIn (r : Request) (c : Regex.Context) : Nat → Nat → List (Nat × Nat)
  | 0, _ => []
  | n + 1, i =>
    if c.text.size ≤ i then []
    else
      match r.find c i with
      | none => []
      | some (s, e) =>
        if c.text.size ≤ s then []
        else if s = e then matchesIn r c n (s + 1)
        else (s, e) :: matchesIn r c n e

def stop (r : Request) : String := (Char.ofNat r.delimiter.toNat).toString

def shown (r : Request) (name : String) (line : Line) (selected : Bool) : String :=
  let mark := if selected then ":" else "-"
  let isMatch := selected != r.invert
  let c := r.context line.text
  let slice (s e : Nat) : String := Octet.ofBytes (c.text.extract s e)
  if r.onlyMatching then
    if !isMatch then ""
    else
      let mark := if r.invert then "-" else ":"
      String.join ((matchesIn r c (c.text.size + 1) 0).map fun (s, e) ↦
        lineHead r name line.number (line.offset + s) mark false ++
          paint r "01;31" (slice s e) ++ stop r)
  else
    let text := if r.colored && isMatch then
        let (text, i) := (matchesIn r c (c.text.size + 1) 0).foldl (fun (text, i) (s, e) ↦
          (text ++ slice i s ++ paint r "01;31" (slice s e), e)) ("", 0)
        text ++ slice i c.text.size
      else line.text
    lineHead r name line.number line.offset mark line.text.isEmpty ++ text ++ stop r

/-- Where the search of a file stands, with the lines held back as context. -/
structure Progress where
  number : Nat := 0
  offset : Nat := 0
  selected : Nat := 0
  lastEnd : Nat := 0
  held : List Line := []
  pending : Nat := 0
  lastShown : Option Nat := none
  used : Bool := false
  binaryFrom : Option Nat := none
  skipped : Bool := false

def readSize : Nat := 98304

def isFull (r : Request) (p : Progress) : Bool := r.most.any (· ≤ p.selected)

def passOver (r : Request) (name : String) (p : Progress) (line : Line) : Tool Progress := do
  if p.pending ≠ 0 then
    say (shown r name line false)
    return { p with pending := p.pending - 1, lastShown := some line.number }
  else
    return { p with held := (line :: p.held).take (r.before.getD 0) }

def select (r : Request) (name : String) (p : Progress) (line : Line) (finish : Nat) :
    Tool Progress := do
  let p := { p with selected := p.selected + 1, lastEnd := finish }
  if r.hidesLines || p.binaryFrom.isSome then return p
  let first := (p.held.getLast?.map Line.number).getD line.number
  let isApart := p.lastShown.all (· + 1 < first)
  if (r.before.isSome || r.after.isSome) && p.used && isApart then
    if let some text := r.separator then sayLine (paint r "36" text)
  for line in p.held.reverse do say (shown r name line false)
  say (shown r name line true)
  return { p with
    held := [], pending := r.after.getD 0, lastShown := some line.number, used := true }

/-- One line: it is selected, shown as context, or passed over. -/
def step (r : Request) (name : String) (p : Progress) :
    Tool (Progress ⊕ Except SystemFault (Progress × Bool)) := do
  let stream := (← get).stream
  let isEnd (b : UInt8) : Bool := b = r.delimiter || (p.binaryFrom.isSome && b = 0)
  let take (finish next : Nat) (ended : Bool) :
      Tool (Progress ⊕ Except SystemFault (Progress × Bool)) := do
    let text := Octet.ofBytes (stream.buffer.extract stream.position finish)
    modify fun s ↦ { s with stream := { s.stream with position := next } }
    let line : Line := { number := p.number + 1, offset := p.offset, text }
    let q := { p with number := p.number + 1, offset := p.offset + (next - stream.position) }
    let wanted := r.selects text
    if isFull r q then
      -- Only lines after the last match are still shown.
      if wanted || q.pending = 0 then return .inr (.ok (q, false))
      let q ← passOver r name q line
      return .inl q
    else if wanted then
      let q ← select r name q line q.offset
      if (r.stopsEarly || (q.binaryFrom.isSome && !r.count)) || (isFull r q && q.pending = 0) then
        return .inr (.ok (q, !ended))
      return .inl q
    else if r.hidesLines || q.binaryFrom.isSome then return .inl q
    else return .inl (← passOver r name q line)
  match stream.buffer.findIdx? isEnd stream.position with
  | some i => take i (i + 1) true
  | none =>
    if stream.ended then
      let rest := stream.buffer.size
      if stream.position < rest then take rest rest false
      else return .inr (.ok (p, true))
    else
      match ← refill readSize with
      | .error fault => return .inr (.error fault)
      | .ok _ =>
        let buffer := (← get).stream.buffer
        if p.binaryFrom.isNone && r.binary ≠ .asText && r.delimiter ≠ 0 &&
            (buffer.findIdx? (· = 0)).isSome then
          if r.binary = .skip then
            return .inr (.ok ({ p with selected := 0, skipped := true }, true))
          return .inl { p with binaryFrom := some p.selected }
        return .inl p

def settle (r : Request) (p : Progress) (atEnd : Bool) (start : Nat) : Tool Unit := do
  let stream := (← get).stream
  if stream.descriptor = 0 && r.listed = .none && !r.quiet then
    if isFull r p then
      let _ ← Strand.call fun id s ↦ s.seek id 0 fun _ _ ↦ (start + p.lastEnd : Nat)
    else if !atEnd then
      let isPipe ← Strand.ask fun id s ↦
        match (s.fileAt? id 0).map fun (_, file) ↦ file.channel with
        | some (.pipe _) => true
        | _ => false
      if isPipe then
        let _ ← restOfInput
      else
        let _ ← Strand.call fun id s ↦ s.seek id 0 fun _ size ↦ (size : Int)

structure Outcome where
  anySelected : Bool := false
  anyFault : Bool := false
  used : Bool := false

def protest (r : Request) (o : Outcome) (message : String) : Tool Outcome := do
  unless r.silent do complain message
  return { o with anyFault := true }

def readsOutput (descriptor : Nat) : Tool Bool :=
  Strand.ask fun id s ↦
    match s.fileAt? id descriptor, s.fileAt? id 1 with
    | some (_, input), some (_, output) =>
      match input.channel, output.channel with
      | .node a, .node b => a = b && ((s.disk.node? a).map Node.isFile).getD false
      | _, _ => false
    | _, _ => false

def searchStream (r : Request) (o : Outcome) (name : String) : Tool Outcome := do
  let descriptor := (← get).stream.descriptor
  if !r.hidesLines && r.most.all (1 < ·) then
    if ← readsOutput descriptor then
      return ← protest r o (name ++ ": input file is also the output")
  let start ← Strand.ask fun id s ↦ ((s.fileAt? id descriptor).map fun (_, f) ↦ f.offset).getD 0
  match ← iterate (step r name) { used := o.used } with
  | .error fault => protest r o (name ++ ": " ++ fault.describe)
  | .ok (p, atEnd) =>
    if !r.hidesLines && p.binaryFrom.any (· < p.selected) then
      complain (name ++ ": binary file matches")
    if r.count && r.listed = .none && !r.quiet then
      sayLine ((if r.named then nameHead r name ":" else "") ++ toString p.selected)
    settle r p atEnd start
    let isListed := match r.listed with
      | .none => false
      | .matching => p.selected ≠ 0
      | .without => p.selected = 0
    if isListed && !r.quiet then
      say (paint r "35" name ++ if r.nulAfterName then "\x00" else "\n")
    let o := { o with anySelected := o.anySelected || p.selected ≠ 0, used := p.used }
    if r.quiet && p.selected ≠ 0 then throw 0
    return o

def leavesOut (r : Request) (name : String) (given : Bool) : Bool :=
  let fits (pattern : String) : Bool :=
    fitsPattern pattern name || (!given && fitsPattern pattern (baseName name))
  (!r.included.isEmpty && !r.included.any fits) || r.excluded.any fits

def leavesFolderOut (r : Request) (name : String) (given : Bool) : Bool :=
  let trimmed := String.ofList (name.toList.reverse.dropWhile (· = '/')).reverse
  let last := if given then trimmed else baseName name
  r.excludedFolders.any fun pattern ↦ fitsPattern pattern last

/-- Searches a file, or the files of a tree. -/
def searchPath (r : Request) :
    Nat → Outcome → (path name : String) → (given : Bool) → List Place → Tool Outcome
  | 0, o, _, _, _, _ => return o
  | n + 1, o, path, name, given, above => do
    match ← node? path (given || r.follow || r.folders ≠ .recurse) with
    | .error fault => protest r o (name ++ ": " ++ fault.describe)
    | .ok node =>
      if node.isDirectory && r.folders = .skip then return o
      if node.isDirectory && r.folders = .recurse then
        if leavesFolderOut r name given then return o
        match (← Strand.disk).list (Octet.toText path) with
        | .error fault => protest r o (name ++ ": " ++ fault.describe)
        | .ok (place, names) =>
          if above.contains place then
            return ← protest r o (name ++ ": warning: recursive directory loop")
          let mut o := o
          for child in names do
            let child := Octet.ofText child
            let shownName := if name.isEmpty then child else below name child
            o ← searchPath r n o (below path child) shownName false (place :: above)
          return o
      else
        let isDevice := !node.isFile && !node.isDirectory
        if (!given && (node.isLink || isDevice)) || (r.skipDevices && isDevice) then return o
        if leavesOut r name given then return o
        match ← openInput path with
        | .error fault => protest r o (name ++ ": " ++ fault.describe)
        | .ok () =>
          let o ← searchStream r o name
          closeInput
          return o

def table : OptionTable :=
  { short := "0123456789A:B:C:D:EFGHILPTUVX:abcd:e:f:hiLlm:noqRrsuvwxyZz", failure := 2
    long := OptionTable.plain
      [("extended-regexp", "E"), ("fixed-strings", "F"), ("fixed-regexp", "F"),
        ("basic-regexp", "G"),
        ("perl-regexp", "P"), ("ignore-case", "i"), ("no-ignore-case", "no-ignore-case"),
        ("word-regexp", "w"), ("line-regexp", "x"), ("null-data", "z"), ("no-messages", "s"),
        ("invert-match", "v"), ("byte-offset", "b"), ("line-number", "n"),
        ("line-buffered", "line-buffered"), ("with-filename", "H"), ("no-filename", "h"),
        ("only-matching", "o"), ("quiet", "q"), ("silent", "q"), ("text", "a"), ("recursive", "r"),
        ("dereference-recursive", "R"), ("files-without-match", "L"), ("files-with-matches", "l"),
        ("count", "c"), ("initial-tab", "T"), ("null", "Z"), ("no-group-separator", "no-separator"),
        ("binary", "U"), ("unix-byte-offsets", "u")] ++
      OptionTable.valued
        [("regexp", "e"), ("file", "f"), ("max-count", "m"), ("label", "label"),
          ("binary-files", "binary-files"), ("directories", "d"), ("devices", "D"),
          ("include", "include"), ("exclude", "exclude"), ("exclude-from", "exclude-from"),
          ("exclude-dir", "exclude-dir"), ("after-context", "A"), ("before-context", "B"),
          ("context", "C"), ("group-separator", "separator")] ++
      [{ name := "color", key := "color", need := .maybe },
        { name := "colour", key := "color", need := .maybe }] }

def giveUp {α : Type} (status : Nat) (message : String) : Tool α := do
  let name := (← get).name
  unless message.isEmpty do complain message
  report ("Usage: " ++ name ++ " [OPTION]... PATTERNS [FILE]...\nTry '" ++ name ++
    " --help' for more information.\n")
  throw status

/-- What the options ask for, before the patterns are read. -/
structure Wish where
  request : Request := {}
  reading : Option Reading := none
  fold : Bool := false
  patterns : Option (List String) := none
  named : Option Bool := none
  context : Option Nat := none
  before : Option Nat := none
  after : Option Nat := none
  digits : String := ""

def linesOf (text : String) : List String := text.splitOn "\n"

def contextLength (text : String) : Tool Nat := do
  match text.toNat? with
  | some n => return n
  | none => fail 2 (text ++ ": invalid context length argument")

def choose (w : Wish) (reading : Reading) : Tool Wish := do
  if w.reading.any (· ≠ reading) then fail 2 "conflicting matchers specified"
  return { w with reading := some reading }

def apply (w : Wish) (key : String) (value : Option String) : Tool Wish := do
  let text := value.getD ""
  let r := w.request
  let keep (r : Request) : Tool Wish := return { w with request := r }
  match key with
  | "A" => return { w with after := some (← contextLength text) }
  | "B" => return { w with before := some (← contextLength text) }
  | "C" => return { w with context := some (← contextLength text) }
  | "D" =>
    if text = "read" then keep { r with skipDevices := false }
    else if text = "skip" then keep { r with skipDevices := true }
    else fail 2 "unknown devices method"
  | "E" => choose w .extended
  | "F" => choose w .fixed
  | "G" => choose w .basic
  | "P" => choose w .extended
  | "H" => return { w with named := some true }
  | "I" => keep { r with binary := .skip }
  | "L" => keep { r with listed := .without }
  | "T" => keep { r with aligned := true }
  | "Z" => keep { r with nulAfterName := true }
  | "a" => keep { r with binary := .asText }
  | "b" => keep { r with offsets := true }
  | "c" => keep { r with count := true }
  | "d" =>
    match ["read", "recurse", "skip"].filter (·.startsWith text) with
    | ["read"] => keep { r with folders := .read }
    | ["recurse"] => keep { r with folders := .recurse }
    | ["skip"] => keep { r with folders := .skip }
    | _ =>
      complain ("invalid argument '" ++ text ++ "' for '--directories'")
      report "Valid arguments are:\n  - 'read'\n  - 'recurse'\n  - 'skip'\n"
      giveUp 1 ""
  | "e" => return { w with patterns := some (w.patterns.getD [] ++ linesOf text) }
  | "f" =>
    match ← contentsOf text with
    | .error fault => fail 2 (text ++ ": " ++ fault.describe)
    | .ok bytes =>
      let content := Octet.ofBytes bytes
      let lines := if content.isEmpty then []
        else if content.endsWith "\n" then (linesOf content).dropLast
        else linesOf content
      return { w with patterns := some (w.patterns.getD [] ++ lines) }
  | "h" => return { w with named := some false }
  | "i" | "y" => return { w with fold := true }
  | "no-ignore-case" => return { w with fold := false }
  | "l" => keep { r with listed := .matching }
  | "m" =>
    match text.toInt? with
    | some n => keep { r with most := if n < 0 then none else some n.toNat }
    | none => fail 2 "invalid max count"
  | "n" => keep { r with numbered := true }
  | "o" => keep { r with onlyMatching := true }
  | "q" => keep { r with quiet := true }
  | "R" => keep { r with folders := .recurse, follow := true }
  | "r" => keep { r with folders := .recurse }
  | "s" => keep { r with silent := true }
  | "u" =>
    complain "warning: --unix-byte-offsets (-u) is obsolete"
    return w
  | "v" => keep { r with invert := true }
  | "w" => keep { r with words := true }
  | "x" => keep { r with whole := true }
  | "z" => keep { r with delimiter := 0 }
  | "binary-files" =>
    match text with
    | "binary" => keep { r with binary := .mention }
    | "text" => keep { r with binary := .asText }
    | "without-match" => keep { r with binary := .skip }
    | _ => fail 2 "unknown binary-files type"
  | "color" =>
    match text with
    | "always" | "yes" | "force" => keep { r with colored := true }
    | "" | "auto" | "tty" | "if-tty" | "never" | "no" | "none" => keep { r with colored := false }
    | _ => throw 0
  | "label" => keep { r with label := text }
  | "include" => keep { r with included := r.included ++ [text] }
  | "exclude" => keep { r with excluded := r.excluded ++ [text] }
  | "exclude-from" =>
    match ← contentsOf text with
    | .error fault => fail 2 (text ++ ": " ++ fault.describe)
    | .ok bytes =>
      keep { r with excluded := r.excluded ++ (linesOf (Octet.ofBytes bytes)).filter (!·.isEmpty) }
  | "exclude-dir" => keep { r with excludedFolders := r.excludedFolders ++ [text] }
  | "separator" => keep { r with separator := some text }
  | "no-separator" => keep { r with separator := none }
  | _ =>
    if key.toList.all Char.isDigit then return { w with digits := w.digits ++ key } else return w

def literal (text : String) : Regex :=
  text.toList.foldl (fun r c ↦
    match r with
    | .empty => .set (.single c)
    | _ => .seq r (.set (.single c))) .empty

def flavor : Reading → Regex.Flavor
  | .extended =>
    { extended := true, leading := .skip, strictIntervals := false, strictClose := false
      lastBracket := .unreadable, checksClasses := true, repeatsAnchors := true }
  | _ => { lastBracket := .unreadable, checksClasses := true, repeatsAnchors := true }

def prepareAll (reading : Reading) (fold : Bool) (patterns : List String) :
    Tool (List Regex.Matcher) := do
  let mut joined : Option Regex := none
  let mut apart : List Regex.Matcher := []
  for pattern in patterns do
    if reading = .fixed then
      let r := literal pattern
      joined := some ((joined.map (Regex.either · r)).getD r)
    else
      match Regex.parse (flavor reading) pattern with
      | .error fault => fail 2 fault.message
      | .ok (r, g) =>
        for sign in g.skipped do complain ("warning: " ++ sign ++ " at start of expression")
        if r.hasBack then apart := apart ++ [Regex.compile r g.count fold]
        else joined := some ((joined.map (Regex.either · r)).getD r)
  return (joined.map fun r ↦ Regex.compile r 0 fold).toList ++ apart

def outputIsLost : Tool Bool := do
  match (← nodeAt? 1).map Node.content with
  | some (.device .void) => return true
  | _ => return false

def main (args : List String) : Tool Nat := do
  let (found, operands) ← match table.withHelp.read (args.length + 1) args with
    | .ok result => pure result
    | .error message => giveUp 2 message
  if found.has "--help" || found.has "--version" || found.has "V" then return 0
  let mut w : Wish := {}
  for (key, value) in found do w ← apply w key value
  let mut operands := operands
  if w.patterns.isNone then
    match operands with
    | [] => giveUp 2 ""
    | pattern :: rest =>
      w := { w with patterns := some (linesOf pattern) }
      operands := rest
  let mut r := w.request
  let mut patterns := w.patterns.getD []
  if patterns.isEmpty then
    r := { r with invert := !r.invert, words := false, whole := false }
    patterns := [""]
  let context := if w.digits.isEmpty then w.context else w.digits.toNat?
  r := { r with
    before := w.before.or context, after := w.after.or context, unseen := ← outputIsLost
    matchers := ← prepareAll (w.reading.getD .basic) w.fold patterns
    count := r.count && r.listed = .none }
  if (r.most = some 0 || (patterns = [""] && r.invert && !r.whole && !r.words)) &&
      r.listed ≠ .without then
    return 1
  let inFolder ← match operands with
    | [] => pure true
    | operand :: _ => isDirectory operand
  let several := (r.folders = .recurse && inFolder) || 1 < operands.length
  r := { r with named := w.named.getD several }
  let mut o : Outcome := {}
  if operands.isEmpty then
    if r.folders = .recurse then o ← searchPath r 200 o "." "" false []
    else
      readFrom 0
      o ← searchStream r o r.label
  else
    for operand in operands do
      if operand = "-" then
        readFrom 0
        o ← searchStream r o r.label
      else o ← searchPath r 200 o operand operand true []
  return if o.anyFault then 2 else if o.anySelected then 0 else 1

def mainWith (option : String) (args : List String) : Tool Nat := do
  modify ({ · with name := "grep" })
  main (option :: args)

end RegisterLang.Tool.Search
