import RegisterLang.Host.Tool.Launch

namespace RegisterLang.Tool.Batch

structure Request where
  delimiter : Option Char := none
  lastMark : Option String := none
  replaced : Option String := none
  lines : Option Nat := none
  count : Option Nat := none
  size : Nat := 131072
  strict : Bool := false
  evenIfEmpty : Bool := true
  traced : Bool := false
  asks : Bool := false
  input : String := "-"
  slotVariable : Option String := none
  command : List String := ["echo"]

namespace Request

def commandSize (r : Request) : Nat := r.command.foldl (fun n w ↦ n + w.length + 1) 0

def itemLimit (r : Request) : Nat :=
  r.size - (if r.replaced.isSome then 0 else r.commandSize) - 1

end Request

/-- Where the reader stands: between items, in one, in quotes or after a backslash. -/
inductive Mode where
  | space
  | plain
  | quoted (mark : Char)
  | escaped
  deriving DecidableEq, Repr

inductive ReadFault where
  | quote (mark : Char)
  | tooLong
  deriving DecidableEq, Repr

inductive Step where
  | more
  | item (text : String)
  | lastOfLine (text : String)
  | fault (f : ReadFault)

structure Reader where
  mode : Mode := .space
  item : List Char := []
  length : Nat := 0
  started : Bool := false
  previous : Char := '\x00'
  lines : Nat := 0

namespace Reader

def text (r : Reader) : String := String.ofList r.item.reverse

def put (q : Request) (r : Reader) (c : Char) : Reader × Step :=
  if q.itemLimit ≤ r.length then (r, .fault .tooLong)
  else ({ r with item := c :: r.item, length := r.length + 1, previous := c }, .more)

def cleared (r : Reader) (c : Char) : Reader :=
  { mode := .space, lines := r.lines, previous := c }

def isBlank (c : Char) : Bool := c = ' ' || c = '\t'

/-- Takes one character where quotes and backslashes count. -/
def take (q : Request) (r : Reader) (c : Char) : Reader × Step :=
  let inWord (r : Reader) : Reader × Step :=
    let r := { r with mode := .plain }
    if c = '\n' then
      let r := if isBlank r.previous then r else { r with lines := r.lines + 1 }
      if r.item.isEmpty && !r.started then ({ r with mode := .space, previous := c }, .more)
      else (r.cleared c, .lastOfLine r.text)
    else
      let r := { r with started := true }
      if q.replaced.isNone && isBlank c then (r.cleared c, .item r.text)
      else
        match c with
        | '\\' => ({ r with mode := .escaped, previous := c }, .more)
        | '\x27' | '"' => ({ r with mode := .quoted c, previous := c }, .more)
        | _ => r.put q c
  match r.mode with
  | .space =>
    if c = ' ' || ('\t' ≤ c && c ≤ '\r') then ({ r with previous := c }, .more) else inWord r
  | .plain => inWord r
  | .quoted mark =>
    if c = '\n' then (r, .fault (.quote mark))
    else if c = mark then ({ r with mode := .plain, started := true, previous := c }, .more)
    else r.put q c
  | .escaped => { r with mode := .plain }.put q c

/-- Takes one character where only the delimiter counts. -/
def takeRaw (q : Request) (delimiter : Char) (r : Reader) (c : Char) : Reader × Step :=
  if c = delimiter then ({ r.cleared c with lines := r.lines + 1 }, .lastOfLine r.text)
  else r.put q c

def finish (r : Reader) : Step :=
  match r.mode with
  | .quoted mark => if r.item.isEmpty then .more else .fault (.quote mark)
  | _ => if r.item.isEmpty then .more else .item r.text

end Reader

def ReadFault.message : ReadFault → String
  | quote mark =>
    "unmatched " ++ (if mark = '"' then "double" else "single") ++
      " quote; by default quotes are special to xargs unless you use the -0 option"
  | tooLong => "argument line too long"

/-- The items that wait for a run, and how the runs before it ended. -/
structure Progress where
  reader : Reader := {}
  waiting : List String := []
  size : Nat := 0
  runs : Nat := 0
  status : Nat := 0

def askTerminal : Tool Unit := do
  match ← Strand.openAt "/dev/tty" { read := true } with
  | .ok n => Strand.closeAt n
  | .error fault => fail 1 ("failed to open /dev/tty for reading: " ++ fault.describe)

def run (load : Loader) (r : Request) (words : List String) (p : Progress) : Tool Progress := do
  if r.traced || r.asks then
    flush
    report (" ".intercalate (words.map quotedIfNeeded) ++ if r.asks then "" else "\n")
  if r.asks then askTerminal
  let before : Tool Unit := do
    if r.input = "-" then
      Strand.closeAt 0
      let _ ← Strand.openAt "/dev/null" { read := true }
    if let some name := r.slotVariable then
      modify fun s ↦ { s with environment := s.environment.filter (·.1 ≠ name) ++ [(name, "0")] }
  let name := words.headD ""
  let ending ← runBeside load words before fun fault ↦ do
    complain (name ++ ": " ++ fault.describe)
    -- The status tells the two apart also for the one who waits.
    return if fault = .noSuchFile then 127 else 126
  let p := { p with runs := p.runs + 1 }
  match ending with
  | .exited 0 => return p
  | .exited 255 =>
    complain (name ++ ": exited with status 255; aborting")
    throw 124
  | .exited n => if n = 126 || n = 127 then throw n else return { p with status := 123 }
  | .signaled n =>
    complain (name ++ ": terminated by signal " ++ toString n)
    throw 125

def runWaiting (load : Loader) (r : Request) (p : Progress) : Tool Progress := do
  let p ← run load r (r.command ++ p.waiting.reverse) p
  return { p with waiting := [], size := r.commandSize }

def push (load : Loader) (r : Request) (item : String) (p : Progress) : Tool Progress := do
  let size := item.length + 1
  let p ← if r.size < p.size + size then do
      if p.waiting.isEmpty then fail 1 "cannot fit single argument within argument list size limit"
      if r.strict && (r.lines.isSome || r.count.isSome) then fail 1 "argument list too long"
      runWaiting load r p
    else pure p
  let p := { p with waiting := item :: p.waiting, size := p.size + size }
  if r.count.any (· ≤ p.waiting.length) then runWaiting load r p else return p

def accept (load : Loader) (r : Request) (item : String) (p : Progress) : Tool Progress := do
  match r.replaced with
  | some mark =>
    let words := match r.command with
      | [] => []
      | name :: rest => name :: rest.map fun w ↦
        if mark.isEmpty then w else item.intercalate (w.splitOn mark)
    run load r words p
  | none =>
    let p ← push load r item p
    return p

def afterLine (load : Loader) (r : Request) (p : Progress) : Tool Progress := do
  if r.lines.any (· ≤ p.reader.lines) then
    let p ← runWaiting load r p
    return { p with reader := { p.reader with lines := 0 } }
  else return p

def act (load : Loader) (r : Request) (p : Progress) : Step → Tool (Progress × Bool)
  | .more => return (p, true)
  | .fault f => do
    complain f.message
    unless p.waiting.isEmpty || r.replaced.isSome do
      let _ ← runWaiting load r p
    throw 1
  | .item text => do
    if r.delimiter.isNone && r.lastMark = some text then return (p, false)
    return (← accept load r text p, true)
  | .lastOfLine text => do
    if r.delimiter.isNone && r.lastMark = some text then return (p, false)
    return (← afterLine load r (← accept load r text p), true)

def feed (load : Loader) (r : Request) : List Char → Progress → Tool (Progress × Bool)
  | [], p => return (p, true)
  | c :: cs, p => do
    let (reader, step) := match r.delimiter with
      | some d => p.reader.takeRaw r d c
      | none => p.reader.take r c
    let p := { p with reader }
    match step with
    | .more => feed load r cs p
    | step =>
      Strand.pause
      let (p, goesOn) ← act load r p step
      if goesOn then feed load r cs p else return (p, false)

def consume (load : Loader) (r : Request) : Tool Progress := do
  let p ← iterate (fun (p : Progress) ↦ do
    match ← nextBlock 4096 with
    | .error fault => fail 1 ("read error: " ++ fault.describe)
    | .ok block =>
      if block.isEmpty then
        let (p, _) ← act load r p p.reader.finish
        return .inr p
      let (p, goesOn) ← feed load r (Octet.ofBytes block).toList p
      return if goesOn then .inl p else .inr p) { size := r.commandSize }
  if !p.waiting.isEmpty || (r.replaced.isNone && r.evenIfEmpty && p.runs = 0) then
    runWaiting load r p
  else return p

def table : OptionTable :=
  { short := "0a:d:E:e::i::I:l::L:n:prs:txP:oh", ordered := true
    long := OptionTable.plain
      [("null", "0"), ("no-run-if-empty", "r"), ("interactive", "p"), ("verbose", "t"),
        ("show-limits", "show-limits"), ("exit", "x"), ("open-tty", "o")] ++
      OptionTable.valued
        [("arg-file", "a"), ("delimiter", "d"), ("max-args", "n"), ("max-chars", "s"),
          ("max-procs", "P"), ("process-slot-var", "slot")] ++
      [{ name := "eof", key := "e", need := .maybe },
        { name := "replace", key := "i", need := .maybe },
        { name := "max-lines", key := "l", need := .maybe }] }

def numberFor (letter text : String) (least : Int) : Tool Nat := do
  match text.toInt? with
  | none => failWithHelp 1 ("invalid number \"" ++ text ++ "\" for -" ++ letter ++ " option")
  | some n =>
    if n < least then
      failWithHelp 1 ("value " ++ text ++ " for -" ++ letter ++ " option should be >= " ++
        toString least)
    return n.toNat

def exclusive (first second : String) : Tool Unit :=
  complain ("warning: options " ++ first ++ " and " ++ second ++
    " are mutually exclusive, ignoring previous " ++ first ++ " value")

def delimiterOf (text : String) : Tool Char := do
  match text.toList with
  | [c] => return c
  | '\\' :: rest =>
    match rest with
    | ['a'] => return '\x07'
    | ['b'] => return '\x08'
    | ['f'] => return '\x0c'
    | 'n' :: _ => return '\n'
    | ['r'] => return '\r'
    | ['t'] => return '\t'
    | ['v'] => return '\x0b'
    | ['\\'] => return '\\'
    | 'x' :: digits =>
      match Real.readDigits 16 digits with
      | n => return Char.ofNat (n % 256)
    | digits =>
      if digits.all fun c ↦ '0' ≤ c && c ≤ '7' then
        return Char.ofNat (digits.foldl (fun n c ↦ n * 8 + (c.toNat - '0'.toNat)) 0 % 256)
      else
        fail 1 ("Invalid escape sequence " ++ text ++ " in input delimiter specification.")
  | _ =>
    fail 1 ("Invalid input delimiter specification " ++ text ++
      ": the delimiter must be either a " ++
      "single character or an escape sequence starting with \\.")

def apply (r : Request) (key : String) (value : Option String) : Tool Request := do
  let text := value.getD ""
  match key with
  | "0" => return { r with delimiter := some '\x00' }
  | "a" => return { r with input := text }
  | "d" => return { r with delimiter := some (← delimiterOf text) }
  | "E" => return { r with lastMark := if text.isEmpty then none else some text }
  | "e" => return { r with lastMark := value.filter (!·.isEmpty) }
  | "I" | "i" =>
    if r.count.isSome then exclusive "--max-args" "--replace/-I/-i"
    if r.lines.isSome then exclusive "--max-lines" "--replace/-I/-i"
    return { r with replaced := some (value.getD "\x7b\x7d"), count := none, lines := none }
  | "L" | "l" =>
    let name := if key = "L" then "-L" else "--max-lines/-l"
    let n ← match value with
      | some text => numberFor key text 1
      | none => pure 1
    if r.count.isSome then exclusive "--max-args" name
    if r.replaced.isSome then exclusive "--replace" name
    return { r with lines := some n, count := none, replaced := none }
  | "n" =>
    let n ← numberFor "n" text 1
    if r.lines.isSome then exclusive "--max-lines" "--max-args/-n"
    if r.replaced.isSome && n = 1 then return r
    if r.replaced.isSome then exclusive "--replace" "--max-args/-n"
    return { r with count := some n, lines := none, replaced := none }
  | "p" => return { r with asks := true }
  | "r" => return { r with evenIfEmpty := false }
  | "s" =>
    match text.toInt? with
    | none => failWithHelp 1 ("invalid number \"" ++ text ++ "\" for -s option")
    | some n =>
      if n < 1 then
        complain ("value " ++ text ++ " for -s option should be >= 1")
        return { r with size := 1 }
      if 2095061 < n then
        complain ("value " ++ text ++ " for -s option should be <= 2095061")
        return { r with size := 2095061 }
      return { r with size := n.toNat }
  | "t" => return { r with traced := true }
  | "x" => return { r with strict := true }
  | "P" =>
    let _ ← numberFor "P" text 0
    return r
  | "slot" => return { r with slotVariable := some text }
  | _ => return r

/-- Runs a program with arguments that are read. -/
def main (load : Loader) (args : List String) : Tool Nat := do
  let (found, operands) ← options table args
  let mut r : Request := {}
  for (key, value) in found do r ← apply r key value
  unless operands.isEmpty do r := { r with command := operands }
  if r.input ≠ "-" then
    if let .error fault ← openInput r.input then
      fail 1 ("Cannot open input file " ++ cited r.input ++ ": " ++ fault.describe)
  if r.size < r.commandSize then
    fail 1 "cannot fit single argument within argument list size limit"
  return (← consume load r).status

end RegisterLang.Tool.Batch
