import RegisterLang.Host.Tool.Options

namespace RegisterLang.Tool

def splitLines (mark : String) (text : String) : List String × Bool :=
  if text.isEmpty then ([], true)
  else
    let lines := text.splitOn mark
    if lines.getLast? = some "" then (lines.dropLast, true) else (lines, false)

namespace Cut

structure Range where
  first : Nat
  last : Option Nat
  deriving DecidableEq, Repr

def Range.contains (r : Range) (n : Nat) : Bool := r.first ≤ n && r.last.all (n ≤ ·)

/-- A list of ranges as far as it is read. -/
structure Reading where
  start : Option Nat := none
  value : Nat := 0
  dash : Bool := false
  left : Bool := false
  right : Bool := false
  digits : List Char := []
  ranges : List Range := []

structure Words where
  zero : String
  range : String
  value : String
  large : String

def fieldWords : Words :=
  { zero := "fields are numbered from 1", range := "invalid field range"
    value := "invalid field value ", large := "field number " }

def byteWords : Words :=
  { zero := "byte/character positions are numbered from 1"
    range := "invalid byte or character range"
    value := "invalid byte/character position ", large := "byte/character offset " }

def Reading.close (w : Words) (r : Reading) : Except String Reading :=
  if r.dash then
    if !r.left && !r.right then .error "invalid range with no endpoint: -"
    else
      let first := r.start.getD 1
      if !r.right then .ok { ranges := r.ranges ++ [⟨first, none⟩] }
      else if r.value < first then .error "invalid decreasing range"
      else .ok { ranges := r.ranges ++ [⟨first, some r.value⟩] }
  else if r.value = 0 then .error w.zero
  else .ok { ranges := r.ranges ++ [⟨r.value, some r.value⟩] }

def readRanges (w : Words) : List Char → Reading → Except String (List Range)
  | [], r => do return (← r.close w).ranges
  | c :: cs, r =>
    if c = '-' then
      if r.dash then .error w.range
      else if r.left && r.value = 0 then .error w.zero
      else readRanges w cs
        { r with
          start := some (if r.left then r.value else 1), value := 0, dash := true, digits := [] }
    else if c = ',' || c = ' ' || c = '\t' then do readRanges w cs (← r.close w)
    else if c.isDigit then
      let value := r.value * 10 + (c.toNat - '0'.toNat)
      if countLimit ≤ value then
        .error (w.large ++ cited (String.ofList (r.digits ++ c :: cs.takeWhile Char.isDigit)) ++
          " is too large")
      else
        readRanges w cs
          { r with value, left := r.left || !r.dash, right := r.right || r.dash
                   digits := r.digits ++ [c] }
    else .error (w.value ++ cited (String.ofList (c :: cs)))

def normalize (ranges : List Range) : List Range :=
  let sorted := ranges.mergeSort fun a b ↦ a.first ≤ b.first
  (sorted.foldl (fun done (r : Range) ↦
    match done with
    | last :: others =>
      if last.last.all (r.first ≤ ·) then
        let finish := match last.last, r.last with
          | some a, some b => some (max a b)
          | _, _ => none
        { last with last := finish } :: others
      else r :: done
    | [] => [r]) []).reverse

/-- What lies between the ranges and after them. -/
def complement (ranges : List Range) : List Range :=
  let rec go (next : Nat) : List Range → List Range
    | [] => [⟨next, none⟩]
    | r :: rest =>
      let gap := if next < r.first then [⟨next, some (r.first - 1)⟩] else []
      match r.last with
      | some last => gap ++ go (last + 1) rest
      | none => gap
  go 1 ranges

structure Request where
  ranges : List Range
  isFields : Bool
  delimiter : String := "\t"
  output : Option String := none
  onlyDelimited : Bool := false
  mark : String := "\n"

def select {α : Type} (ranges : List Range) (items : List α) : List (List α) :=
  ranges.filterMap fun r ↦
    let part := (items.drop (r.first - 1))
    let part := match r.last with
      | some last => part.take (last + 1 - r.first)
      | none => part
    if part.isEmpty then none else some part

def Request.line (q : Request) (line : String) : Option String :=
  if q.isFields then
    let fields := line.splitOn q.delimiter
    match fields with
    | [_] => if q.onlyDelimited then none else some line
    | _ => some ((q.output.getD q.delimiter).intercalate (select q.ranges fields).flatten)
  else
    some ((q.output.getD "").intercalate ((select q.ranges line.toList).map String.ofList))

def table : OptionTable :=
  { short := "b:c:d:f:nsz"
    long := OptionTable.plain
      [("complement", "complement"), ("only-delimited", "s"), ("zero-terminated", "z")] ++
      OptionTable.valued
        [("bytes", "b"), ("characters", "c"), ("fields", "f"), ("delimiter", "d"),
          ("output-delimiter", "output-delimiter")] }

def main (args : List String) : Tool Nat := do
  let (found, operands) ← options table args
  if found.any fun (key, value) ↦ key = "d" && value.any (1 < ·.length) then
    failWithHelp 1 "the delimiter must be a single character"
  let lists := found.filter fun o ↦ ["b", "c", "f"].contains o.1
  match lists with
  | [] => failWithHelp 1 "you must specify a list of bytes, characters, or fields"
  | _ :: _ :: _ => failWithHelp 1 "only one list may be specified"
  | [(kind, list)] =>
    let isFields := kind = "f"
    if !isFields && found.has "d" then
      failWithHelp 1 "an input delimiter may be specified only when operating on fields"
    if !isFields && found.has "s" then
      failWithHelp 1 ("suppressing non-delimited lines makes sense\n" ++
        "\tonly when operating on fields")
    let words := if isFields then fieldWords else byteWords
    match readRanges words (list.getD "").toList {} with
    | .error message => failWithHelp 1 message
    | .ok ranges =>
      let ranges := normalize ranges
      let delimiter := (found.value? "d").getD "\t"
      let q : Request :=
        { ranges := if found.has "complement" then complement ranges else ranges, isFields
          delimiter := if delimiter.isEmpty then "\x00" else delimiter
          output := (found.value? "output-delimiter").map fun d ↦ if d.isEmpty then "\x00" else d
          onlyDelimited := found.has "s"
          mark := if found.has "z" then "\x00" else "\n" }
      let code := (q.mark.toList.headD ' ').toNat.toUInt8
      forInputs operands fun _ ↦ do
        if isFields && q.delimiter = q.mark then
          match ← restOfInput with
          | .error fault => return .error fault
          | .ok bytes =>
            let (fields, _) := splitLines q.mark (Octet.ofBytes bytes)
            let text := (q.output.getD q.delimiter).intercalate (select q.ranges fields).flatten
            unless fields.isEmpty do say (text ++ q.mark)
            return .ok ()
        else
          forLines (fun line _ ↦ do
            if let some text := q.line line then say (text ++ q.mark)) code

end Cut

namespace Paste

def delimiters : List Char → Option (List String)
  | [] => some []
  | '\\' :: rest =>
    match rest with
    | [] => none
    | c :: cs =>
      let text := match c with
        | '0' => ""
        | 'b' => "\x08"
        | 'f' => "\x0c"
        | 'n' => "\n"
        | 'r' => "\r"
        | 't' => "\t"
        | 'v' => "\x0b"
        | c => c.toString
      (delimiters cs).map (text :: ·)
  | c :: cs => (delimiters cs).map (c.toString :: ·)

def between (delimiters : List String) (i : Nat) : String :=
  if i = 0 then "" else delimiters.getD ((i - 1) % max 1 delimiters.length) ""

/-- The files side by side. Those that are standard input share one stream. -/
structure Sources where
  streams : List (String × Option Stream)
  shared : Stream := {}

def lineOf (mark : UInt8) (sources : Sources) (i : Nat) :
    Tool (Option String × Sources × Bool) := do
  match sources.streams[i]? with
  | none | some (_, none) => return (none, sources, false)
  | some (operand, some stream) =>
    let isShared := operand = "-"
    modify ({ · with stream := if isShared then sources.shared else stream })
    let result ← nextLine mark
    let after := (← get).stream
    let sources := if isShared then { sources with shared := after }
      else { sources with streams := sources.streams.set i (operand, some after) }
    match result with
    | .ok (some (line, _)) => return (some line, sources, false)
    | .ok none =>
      unless isShared do closeInput
      let ended := { sources with streams := sources.streams.set i (operand, none) }
      return (none, if isShared then sources else ended, false)
    | .error fault =>
      complain (quotedIfNeeded operand ++ ": " ++ fault.describe)
      return (none, { sources with streams := sources.streams.set i (operand, none) }, true)

/-- One line of each source, from the source `i` on. -/
def row (mark : UInt8) : Nat → Nat → Sources → List (Option String) → Bool →
    Tool (List (Option String) × Sources × Bool)
  | 0, _, sources, done, failed => return (done.reverse, sources, failed)
  | n + 1, i, sources, done, failed => do
    let (line, sources, wrong) ← lineOf mark sources i
    row mark n (i + 1) sources (line :: done) (failed || wrong)

def table : OptionTable :=
  { short := "d:sz"
    long := OptionTable.plain [("serial", "s"), ("zero-terminated", "z")] ++
      OptionTable.valued [("delimiters", "d")] }

def main (args : List String) : Tool Nat := do
  let (found, operands) ← options table args
  let mark := if found.has "z" then "\x00" else "\n"
  let list := (found.value? "d").getD "\t"
  match delimiters (if list.isEmpty then ['\\', '0'] else list.toList) with
  | none => fail 1 ("delimiter list ends with an unescaped backslash: " ++ list)
  | some delimiters =>
    let code := (mark.toList.headD ' ').toNat.toUInt8
    if found.has "s" then
      forInputs operands fun _ ↦ do
        let result ← iterate (fun (i : Nat) ↦ do
          match ← nextLine code with
          | .error fault => return .inr (some fault)
          | .ok none => return .inr none
          | .ok (some (line, _)) =>
            say (between delimiters i ++ line)
            return .inl (i + 1)) 0
        say mark
        return match result with
          | some fault => .error fault
          | none => .ok ()
    else
      let operands := if operands.isEmpty then ["-"] else operands
      let mut streams : List (String × Option Stream) := []
      for operand in operands do
        match ← openInput operand with
        | .ok () => streams := streams ++ [(operand, some (← get).stream)]
        | .error fault => fail 1 (quotedIfNeeded operand ++ ": " ++ fault.describe)
      iterate (fun ((sources, status) : Sources × Nat) ↦ do
        let (texts, sources, failed) ← row code operands.length 0 sources [] false
        let status := if failed then 1 else status
        if texts.all Option.isNone then return .inr status
        let line := texts.zipIdx.map fun (text, i) ↦ between delimiters i ++ text.getD ""
        say (String.join line ++ mark)
        return .inl (sources, status)) ({ streams }, 0)

end Paste

end RegisterLang.Tool
