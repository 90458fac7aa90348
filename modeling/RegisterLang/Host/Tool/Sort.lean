import RegisterLang.Host.Tool.Listing

namespace RegisterLang.Tool.Sort

/-- What counts when keys are compared. -/
structure Order where
  blanksAtStart : Bool := false
  blanksAtEnd : Bool := false
  dictionary : Bool := false
  printable : Bool := false
  fold : Bool := false
  numeric : Bool := false
  general : Bool := false
  human : Bool := false
  month : Bool := false
  version : Bool := false
  random : Bool := false
  reverse : Bool := false
  deriving DecidableEq, Repr

namespace Order

def add (o : Order) (start finish : Bool) : Char → Option Order
  | 'b' =>
    some { o with blanksAtStart := o.blanksAtStart || start,
                  blanksAtEnd := o.blanksAtEnd || finish }
  | 'd' => some { o with dictionary := true }
  | 'f' => some { o with fold := true }
  | 'g' => some { o with general := true }
  | 'h' => some { o with human := true }
  | 'i' => some { o with printable := true }
  | 'M' => some { o with month := true }
  | 'n' => some { o with numeric := true }
  | 'R' => some { o with random := true }
  | 'r' => some { o with reverse := true }
  | 'V' => some { o with version := true }
  | _ => none

def letters (o : Order) : String :=
  String.ofList (([(o.dictionary, 'd'), (o.fold, 'f'), (o.general, 'g'), (o.human, 'h'),
    (o.printable, 'i'), (o.month, 'M'), (o.numeric, 'n'), (o.random, 'R'), (o.version, 'V')] :
    List (Bool × Char)).filterMap fun (on, c) ↦ if on then some c else none)

def isContradictory (o : Order) : Bool :=
  let count := [o.numeric, o.general, o.human, o.month,
    o.version || o.random || o.dictionary || o.printable].countP id
  1 < count

end Order

/-- The part of a line that is compared, from a field to a field. -/
structure Key where
  field : Nat := 0
  char : Nat := 0
  endField : Option Nat := none
  endChar : Nat := 0
  ordering : Order := {}

def isBlank (c : Char) : Bool := c = ' ' || c = '\t' || c = '\n'

namespace Key

def skipFields (tab : Option Char) : Nat → List Char → List Char
  | 0, cs => cs
  | _ + 1, [] => []
  | n + 1, cs =>
    match tab with
    | some t => skipFields tab n ((cs.dropWhile (· ≠ t)).drop 1)
    | none => skipFields tab n ((cs.dropWhile isBlank).dropWhile (!isBlank ·))

def skipToEnd (tab : Option Char) (stopsBefore : Bool) : Nat → List Char → List Char
  | 0, cs => cs
  | _ + 1, [] => []
  | n + 1, cs =>
    match tab with
    | some t =>
      let rest := cs.dropWhile (· ≠ t)
      if n = 0 && stopsBefore then rest else skipToEnd tab stopsBefore n (rest.drop 1)
    | none => skipToEnd tab stopsBefore n ((cs.dropWhile isBlank).dropWhile (!isBlank ·))

def extract (k : Key) (tab : Option Char) (line : List Char) : List Char :=
  let start := skipFields tab k.field line
  let start := if k.ordering.blanksAtStart then start.dropWhile isBlank else start
  let start := start.drop k.char
  match k.endField with
  | none => start
  | some n =>
    let stop := if k.endChar = 0 then skipToEnd tab true (n + 1) line
      else
        let at_ := skipToEnd tab false n line
        let at_ := if k.ordering.blanksAtEnd then at_.dropWhile isBlank else at_
        at_.drop k.endChar
    start.take (start.length - stop.length)

end Key

/-- A key, made ready to be compared. -/
inductive Weight where
  | text (octets : List Char)
  | number (value : Real.Value)
  | ranked (rank : Int) (value : Real.Value)
  | version (name : String)

def decimal (cs : List Char) : Bool × List Char × List Char × List Char :=
  let cs := cs.dropWhile isBlank
  let (negative, cs) := match cs with
    | '-' :: rest => (true, rest)
    | _ => (false, cs)
  let whole := cs.takeWhile Char.isDigit
  let rest := cs.drop whole.length
  match rest with
  | '.' :: more =>
    let fraction := more.takeWhile Char.isDigit
    (negative, whole, fraction, more.drop fraction.length)
  | _ => (negative, whole, [], rest)

def decimalValue (cs : List Char) : Real.Value :=
  let (negative, whole, fraction, _) := decimal cs
  .finite negative (Real.readDigits 10 (whole ++ fraction)) (Real.bigPower 10 fraction.length)

def unitOf (c : Char) : Int :=
  let i := "KMGTPEZYRQ".toList.findIdx (· = if c = 'k' then 'K' else c)
  if i < 10 then i + 1 else 0

/-- What of a key counts in an order. -/
def weigh (o : Order) (key : List Char) : Weight :=
  let kept := if o.dictionary then key.filter fun c ↦ isBlank c || c.isAlphanum
    else if o.printable then key.filter fun c ↦ ' ' ≤ c && c ≤ '~'
    else key
  let folded := if o.fold then kept.map Char.toUpper else kept
  if o.numeric then .number (decimalValue folded)
  else if o.general then
    match Real.read? folded with
    | none => .ranked 0 .zero
    | some (.undefined _, _) => .ranked 1 .zero
    | some (value, _) => .ranked 2 value
  else if o.human then
    let (negative, whole, fraction, rest) := decimal folded
    let unit := if (whole ++ fraction).all (· = '0') then 0 else unitOf (rest.headD ' ')
    .ranked (if negative then -unit else unit) (decimalValue folded)
  else if o.month then
    let word := ((folded.dropWhile isBlank).take 3).map Char.toUpper
    let i := Calendar.monthNames.findIdx fun name ↦ (name.toList.take 3).map Char.toUpper = word
    .number (.ofInt (if i < 12 then i + 1 else 0))
  else if o.version then .version (String.ofList folded)
  else .text folded

def Weight.compare : Weight → Weight → Ordering
  | .text a, .text b => if a < b then .lt else if b < a then .gt else .eq
  | .number a, .number b => if a.less b then .lt else if b.less a then .gt else .eq
  | .ranked r a, .ranked s b =>
    if r < s then .lt else if s < r then .gt
    else if a.less b then .lt else if b.less a then .gt else .eq
  | .version a, .version b =>
    if versionBefore a b then .lt else if versionBefore b a then .gt else .eq
  | _, _ => .eq

structure Entry where
  line : String
  weights : List Weight

structure Request where
  keys : List Key := []
  ordering : Order := {}
  tab : Option Char := none
  stable : Bool := false
  unique : Bool := false
  merge : Bool := false
  zeroEnded : Bool := false
  output : Option String := none
  checks : Option Bool := none

namespace Request

def effectiveKeys (r : Request) : List Key :=
  if r.keys.isEmpty then
    if r.ordering = { reverse := r.ordering.reverse } then [] else [{ ordering := r.ordering }]
  else
    r.keys.map fun k ↦ if k.ordering = {} then { k with ordering := r.ordering } else k

def entry (r : Request) (keys : List Key) (line : String) : Entry :=
  { line, weights := keys.map fun k ↦ weigh k.ordering (k.extract r.tab line.toList) }

def compareKeys : List Key → List Weight → List Weight → Ordering
  | k :: keys, a :: as, b :: bs =>
    match a.compare b with
    | .eq => compareKeys keys as bs
    | other => if k.ordering.reverse then other.swap else other
  | _, _, _ => .eq

/-- Compares by keys, then by whole lines if that is to break ties. -/
def compare (r : Request) (keys : List Key) (a b : Entry) : Ordering :=
  let byKeys := compareKeys keys a.weights b.weights
  if byKeys ≠ .eq then byKeys
  else if !keys.isEmpty && (r.stable || r.unique) then .eq
  else
    let order := if a.line < b.line then Ordering.lt else if b.line < a.line then .gt else .eq
    if r.ordering.reverse then order.swap else order

end Request

def fieldNumber (complaint : String) (cs : List Char) : Tool (Nat × List Char) := do
  let digits := cs.takeWhile Char.isDigit
  if digits.isEmpty then
    fail 2 (complaint ++ ": invalid count at start of " ++ cited (String.ofList cs))
  return (Real.readDigits 10 digits, cs.drop digits.length)

def badField {α : Type} (spec reason : String) : Tool α :=
  fail 2 (reason ++ ": invalid field specification " ++ cited spec)

def readLetters (start : Bool) (o : Order) : List Char → Order × List Char
  | [] => (o, [])
  | c :: cs =>
    match o.add start (!start) c with
    | some o => readLetters start o cs
    | none => (o, c :: cs)

def readKey (spec : String) : Tool Key := do
  let (field, rest) ← fieldNumber "invalid number at field start" spec.toList
  if field = 0 then badField spec "field number is zero"
  let (char, rest) ← match rest with
    | '.' :: more => do
      let (n, more) ← fieldNumber "invalid number after '.'" more
      if n = 0 then badField spec "character offset is zero"
      pure (n - 1, more)
    | _ => pure (0, rest)
  let (o, rest) := readLetters true {} rest
  let key : Key := { field := field - 1, char, ordering := o }
  match rest with
  | ',' :: rest =>
    let (finish, rest) ← fieldNumber "invalid number after ','" rest
    if finish = 0 then badField spec "field number is zero"
    let (endChar, rest) ← match rest with
      | '.' :: more => fieldNumber "invalid number after '.'" more
      | _ => pure (0, rest)
    let (o, rest) := readLetters false o rest
    unless rest.isEmpty do badField spec "stray character in field spec"
    return { key with endField := some (finish - 1), endChar, ordering := o }
  | [] => return key
  | _ => badField spec "stray character in field spec"

def readTab (text : String) : Tool Char := do
  match text.toList with
  | [c] => return c
  | [] => fail 2 "empty tab"
  | _ => if text = "\\0" then return '\x00' else fail 2 ("multi-character tab " ++ cited text)

def table : OptionTable :=
  { short := "bcCdfghik:mMno:rRsS:t:T:uVy:z"
    long := OptionTable.plain
      [("ignore-leading-blanks", "b"), ("dictionary-order", "d"), ("ignore-case", "f"),
        ("general-numeric-sort", "g"), ("human-numeric-sort", "h"), ("ignore-nonprinting", "i"),
        ("merge", "m"), ("month-sort", "M"), ("numeric-sort", "n"), ("random-sort", "R"),
        ("version-sort", "V"), ("reverse", "r"), ("stable", "s"), ("unique", "u"),
        ("zero-terminated", "z"), ("debug", "debug")] ++
      [{ name := "check", key := "check", need := .maybe }] ++
      OptionTable.valued
        [("key", "k"), ("output", "o"), ("field-separator", "t"), ("buffer-size", "S"),
          ("temporary-directory", "T"), ("batch-size", "batch-size"), ("parallel", "parallel"),
          ("compress-program", "compress-program"), ("files0-from", "files0-from"),
          ("random-source", "random-source"), ("sort", "sort")]
    failure := 2 }

def orderLetter (word : String) : Char :=
  match word with
  | "general-numeric" => 'g'
  | "human-numeric" => 'h'
  | "month" => 'M'
  | "numeric" => 'n'
  | "random" => 'R'
  | _ => 'V'

def apply (r : Request) (key : String) (value : Option String) : Tool Request := do
  match key, value with
  | "c", _ => return { r with checks := some false }
  | "C", _ => return { r with checks := some true }
  | "check", none => return { r with checks := some false }
  | "check", some text =>
    let word ← chooseWord "--check" [["quiet", "silent"], ["diagnose-first"]] text
    return { r with checks := some (word ≠ "diagnose-first") }
  | "k", some spec => return { r with keys := r.keys ++ [← readKey spec] }
  | "m", _ => return { r with merge := true }
  | "o", some path =>
    if r.output.any (· ≠ path) then fail 2 "multiple output files specified"
    return { r with output := some path }
  | "s", _ => return { r with stable := true }
  | "t", some text =>
    let tab ← readTab text
    if r.tab.any (· ≠ tab) then fail 2 "incompatible tabs"
    return { r with tab := some tab }
  | "u", _ => return { r with unique := true }
  | "z", _ => return { r with zeroEnded := true }
  | "sort", some text =>
    let word ← chooseWord "--sort" [["general-numeric"], ["human-numeric"], ["month"], ["numeric"],
      ["random"], ["version"]] text
    return { r with ordering := (r.ordering.add false false (orderLetter word)).getD r.ordering }
  | key, _ =>
    match key.toList with
    | [c] => return { r with ordering := (r.ordering.add true true c).getD r.ordering }
    | _ => return r

def oldKey? (start : String) (finish : Option String) : Option Key := do
  let place (text : List Char) : Option (Nat × Nat × List Char) := do
    let digits := text.takeWhile Char.isDigit
    if digits.isEmpty then none
    let rest := text.drop digits.length
    match rest with
    | '.' :: more =>
      let chars := more.takeWhile Char.isDigit
      return (Real.readDigits 10 digits, Real.readDigits 10 chars, more.drop chars.length)
    | _ => return (Real.readDigits 10 digits, 0, rest)
  let (field, char, letters) ← place (start.toList.drop 1)
  let (o, rest) := readLetters true {} letters
  unless rest.isEmpty do none
  match finish with
  | none => return { field, char, ordering := o }
  | some finish =>
    let (endField, endChar, letters) ← place (finish.toList.drop 1)
    let (o, rest) := readLetters false o letters
    unless rest.isEmpty do none
    -- A place between two fields belongs to the first of them.
    if endChar = 0 && endField ≠ 0 then
      return { field, char, endField := some (endField - 1), endChar := 0, ordering := o }
    else return { field, char, endField := some endField, endChar, ordering := o }

def takeOldKeys : List String → List Key × List String
  | [] => ([], [])
  | "--" :: rest => ([], "--" :: rest)
  | arg :: rest =>
    let (keys, others) := takeOldKeys rest
    if arg.startsWith "+" then
      match others with
      | next :: more =>
        if next.startsWith "-" && ((next.toList.drop 1).head?.any Char.isDigit) then
          match oldKey? arg (some next) with
          | some key => (key :: keys, more)
          | none => (keys, arg :: others)
        else
          match oldKey? arg none with
          | some key => (key :: keys, others)
          | none => (keys, arg :: others)
      | [] =>
        match oldKey? arg none with
        | some key => (key :: keys, [])
        | none => (keys, [arg])
    else (keys, arg :: others)

def linesOf (r : Request) (operand : String) : Tool (List String) := do
  match ← openInput operand with
  | .error fault => fail 2 ("cannot read: " ++ quotedIfNeeded operand ++ ": " ++ fault.describe)
  | .ok () =>
    let result ← restOfInput
    closeInput
    match result with
    | .error fault => fail 2 ("read failed: " ++ quotedIfNeeded operand ++ ": " ++ fault.describe)
    | .ok bytes =>
      let lines := (Octet.ofBytes bytes).splitOn (if r.zeroEnded then "\x00" else "\n")
      return if lines.getLast? = some "" then lines.dropLast else lines

def distinct (same : Entry → Entry → Bool) : List Entry → List Entry → List Entry
  | done, [] => done.reverse
  | [], e :: rest => distinct same [e] rest
  | last :: done, e :: rest =>
    if same last e then distinct same (last :: done) rest
    else distinct same (e :: last :: done) rest

/-- Merges lists that are taken to be sorted. -/
def mergeLists (before : Entry → Entry → Bool) (lists : List (List Entry)) : List Entry :=
  let rec two (a b : List Entry) : Nat → List Entry
    | 0 => []
    | n + 1 =>
      match a, b with
      | [], rest | rest, [] => rest
      | x :: xs, y :: ys => if before y x then y :: two a ys n else x :: two xs b n
  lists.foldl (fun a b ↦ two a b (a.length + b.length + 1)) []

def disorder? (bad : Entry → Entry → Bool) : Nat → List Entry → Option (Nat × String)
  | n, a :: b :: rest => if bad a b then some (n + 1, b.line) else disorder? bad (n + 1) (b :: rest)
  | _, _ => none

def checkOrder (o : Order) : Tool Unit :=
  if o.isContradictory then fail 2 ("options '-" ++ o.letters ++ "' are incompatible") else return

def main (args : List String) : Tool Nat := do
  let (old, args) := takeOldKeys args
  let (found, operands) ← options table args
  let mut r : Request := { keys := old }
  for (key, value) in found do r ← apply r key value
  if found.has "c" && found.has "C" then fail 2 "options '-cC' are incompatible"
  let keys := r.effectiveKeys
  for k in keys do checkOrder k.ordering
  if r.keys.isEmpty then checkOrder r.ordering
  let operands ← match found.value? "files0-from" with
    | none => pure (if operands.isEmpty then ["-"] else operands)
    | some path =>
      if let some extra := operands.head? then
        failWithHelp 2 ("extra operand " ++ cited extra ++
          "\nfile operands cannot be combined with --files0-from")
      match ← contentsOf path with
      | .error fault => fail 2 ("open failed: " ++ quotedIfNeeded path ++ ": " ++ fault.describe)
      | .ok bytes =>
        let names := (Octet.ofBytes bytes).splitOn "\x00"
        pure (if names.getLast? = some "" then names.dropLast else names)
  let request := r
  let order := request.compare keys
  let entries (lines : List String) : List Entry := lines.map (request.entry keys)
  match request.checks with
  | some quiet =>
    if let extra :: _ := operands.tail then
      fail 2 ("extra operand " ++ cited extra ++ " not allowed with -" ++
        if quiet then "C" else "c")
    if request.output.isSome then
      fail 2 ("options '-" ++ (if quiet then "C" else "c") ++ "o' are incompatible")
    let operand := operands.headD "-"
    let lines ← linesOf request operand
    let bad (a b : Entry) : Bool :=
      match order a b with
      | .gt => true
      | .eq => request.unique
      | .lt => false
    match disorder? bad 1 (entries lines) with
    | none => return 0
    | some (n, line) =>
      unless quiet do complain (operand ++ ":" ++ toString n ++ ": disorder: " ++ line)
      return 1
  | none =>
    for operand in operands do
      unless operand = "-" do
        match ← node? operand with
        | .error fault =>
          fail 2 ("cannot read: " ++ quotedIfNeeded operand ++ ": " ++ fault.describe)
        | .ok node =>
          unless node.allows .read do
            fail 2 ("cannot read: " ++ quotedIfNeeded operand ++ ": " ++
              SystemFault.notPermitted.describe)
    let lists ← operands.mapM (linesOf request)
    let sorted := if request.merge then
        mergeLists (fun a b ↦ order a b = .lt) (lists.map entries)
      else (entries lists.flatten).mergeSort fun a b ↦ order a b ≠ .gt
    let sorted := if request.unique then distinct (fun a b ↦ order a b = .eq) [] sorted else sorted
    let mark := if request.zeroEnded then "\x00" else "\n"
    match request.output with
    | none => for e in sorted do say (e.line ++ mark)
    | some path =>
      let how : Opening := { write := true, create := true, truncate := true }
      match ← Strand.openAt (Octet.toText path) how with
      | .error fault => fail 2 ("open failed: " ++ quotedIfNeeded path ++ ": " ++ fault.describe)
      | .ok number =>
        let bytes := sorted.foldl (fun b e ↦ b ++ Octet.toBytes (e.line ++ mark)) ByteArray.empty
        match ← Strand.writeAt number bytes with
        | .ok () => Strand.closeAt number
        | .error fault => fail 2 ("write failed: " ++ quotedIfNeeded path ++ ": " ++ fault.describe)
    return 0

end RegisterLang.Tool.Sort
