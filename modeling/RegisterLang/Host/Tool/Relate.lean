import RegisterLang.Host.Tool.Field

namespace RegisterLang.Tool

/-- When files that are not sorted are complained about. -/
inductive OrderCheck where
  | usual
  | always
  | never
  deriving DecidableEq, Repr

def orderCheck (found : OptionList) : OrderCheck :=
  match found.last? ["check-order", "nocheck-order"] with
  | some "check-order" => .always
  | some _ => .never
  | none => .usual

def twoOperands (operands : List String) : Tool (String × String) := do
  match operands with
  | [] => missingOperand
  | [a] => failWithHelp 1 ("missing operand after " ++ cited a)
  | [a, b] => return (a, b)
  | _ :: _ :: extra :: _ => extraOperand extra

def linesOrFail (mark operand : String) : Tool (List String) := do
  match ← contentsOf operand with
  | .error fault => fail 1 (quotedIfNeeded operand ++ ": " ++ fault.describe)
  | .ok bytes => return (splitLines mark (Octet.ofBytes bytes)).1

namespace Common

structure Side where
  last : Option String := none
  rest : List String
  complained : Bool := false

structure Progress where
  sides : Side × Side
  unpaired : Bool := false
  totals : Nat × Nat × Nat := (0, 0, 0)

def check (how : OrderCheck) (unpaired : Bool) (which : Nat) (s : Side) (a b : Option String) :
    Tool Side := do
  match a, b with
  | some a, some b =>
    if how ≠ .never && (how = .always || unpaired) && !s.complained && b < a then
      complain ("file " ++ toString which ++ " is not in sorted order")
      if how = .always then throw 1
      return { s with complained := true }
    else return s
  | _, _ => return s

/-- Goes to the next line of a side, and complains if it is out of order. -/
def advance (how : OrderCheck) (unpaired : Bool) (which : Nat) (s : Side) : Tool Side := do
  match s.rest with
  | [] => return s
  | line :: rest =>
    let next : Side := { s with last := some line, rest }
    match rest with
    | following :: _ => check how unpaired which next (some line) (some following)
    | [] => check how unpaired which next s.last (some line)

def table : OptionTable :=
  { short := "123z"
    long := OptionTable.plain
      [("check-order", "check-order"), ("nocheck-order", "nocheck-order"), ("total", "total"),
        ("zero-terminated", "z")] ++
      OptionTable.valued [("output-delimiter", "output-delimiter")] }

def main (args : List String) : Tool Nat := do
  let (found, operands) ← options table args
  let (first, second) ← twoOperands operands
  let mark := if found.has "z" then "\x00" else "\n"
  let delimiter := match found.value? "output-delimiter" with
    | some "" => "\x00"
    | some d => d
    | none => "\t"
  let how := orderCheck found
  let a ← linesOrFail mark first
  let b ← linesOrFail mark second
  let indent (column : Nat) : String :=
    String.join ((["1", "2"].take column).map fun c ↦ if found.has c then "" else delimiter)
  let show_ (column : Nat) (line : String) : Tool Unit :=
    if found.has (toString (column + 1)) then return else say (indent column ++ line ++ mark)
  let p ← iterate (fun (p : Progress) ↦ do
    let (x, y) := p.sides
    let (m, n, k) := p.totals
    match x.rest, y.rest with
    | [], [] => return .inr p
    | _, _ =>
      let order := match x.rest.head?, y.rest.head? with
        | some a, some b => if a < b then Ordering.lt else if b < a then .gt else .eq
        | some _, none => .lt
        | _, _ => .gt
      match order with
      | .eq =>
        show_ 2 (x.rest.headD "")
        let x ← advance how p.unpaired 1 x
        let y ← advance how p.unpaired 2 y
        return .inl { p with sides := (x, y), totals := (m, n, k + 1) }
      | .lt =>
        show_ 0 (x.rest.headD "")
        let x ← advance how true 1 x
        return .inl { sides := (x, y), unpaired := true, totals := (m + 1, n, k) }
      | .gt =>
        show_ 1 (y.rest.headD "")
        let y ← advance how true 2 y
        return .inl { sides := (x, y), unpaired := true, totals := (m, n + 1, k) })
    { sides := ({ rest := a }, { rest := b }) }
  if found.has "total" then
    let (m, n, k) := p.totals
    say (delimiter.intercalate [toString m, toString n, toString k, "total"] ++ mark)
  if p.sides.1.complained || p.sides.2.complained then fail 1 "input is not in sorted order"
  return 0

end Common

namespace Join

structure Record where
  line : String
  fields : List String

inductive Column where
  | key
  | field (file number : Nat)
  deriving DecidableEq, Repr

structure Request where
  keys : Nat × Nat := (0, 0)
  tab : Option Char := none
  fold : Bool := false
  unpaired : Bool × Bool := (false, false)
  paired : Bool := true
  filler : String := ""
  columns : Option (List Column) := none
  automatic : Bool := false
  header : Bool := false
  check : OrderCheck := .usual

def isBlank (c : Char) : Bool := c = ' ' || c = '\t' || c = '\n'

def blankFields : Nat → List Char → List String
  | 0, _ => []
  | n + 1, cs =>
    let cs := cs.dropWhile isBlank
    if cs.isEmpty then []
    else
      let field := cs.takeWhile (!isBlank ·)
      String.ofList field :: blankFields n (cs.drop field.length)

def record (r : Request) (line : String) : Record :=
  { line
    fields := match r.tab with
      | some '\n' => [line]
      | some c => line.splitOn c.toString
      | none => blankFields (line.length + 1) line.toList }

def Record.field (r : Record) (n : Nat) (filler : String) : String :=
  match r.fields[n]? with
  | some text => if text.isEmpty then filler else text
  | none => filler

def Record.key (r : Record) (fold : Bool) (n : Nat) : String :=
  let text := (r.fields[n]?).getD ""
  if fold then text.map Char.toLower else text

/-- A line of output: the fields that were asked for, or all of both sides. -/
def output (r : Request) (a b : Option Record) : String :=
  let separator := match r.tab with
    | some c => c.toString
    | none => " "
  let key := match a, b with
    | some x, _ => x.field r.keys.1 r.filler
    | none, some y => y.field r.keys.2 r.filler
    | none, none => ""
  let others (x : Option Record) (skip : Nat) : List String :=
    match x with
    | none => []
    | some x => (x.fields.zipIdx.filter fun (_, i) ↦ i ≠ skip).map fun (text, _) ↦
        if text.isEmpty then r.filler else text
  let texts := match r.columns with
    | some columns => columns.map fun column ↦
      match column with
      | .key => key
      | .field 1 n => (a.map fun x ↦ x.field n r.filler).getD r.filler
      | .field _ n => (b.map fun y ↦ y.field n r.filler).getD r.filler
    | none => key :: others a r.keys.1 ++ others b r.keys.2
  separator.intercalate texts

structure Side where
  name : String
  last : Option Record := none
  rest : List Record
  count : Nat := 0
  complained : Bool := false

def advance (r : Request) (unpaired : Bool) (key : Nat) (s : Side) : Tool Side := do
  match s.rest with
  | [] => return s
  | x :: rest =>
    let next : Side := { s with last := some x, rest, count := s.count + 1 }
    match rest with
    | y :: _ =>
      if r.check ≠ .never && (r.check = .always || unpaired) && !s.complained &&
          y.key r.fold key < x.key r.fold key then
        complain (s.name ++ ":" ++ toString (next.count + 1) ++ ": is not sorted: " ++ y.line)
        if r.check = .always then throw 1
        return { next with complained := true }
      else return next
    | [] => return next

/-- All records of a side that have the key at hand. -/
def takeGroup (r : Request) (unpaired : Bool) (key : Nat) (text : String) :
    Nat → Side → List Record → Tool (List Record × Side)
  | 0, s, done => return (done.reverse, s)
  | n + 1, s, done => do
    match s.rest with
    | x :: _ =>
      if x.key r.fold key = text then
        let s ← advance r unpaired key s
        takeGroup r unpaired key text n s (x :: done)
      else return (done.reverse, s)
    | [] => return (done.reverse, s)

def readColumn (text : String) : Tool Column := do
  match text.toList with
  | ['0'] => return .key
  | file :: '.' :: digits =>
    if file ≠ '1' && file ≠ '2' then fail 1 ("invalid file number in field spec: " ++ cited text)
    match (String.ofList digits).toNat? with
    | some n =>
      if n = 0 then fail 1 ("invalid field number: " ++ cited (String.ofList digits))
      return .field (if file = '1' then 1 else 2) (n - 1)
    | none => fail 1 ("invalid field number: " ++ cited (String.ofList digits))
  | '0' :: _ => fail 1 ("invalid field specifier: " ++ cited text)
  | _ => fail 1 ("invalid field specifier: " ++ cited text)

def isColumn (text : String) : Bool :=
  text = "0" || (text.toList.take 2 = ['1', '.'] || text.toList.take 2 = ['2', '.']) &&
    2 < text.length

def readColumns (text : String) : Tool (List Column) :=
  (((text.split fun c ↦ c = ',' || c = ' ' || c = '\t').toList.map (·.toString)).filter
    (!·.isEmpty)).mapM readColumn

def fieldNumber (text : String) : Tool Nat := do
  match text.toNat? with
  | some n => if n = 0 then fail 1 ("invalid field number: " ++ cited text) else return n - 1
  | none => fail 1 ("invalid field number: " ++ cited text)

def fileNumber (text : String) : Tool Nat := do
  if text = "1" then return 1
  else if text = "2" then return 2
  else fail 1 ("invalid field number: " ++ cited text)

def apply (r : Request) (key text : String) : Tool Request := do
  match key with
  | "1" => return { r with keys := (← fieldNumber text, r.keys.2) }
  | "2" => return { r with keys := (r.keys.1, ← fieldNumber text) }
  | "j" =>
    let n ← fieldNumber text
    return { r with keys := (n, n) }
  | "a" | "v" =>
    let n ← fileNumber text
    let unpaired := if n = 1 then (true, r.unpaired.2) else (r.unpaired.1, true)
    return { r with unpaired, paired := r.paired && key = "a" }
  | "e" => return { r with filler := text }
  | "i" => return { r with fold := true }
  | "o" =>
    if text = "auto" then return { r with automatic := true }
    else return { r with columns := some (r.columns.getD [] ++ (← readColumns text)) }
  | "t" =>
    match text.toList with
    | [] => return { r with tab := some '\n' }
    | [c] => return { r with tab := some c }
    | _ =>
      if text = "\\0" then return { r with tab := some '\x00' }
      else fail 1 ("multi-character tab " ++ cited text)
  | "header" => return { r with header := true }
  | _ => return r

def table : OptionTable :=
  { short := "a:e:i1:2:j:o:t:v:z"
    long := OptionTable.plain
      [("ignore-case", "i"), ("check-order", "check-order"), ("nocheck-order", "nocheck-order"),
        ("zero-terminated", "z"), ("header", "header")] }

def main (args : List String) : Tool Nat := do
  let (found, operands) ← options table args
  let mut r : Request := { check := orderCheck found }
  for (key, value) in found do r ← apply r key (value.getD "")
  -- Columns may go on in the operands.
  let extra := if r.columns.isSome then
      (operands.take (operands.length - 2)).takeWhile isColumn else []
  for text in extra do
    let columns ← readColumns text
    r := { r with columns := r.columns.map (· ++ columns) }
  let (first, second) ← twoOperands (operands.drop extra.length)
  let mark := if found.has "z" then "\x00" else "\n"
  let lines ← linesOrFail mark first
  let others ← linesOrFail mark second
  let request := r
  let a := lines.map (record request)
  let b := others.map (record request)
  if r.automatic then
    let columns (file skip : Nat) (x : Option Record) : List Column :=
      ((List.range ((x.map (·.fields.length)).getD 0)).filter (· ≠ skip)).map (Column.field file)
    r := { r with columns := some (.key :: columns 1 r.keys.1 a.head? ++
      columns 2 r.keys.2 b.head?) }
  let request := r
  let write (x y : Option Record) : Tool Unit := say (output request x y ++ mark)
  let (a, b) ← if request.header then do
      if a.head?.isSome || b.head?.isSome then write a.head? b.head?
      pure (a.tail, b.tail)
    else pure (a, b)
  let start (name : String) (rest : List Record) : Side :=
    { name, rest, count := if request.header then 1 else 0 }
  let (x, y) ← iterate (fun ((x, y, unpaired) : Side × Side × Bool) ↦ do
    match x.rest, y.rest with
    | p :: _, q :: _ =>
      let key := p.key request.fold request.keys.1
      let other := q.key request.fold request.keys.2
      if key < other then
        if request.unpaired.1 then write (some p) none
        return .inl (← advance request true request.keys.1 x, y, true)
      else if other < key then
        if request.unpaired.2 then write none (some q)
        return .inl (x, ← advance request true request.keys.2 y, true)
      else
        let (ps, x) ← takeGroup request unpaired request.keys.1 key (x.rest.length + 1) x []
        let (qs, y) ← takeGroup request unpaired request.keys.2 key (y.rest.length + 1) y []
        if request.paired then
          for p in ps do
            for q in qs do write (some p) (some q)
        return .inl (x, y, unpaired)
    | p :: _, [] =>
      if request.unpaired.1 then write (some p) none
      return .inl (← advance request true request.keys.1 x, y, true)
    | [], q :: _ =>
      if request.unpaired.2 then write none (some q)
      return .inl (x, ← advance request true request.keys.2 y, true)
    | [], [] => return .inr (x, y)) (start first a, start second b, false)
  if x.complained || y.complained then fail 1 "input is not in sorted order"
  return 0

end Join

namespace TopologicalSort

/-- A word, how many must come before it, and those that come after it. -/
structure Item where
  word : String
  count : Nat := 0
  after : List String := []
  written : Bool := false

def modify (items : List Item) (word : String) (f : Item → Item) : List Item :=
  if items.any (·.word = word) then items.map fun i ↦ if i.word = word then f i else i
  else items ++ [f { word }]

def relate (items : List Item) (a b : String) : List Item :=
  if a = b then modify items a id
  else modify (modify items a fun i ↦ { i with after := b :: i.after }) b fun i ↦
    { i with count := i.count + 1 }

def relations : List String → List Item → List Item
  | a :: b :: rest, items => relations rest (relate items a b)
  | _, items => items

/-- Writes words that nothing must precede, as long as there are some. -/
def run : Nat → List String → List Item → List String → List String × List Item
  | 0, _, items, done => (done.reverse, items)
  | _ + 1, [], items, done => (done.reverse, items)
  | n + 1, word :: queue, items, done =>
    let after := ((items.find? (·.word = word)).map Item.after).getD []
    let items := modify items word fun i ↦ { i with written := true }
    let (items, freed) := after.foldl (fun (items, freed) next ↦
      let items := modify items next fun i ↦ { i with count := i.count - 1 }
      let isFree := (items.find? (·.word = next)).any (·.count = 0)
      (items, if isFree then freed ++ [next] else freed)) (items, ([] : List String))
    run n (queue ++ freed) items (word :: done)

def findLoop (items : List Item) : Nat → List String → List String
  | 0, path => path
  | n + 1, path =>
    match path with
    | [] => []
    | word :: _ =>
      match items.find? fun i ↦ !i.written && i.after.contains word with
      | none => path
      | some i =>
        if path.contains i.word then i.word :: (path.takeWhile (· ≠ i.word))
        else findLoop items n (i.word :: path)

def main (args : List String) : Tool Nat := do
  let (_, operands) ← options {} args
  if let _ :: extra :: _ := operands then extraOperand extra
  let operand := operands.headD "-"
  match ← contentsOf operand with
  | .error fault => fail 1 (quotedIfNeeded operand ++ ": " ++ fault.describe)
  | .ok bytes =>
    let words := (((Octet.ofBytes bytes).split fun c ↦ c = ' ' || c = '\t' || c = '\n').toList.map
      (·.toString)).filter (!·.isEmpty)
    if words.length % 2 = 1 then
      fail 1 (quotedIfNeeded operand ++ ": input contains an odd number of tokens")
    let items := (relations words []).mergeSort fun a b ↦ a.word ≤ b.word
    iterate (fun ((items, status) : List Item × Nat) ↦ do
      let free := (items.filter fun i ↦ !i.written && i.count = 0).map Item.word
      let (done, items) := run (words.length + 1) free items []
      say (String.join (done.map (· ++ "\n")))
      match items.find? (!·.written) with
      | none => return .inr status
      | some i =>
        let loop := findLoop items (items.length + 1) [i.word]
        complain (quotedIfNeeded operand ++ ": input contains a loop:")
        for word in loop do complain word
        -- One relation of the loop is given up.
        let first := loop.headD ""
        let last := loop.getLastD ""
        let items := modify items last fun i ↦ { i with after := i.after.erase first }
        let items := modify items first fun i ↦ { i with count := i.count - 1 }
        return .inl (items, 1)) (items, 0)

end TopologicalSort

end RegisterLang.Tool
