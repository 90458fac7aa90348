import RegisterLang.Host.Tool.Arrange

namespace RegisterLang.Tool

namespace Fold

def advance (byBytes : Bool) (column : Nat) (c : Char) : Nat :=
  if byBytes then column + 1
  else if c = '\x08' then column - 1
  else if c = '\r' then 0
  else if c = '\t' then column / 8 * 8 + 8
  else column + 1

structure Progress where
  done : List (List Char) := []
  part : List Char := []
  column : Nat := 0

/-- Adds a character, and breaks the line before it if it has no room. -/
def step (width : Nat) (byBytes atBlanks : Bool) : Nat → Progress → Char → Progress
  | 0, p, c => { p with part := c :: p.part }
  | n + 1, p, c =>
    let column := advance byBytes p.column c
    if column ≤ width then { p with part := c :: p.part, column }
    else
      let isBlank (c : Char) : Bool := c = ' ' || c = '\t'
      if atBlanks && p.part.any isBlank then
        let rest := p.part.takeWhile (!isBlank ·)
        let front := p.part.drop rest.length
        step width byBytes atBlanks n
          { done := ('\n' :: front) :: p.done, part := rest
            column := rest.reverse.foldl (advance byBytes) 0 } c
      else if p.part.isEmpty then { p with part := [c], column }
      else step width byBytes atBlanks n { done := ('\n' :: p.part) :: p.done } c

def line (width : Nat) (byBytes atBlanks : Bool) (text : String) : String :=
  let p := text.toList.foldl (step width byBytes atBlanks (text.length + 2)) {}
  String.ofList ((p.part :: p.done).reverse.map List.reverse).flatten

def normalize (args : List String) : List String :=
  let rec go : List String → List String
    | [] => []
    | "--" :: rest => "--" :: rest
    | arg :: rest =>
      match arg.toList with
      | '-' :: c :: cs =>
        if c.isDigit && (c :: cs).all Char.isDigit then ("-w" ++ String.ofList (c :: cs)) :: go rest
        else arg :: go rest
      | _ => arg :: go rest
  go args

def main (args : List String) : Tool Nat := do
  let (found, operands) ← options
    { short := "bsw:"
      long := OptionTable.plain [("bytes", "b"), ("spaces", "s")] ++
        OptionTable.valued [("width", "w")] } (normalize args)
  let width ← match found.value? "w" with
    | none => pure 80
    | some text =>
      match readCount "" text with
      | .ok 0 => fail 1 ("invalid number of columns: " ++ cited text ++
          ": Numerical result out of range")
      | .ok n => pure n
      | .error .invalid => fail 1 ("invalid number of columns: " ++ cited text)
      | .error .tooLarge => fail 1 ("invalid number of columns: " ++ cited text ++
          ": Value too large for defined data type")
  forInputs operands fun _ ↦
    forLines fun text ended ↦
      say (line width (found.has "b") (found.has "s") text ++ if ended then "\n" else "")

end Fold

/-- Where tabs lead: to given columns, then to multiples or in steps. -/
structure TabStops where
  every : Nat := 0
  stops : List Nat := []
  multiples : Nat := 0
  steps : Nat := 0

namespace TabStops

def next (t : TabStops) (column : Nat) : Nat × Bool :=
  if t.every ≠ 0 then (column + (t.every - column % t.every), false)
  else
    match t.stops.find? (column < ·) with
    | some stop => (stop, false)
    | none =>
      let last := t.stops.getLastD 0
      if t.multiples ≠ 0 then (column + (t.multiples - column % t.multiples), false)
      else if t.steps ≠ 0 then (column + (t.steps - (column - last) % t.steps), false)
      else (0, true)

def read (text : String) : Tool TabStops := do
  let words := (text.split fun c ↦ c = ',' || c = ' ' || c = '\t').toList.map (·.toString)
  let mut t : TabStops := {}
  for word in words do
    unless word.isEmpty do
      let cs := word.toList
      let (kind, digits) := match cs with
        | '/' :: rest => ('/', rest)
        | '+' :: rest => ('+', rest)
        | _ => (' ', cs)
      let number := digits.takeWhile Char.isDigit
      if number.length < digits.length || number.isEmpty then
        fail 1 ("tab size contains invalid character(s): " ++
          cited (String.ofList (digits.drop number.length)))
      let n := Real.readDigits 10 number
      if kind = '/' then t := { t with multiples := n }
      else if kind = '+' then t := { t with steps := n }
      else
        if n = 0 then fail 1 "tab size cannot be 0"
        if t.stops.any (n ≤ ·) then fail 1 "tab sizes must be ascending"
        t := { t with stops := t.stops ++ [n] }
  match t.stops with
  | [] =>
    let every := if t.multiples ≠ 0 then t.multiples else t.steps
    return if every = 0 then { every := 8 } else { every }
  | [n] => if t.multiples = 0 && t.steps = 0 then return { every := n } else return t
  | _ => return t

end TabStops

def normalizeTabs (args : List String) : List String :=
  args.map fun arg ↦
    match arg.toList with
    | '-' :: c :: cs =>
      if c.isDigit && (c :: cs).all fun c ↦ c.isDigit || c = ',' then
        "-T" ++ String.ofList (c :: cs)
      else arg
    | _ => arg

namespace Expand

structure Progress where
  column : Nat := 0
  converts : Bool := true

def step (t : TabStops) (initial : Bool) (p : Progress) (c : Char) : String × Progress :=
  if c = '\n' then ("\n", {})
  else if !p.converts then (c.toString, p)
  else if c = '\t' then
    let (next, none_) := t.next p.column
    let next := if none_ then p.column + 1 else next
    (String.ofList (List.replicate (next - p.column) ' '), { p with column := next })
  else
    let column := if c = '\x08' then p.column - 1 else p.column + 1
    (c.toString, { column, converts := !initial || c = ' ' })

def main (args : List String) : Tool Nat := do
  let (found, operands) ← options
    { short := "it:T:"
      long := OptionTable.plain [("initial", "i")] ++ OptionTable.valued [("tabs", "t")] }
    (normalizeTabs args)
  let tabs ← match ((found.value? "t").or (found.value? "T")) with
    | some text => TabStops.read text
    | none => pure { every := 8 }
  let initial := found.has "i"
  forInputs operands fun _ ↦
    forLines fun text ended ↦
      let (parts, _) := text.toList.foldl (fun (parts, p) c ↦
        let (part, p) := step tabs initial p c
        (part :: parts, p)) (([] : List String), ({} : Progress))
      say (String.join parts.reverse ++ if ended then "\n" else "")

end Expand

namespace Unexpand

structure Progress where
  column : Nat := 0
  converts : Bool := true
  pending : List Char := []
  oneBefore : Bool := false
  afterBlank : Bool := true
  done : List Char := []

/-- Writes the blanks that wait, since no further one joins them. -/
def flushPending (p : Progress) : Progress :=
  let pending := match p.pending with
    | _ :: c :: rest => if p.oneBefore then '\t' :: c :: rest else p.pending
    | other => other
  { p with pending := [], oneBefore := p.oneBefore && p.pending.isEmpty
           done := pending.reverse ++ p.done }

def step (t : TabStops) (whole : Bool) (p : Progress) (c : Char) : Progress :=
  if !p.converts then { p with done := c :: p.done }
  else
    let finish (p : Progress) (blank : Bool) (c : Char) : Progress :=
      let p := flushPending p
      { p with
        afterBlank := blank, converts := p.converts && (whole || blank), done := c :: p.done }
    if c = ' ' || c = '\t' then
      let (next, none_) := t.next p.column
      if none_ then finish { p with converts := false } true c
      else
        let discard (p : Progress) : Progress :=
          { p with pending := if p.oneBefore then ['\t'].take p.pending.length else [] }
        if c = '\t' then finish (discard { p with column := next }) true c
        else
          let column := p.column + 1
          if p.afterBlank && column = next then finish (discard { p with column }) true '\t'
          else
            { p with
              column, oneBefore := p.oneBefore || column = next, pending := p.pending ++ [c]
              afterBlank := true }
    else if c = '\x08' then finish { p with column := p.column - 1 } false c
    else finish { p with column := p.column + 1 } false c

def main (args : List String) : Tool Nat := do
  let (found, operands) ← options
    { short := "at:T:"
      long := OptionTable.plain [("all", "a"), ("first-only", "first-only")] ++
        OptionTable.valued [("tabs", "t")] } (normalizeTabs args)
  let tabs ← match ((found.value? "t").or (found.value? "T")) with
    | some text => TabStops.read text
    | none => pure { every := 8 }
  let whole := (found.has "a" || found.has "t") && !found.has "first-only"
  forInputs operands fun _ ↦
    forLines fun text ended ↦
      let p := flushPending (text.toList.foldl (step tabs whole) {})
      say (String.ofList p.done.reverse ++ if ended then "\n" else "")

end Unexpand

end RegisterLang.Tool
