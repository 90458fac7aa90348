import RegisterLang.Host.Regex.Basic

namespace RegisterLang.Regex

inductive Leading where
  | literal
  | skip
  | refuse
  deriving DecidableEq, Repr

inductive Fault where
  | bracket
  | openGroup
  | closeGroup
  | openInterval
  | interval
  | range
  | className
  | collation
  | backslash
  | reference
  | repetition
  | size
  | unreadable
  | bareClass
  deriving DecidableEq, Repr

/-- In what the languages of patterns differ. -/
structure Flavor where
  extended : Bool := false
  plainSigns : Bool := false
  intervals : Bool := true
  leading : Leading := .literal
  strictIntervals : Bool := true
  strictClose : Bool := true
  strictRepeats : Bool := false
  repeatsAnchors : Bool := false
  references : Bool := true
  bracketEscapes : Bool := false
  lastBracket : Fault := .bracket
  checksClasses : Bool := false
  linewise : Bool := false
  deriving Repr

def Fault.message : Fault → String
  | bracket => "Unmatched [, [^, [:, [., or [="
  | openGroup => "Unmatched ( or \\("
  | closeGroup => "Unmatched ) or \\)"
  | openInterval => "Unmatched \\\x7b"
  | interval => "Invalid content of \\\x7b\\\x7d"
  | range => "Invalid range end"
  | className => "Invalid character class name"
  | collation => "Invalid collation character"
  | backslash => "Trailing backslash"
  | reference => "Invalid back reference"
  | repetition => "Invalid preceding regular expression"
  | size => "Regular expression too big"
  | unreadable => "Invalid regular expression"
  | bareClass => "character class syntax is [[:space:]], not [:space:]"

def isWord (c : Char) : Bool := c.isAlphanum || c = '_'

def isSpace (c : Char) : Bool := c = ' ' || ('\t' ≤ c && c ≤ '\r')

def classOf? (name : String) : Option (Char → Bool) :=
  let graphic (c : Char) : Bool := '!' ≤ c && c ≤ '~'
  match name with
  | "alpha" => some Char.isAlpha
  | "upper" => some Char.isUpper
  | "lower" => some Char.isLower
  | "digit" => some Char.isDigit
  | "xdigit" => some fun c ↦ c.isDigit || ('a' ≤ c && c ≤ 'f') || ('A' ≤ c && c ≤ 'F')
  | "alnum" => some Char.isAlphanum
  | "space" => some isSpace
  | "blank" => some fun c ↦ c = ' ' || c = '\t'
  | "punct" => some fun c ↦ graphic c && !c.isAlphanum
  | "graph" => some graphic
  | "print" => some fun c ↦ graphic c || c = ' '
  | "cntrl" => some fun c ↦ c < ' ' || c = '\x7f'
  | _ => none

def upTo (mark : Char) : List Char → List Char → Option (List Char × List Char)
  | done, c :: ']' :: rest =>
    if c = mark then some (done.reverse, rest) else upTo mark (c :: done) (']' :: rest)
  | done, c :: rest => upTo mark (c :: done) rest
  | _, [] => none

inductive Element where
  | char (c : Char)
  | set (octets : OctetSet)

def bracketEscape (c : Char) : Char :=
  match c with
  | 'n' => '\n'
  | 't' => '\t'
  | 'r' => '\r'
  | 'f' => '\x0c'
  | 'v' => '\x0b'
  | 'a' => '\x07'
  | 'b' => '\x08'
  | c => c

/-- A part of a bracket: a character, a class or a collating name. -/
def element (f : Flavor) : List Char → Except Fault (Element × List Char)
  | '[' :: ':' :: cs =>
    match upTo ':' [] cs with
    | none => .error .bracket
    | some (name, rest) =>
      match classOf? (String.ofList name) with
      | some p => .ok (.set (.ofPredicate p), rest)
      | none => .error .className
  | '[' :: '.' :: cs =>
    match upTo '.' [] cs with
    | none => .error .bracket
    | some ([c], rest) => .ok (.char c, rest)
    | some _ => .error .collation
  | '[' :: '=' :: cs =>
    match upTo '=' [] cs with
    | none => .error .bracket
    | some ([c], rest) => .ok (.char c, rest)
    | some _ => .error .collation
  | '\\' :: c :: cs =>
    if f.bracketEscapes then .ok (.char (bracketEscape c), cs) else .ok (.char '\\', c :: cs)
  | c :: cs => .ok (.char c, cs)
  | [] => .error .bracket

def elements (f : Flavor) : Nat → (isFirst : Bool) → OctetSet → List Char →
    Except Fault (OctetSet × List Char)
  | 0, _, _, _ => .error .bracket
  | _ + 1, _, _, [] => .error .bracket
  | n + 1, isFirst, s, c :: cs =>
    if c = ']' && !isFirst then .ok (s, cs)
    else if c = '-' && !isFirst && cs.head? ≠ some ']' && !f.bracketEscapes then
      if cs.isEmpty then .error .bracket else .error .range
    else do
      let (start, rest) ← element f (c :: cs)
      match rest with
      | '-' :: d :: more =>
        if d = ']' then
          elements f n false
            (match start with
              | .char c => s.insert c.toNat.toUInt8
              | .set t => s.union t) rest
        else
          let (finish, rest) ← element f (d :: more)
          match start, finish with
          | .char a, .char b =>
            if b < a then .error .range
            else elements f n false (s.union (.ofPredicate fun c ↦ a ≤ c && c ≤ b)) rest
          | _, _ => .error .range
      | _ =>
        elements f n false
          (match start with
            | .char c => s.insert c.toNat.toUInt8
            | .set t => s.union t) rest

def bracket (f : Flavor) (cs : List Char) : Except Fault (OctetSet × List Char) :=
  match cs with
  | [] | ['^'] => .error f.lastBracket
  | '^' :: rest => do
    let (s, rest) ← elements f (cs.length + 1) true .empty rest
    return (if f.linewise then s.complement.erase '\n' else s.complement, rest)
  | _ => do
    let (s, rest) ← elements f (cs.length + 1) true .empty cs
    let inside := cs.take (cs.length - rest.length - 1)
    if f.checksClasses && 2 ≤ inside.length && inside.head? = some ':' &&
        inside.getLast? = some ':' then
      .error .bareClass
    else return (s, rest)

inductive Token where
  | char (c : Char)
  | set (octets : OctetSet)
  | anchor (condition : Anchor)
  | star
  | plus
  | question
  | interval
  | openGroup
  | closeGroup
  | bar
  | caret
  | dollar
  | back (number : Nat)
  deriving DecidableEq, Repr

def escapeToken? (c : Char) : Option Token :=
  match c with
  | 'w' => some (.set (.ofPredicate isWord))
  | 'W' => some (.set (.ofPredicate (!isWord ·)))
  | 's' => some (.set (.ofPredicate isSpace))
  | 'S' => some (.set (.ofPredicate (!isSpace ·)))
  | 'b' => some (.anchor .wordEdge)
  | 'B' => some (.anchor .insideOrOutside)
  | '<' => some (.anchor .wordStart)
  | '>' => some (.anchor .wordEnd)
  | '\x60' => some (.anchor .textStart)
  | '\x27' => some (.anchor .textEnd)
  | _ => if '1' ≤ c && c ≤ '9' then some (.back (c.toNat - '0'.toNat)) else none

def token (f : Flavor) (cs : List Char) : Except Fault (Option (Token × List Char)) :=
  match cs with
  | [] => .ok none
  | '\\' :: rest =>
    match rest with
    | [] => .error .backslash
    | c :: rest =>
      let basic? : Option Token := if f.extended then none
        else match c with
          | '(' => some .openGroup
          | ')' => some .closeGroup
          | '{' => if f.intervals then some .interval else none
          | '|' => some .bar
          | '+' => if f.plainSigns then none else some .plus
          | '?' => if f.plainSigns then none else some .question
          | _ => none
      match basic?, if f.references then escapeToken? c else none with
      | some t, _ => .ok (some (t, rest))
      | none, some t => .ok (some (t, rest))
      | none, none => .ok (some (.char (if f.bracketEscapes then bracketEscape c else c), rest))
  | '[' :: rest => do
    let (s, rest) ← bracket f rest
    return some (.set s, rest)
  | '.' :: rest => .ok (some (.set (if f.linewise then OctetSet.all.erase '\n' else .all), rest))
  | '*' :: rest => .ok (some (.star, rest))
  | '^' :: rest => .ok (some (.caret, rest))
  | '$' :: rest => .ok (some (.dollar, rest))
  | c :: rest =>
    if f.extended then
      match c with
      | '(' => .ok (some (.openGroup, rest))
      | ')' => .ok (some (.closeGroup, rest))
      | '|' => .ok (some (.bar, rest))
      | '+' => .ok (some (.plus, rest))
      | '?' => .ok (some (.question, rest))
      | '{' => .ok (some (if f.intervals then .interval else .char c, rest))
      | _ => .ok (some (.char c, rest))
    else if f.plainSigns && c = '+' then .ok (some (.plus, rest))
    else if f.plainSigns && c = '?' then .ok (some (.question, rest))
    else .ok (some (.char c, rest))

def countLimit : Nat := 32767

def interval (f : Flavor) (cs : List Char) : Except Fault (Option (Nat × Option Nat × List Char)) :=
  let number (digits : List Char) : Nat :=
    digits.foldl (fun n c ↦ n * 10 + (c.toNat - '0'.toNat)) 0
  let close? (cs : List Char) : Option (List Char) :=
    match f.extended, cs with
    | true, '}' :: rest => some rest
    | false, '\\' :: '}' :: rest => some rest
    | _, _ => none
  let low := cs.takeWhile Char.isDigit
  let rest := cs.drop low.length
  let isClosed := if f.extended then rest.contains '}'
    else (List.range rest.length).any fun i ↦ (rest.drop i).take 2 = ['\\', '}']
  let wrong : Except Fault (Option (Nat × Option Nat × List Char)) :=
    if !f.strictIntervals then .ok none
    else .error (if isClosed then .interval else .openInterval)
  let checked (a : Nat) (b : Option Nat) (rest : List Char) :
      Except Fault (Option (Nat × Option Nat × List Char)) :=
    if b.any (· < a) then .error .interval
    else if countLimit < b.getD a then .error .size
    else .ok (some (a, b, rest))
  match close? rest, rest with
  | some after, _ => if low.isEmpty then wrong else checked (number low) (some (number low)) after
  | none, ',' :: more =>
    let high := more.takeWhile Char.isDigit
    match close? (more.drop high.length) with
    | some after =>
      checked (number low) (if high.isEmpty then none else some (number high)) after
    | none => wrong
  | none, _ => wrong

structure Groups where
  count : Nat := 0
  closed : List Nat := []
  skipped : List String := []

abbrev Result := Regex × Groups × List Char

def endsBranch (f : Flavor) (cs : List Char) : Bool :=
  f.extended || cs.isEmpty || cs.take 2 = ['\\', ')'] || cs.take 2 = ['\\', '|']

def repetitions (f : Flavor) : Nat → (signs : List String) → Regex → List Char →
    Except Fault (Regex × List String × List Char)
  | 0, signs, r, cs => .ok (r, signs, cs)
  | n + 1, signs, r, cs => do
    match ← token f cs with
    | some (.star, rest) =>
      if !signs.isEmpty && f.strictRepeats then .error .repetition
      else repetitions f n (signs ++ ["*"]) (.many 0 none r) rest
    | some (.plus, rest) => repetitions f n (signs ++ ["+"]) (.many 1 none r) rest
    | some (.question, rest) => repetitions f n (signs ++ ["?"]) (.many 0 (some 1) r) rest
    | some (.interval, rest) =>
      if !signs.isEmpty && f.strictRepeats then .error .repetition
      else
        match ← interval f rest with
        | some (low, high, rest) =>
          repetitions f n (signs ++ ["\x7b...\x7d"]) (.many low high r) rest
        | none => return (r, signs, cs)
    | _ => return (r, signs, cs)

mutual

/-- Branches up to the end, or to the parenthesis that closes them. -/
def alternatives (f : Flavor) : Nat → Nat → Groups → List Char → Except Fault Result
  | 0, _, g, cs => .ok (.empty, g, cs)
  | n + 1, depth, g, cs => do
    let (a, g, cs) ← branch f n depth true true g .empty cs
    match ← token f cs with
    | some (.bar, rest) =>
      let (b, g, cs) ← alternatives f n depth g rest
      return (.either a b, g, cs)
    | _ => return (a, g, cs)

/-- A sequence. The flags tell whether nothing has come before, and whether nothing has that can be
repeated. -/
def branch (f : Flavor) : Nat → Nat → (isFirst bare : Bool) → Groups → Regex → List Char →
    Except Fault Result
  | 0, _, _, _, g, done, cs => .ok (done, g, cs)
  | n + 1, depth, isFirst, bare, g, done, cs => do
    let join (r : Regex) : Regex :=
      match done with
      | .empty => r
      | _ => .seq done r
    let finish (r : Regex) (g : Groups) (rest : List Char) : Except Fault Result := do
      let (r, _, rest) ← repetitions f (rest.length + 1) [] r rest
      branch f n depth false false g (join r) rest
    let char (c : Char) (rest : List Char) : Except Fault Result :=
      finish (.set (.single c)) g rest
    let anchored (a : Anchor) (rest : List Char) : Except Fault Result := do
      if f.repeatsAnchors && !bare then finish (.anchor a) g rest
      else if f.repeatsAnchors && f.extended then
        let (r, signs, rest) ← repetitions f (rest.length + 1) [] (.anchor a) rest
        branch f n depth false true { g with skipped := g.skipped ++ signs } (join r) rest
      else branch f n depth false true g (join (.anchor a)) rest
    let leading (c : Char) (rest : List Char) : Except Fault Result :=
      if !f.extended then char c rest
      else
        match f.leading with
        | .literal => char c rest
        | .skip =>
          branch f n depth false true { g with skipped := g.skipped ++ [c.toString] } done rest
        | .refuse => .error .repetition
    match ← token f cs with
    | none | some (.bar, _) => return (done, g, cs)
    | some (.closeGroup, rest) =>
      if depth ≠ 0 then return (done, g, cs)
      else if f.strictClose then .error .closeGroup
      else char ')' rest
    | some (.char c, rest) => char c rest
    | some (.set s, rest) => finish (.set s) g rest
    | some (.anchor a, rest) => anchored a rest
    | some (.back k, rest) =>
      if g.closed.contains k then finish (.back k) g rest else .error .reference
    | some (.caret, rest) =>
      if f.extended || isFirst then anchored .lineStart rest else char '^' rest
    | some (.dollar, rest) =>
      if endsBranch f rest then anchored .lineEnd rest else char '$' rest
    | some (.openGroup, rest) =>
      let number := g.count + 1
      let (r, g, rest) ← alternatives f n (depth + 1) { g with count := number } rest
      match ← token f rest with
      | some (.closeGroup, rest) =>
        finish (.group number r) { g with closed := number :: g.closed } rest
      | _ => .error .openGroup
    | some (.star, rest) => leading '*' rest
    | some (.plus, rest) => leading '+' rest
    | some (.question, rest) => leading '?' rest
    | some (.interval, rest) =>
      if f.extended && f.leading = .refuse then .error .repetition
      else if !f.extended then
        if f.strictRepeats then .error .repetition else char '{' rest
      else
        match f.leading, ← interval f rest with
        | .skip, some (_, _, rest) =>
          branch f n depth false true { g with skipped := g.skipped ++ ["\x7b...\x7d"] } done rest
        | _, _ => char '{' rest

end

def parse (f : Flavor) (text : String) : Except Fault (Regex × Groups) := do
  let cs := text.toList
  let (r, g, _) ← alternatives f (3 * cs.length + 3) 0 {} cs
  return (r, g)

end RegisterLang.Regex
