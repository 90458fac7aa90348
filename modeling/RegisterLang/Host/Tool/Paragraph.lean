import RegisterLang.Host.Tool.Options

namespace RegisterLang.Tool.Paragraph

/-- A word with what decides about a break after it. -/
structure Word where
  text : String
  space : Nat := 1
  opens : Bool
  punctuated : Bool
  period : Bool
  final : Bool := false

def Word.length (w : Word) : Nat := w.text.length

def Word.ofText (text : String) : Word :=
  let cs := text.toList
  let isOpen (c : Char) : Bool := "(['`\"".toList.contains c
  let isClose (c : Char) : Bool := ")]'\"".toList.contains c
  let isPunctuation (c : Char) : Bool := '!' ≤ c && c ≤ '~' && !c.isAlphanum
  -- Closing signs after the end of a sentence do not count, but one character is left.
  let rec core : List Char → Char
    | [] => ' '
    | [c] => c
    | c :: rest => if isClose c then core rest else c
  { text, opens := cs.head?.any isOpen, punctuated := cs.getLast?.any isPunctuation
    period := ".?!".toList.contains (core cs.reverse) }

def square (n : Int) : Int := n * n

def shortCost (n : Int) : Int := square (n * 10)

def raggedCost (n : Int) : Int := shortCost n / 2

def startCost (this : Word) (before beforeThat : Option Word) : Int :=
  let line := square 70
  let pause : Int := match before with
    | none => 0
    | some w =>
      if w.period then if w.final then -square 50 else square 600
      else if w.punctuated then -square 40
      else if beforeThat.any Word.final then square 200 / (Int.ofNat w.length + 2)
      else 0
  let here : Int := if this.opens then -square 40
    else if this.final then square 150 / (Int.ofNat this.length + 2) else 0
  line + pause + here

/-- The best way to go on from a word, and what it costs. -/
structure Best where
  cost : Int := 0
  next : Nat := 0
  length : Int := 0

/-- The width that no line exceeds and the one that lines should have. -/
structure Widths where
  width : Nat := 75
  goal : Nat := 70
  deriving DecidableEq, Repr

/-- What a line of a length costs that ends before the word `next`. -/
def lineCost (w : Widths) (count : Nat) (best : Array Best) (next : Nat) (length : Int) : Int :=
  if next = count then 0
  else
    let following := best.getD next {}
    let cost := shortCost (Int.ofNat w.goal - length)
    if following.next = count then cost else cost + raggedCost (length - following.length)

def tryBreaks (w : Widths) (words : Array Word) (best : Array Best) :
    Nat → Nat → Int → Option Best → Option Best
  | 0, _, _, found => found
  | fuel + 1, next, length, found =>
    let cost := lineCost w words.size best next length + (best.getD next {}).cost
    let found := if found.all (cost < ·.cost) then some { cost, next, length } else found
    match words[next]?, words[next - 1]? with
    | some word, some before =>
      let length := length + Int.ofNat (before.space + word.length)
      if length < w.width then tryBreaks w words best fuel (next + 1) length found
      else found
    | _, _ => found

/-- The best break after each word, worked out from the last one back. -/
def plan (w : Widths) (words : Array Word) (first other : Nat) : Array Best :=
  let start : Array Best := Array.replicate (words.size + 1) { next := words.size }
  (List.range words.size).reverse.foldl (fun best i ↦
    match words[i]? with
    | none => best
    | some word =>
      let indent := if i = 0 then first else other
      match tryBreaks w words best (words.size + 1) (i + 1) (indent + word.length) none with
      | none => best
      | some found =>
        let before := if i = 0 then none else words[i - 1]?
        let beforeThat := if i ≤ 1 then none else words[i - 2]?
        best.setIfInBounds i
          { found with cost := found.cost + startCost word before beforeThat }) start

structure Setup where
  widths : Widths := {}
  crown : Bool := false
  tagged : Bool := false
  split : Bool := false
  uniform : Bool := false
  head : String := ""
  leadSpace : Nat := 0
  fullLength : Nat := 0

structure Line where
  headIndent : Nat
  column : Nat
  text : Option (List Char)

def skipSpace : List Char → Nat → Bool → List Char × Nat × Bool
  | ' ' :: cs, column, tabs => skipSpace cs (column + 1) tabs
  | '\t' :: cs, column, _ => skipSpace cs ((column / 8 + 1) * 8) true
  | cs, column, tabs => (cs, column, tabs)

def startLine (s : Setup) (line : Option (List Char)) : Line × Bool :=
  match line with
  | none => ({ headIndent := 0, column := 0, text := none }, false)
  | some cs =>
    let (cs, column, tabs) := skipSpace cs 0 false
    if s.head.isEmpty then
      ({ headIndent := min s.leadSpace column, column, text := some cs }, tabs)
    else
      let rec common : List Char → List Char → Nat → Nat × List Char × Bool
        | h :: hs, c :: cs, n => if h = c then common hs cs (n + 1) else (n, c :: cs, false)
        | [], cs, n => (n, cs, true)
        | _ :: _, [], n => (n, [], false)
      let (n, rest, whole) := common s.head.toList cs 0
      if whole then
        let (rest, after, more) := skipSpace rest (column + n) tabs
        ({ headIndent := column, column := after, text := some rest }, more)
      else ({ headIndent := column, column := column + n, text := some rest }, tabs)

def wordsOf (uniform last : Bool) : Nat → List Char → Nat → Array Word → Array Word
  | 0, _, _, words => words
  | n + 1, cs, column, words =>
    let isSpace (c : Char) : Bool := c = ' ' || ('\t' ≤ c && c ≤ '\r')
    match cs with
    | [] => words
    | c :: rest =>
      -- A word has at least one character, whatever it is.
      let tail := rest.takeWhile (!isSpace ·)
      let text := c :: tail
      let word := Word.ofText (String.ofList text)
      let column := column + text.length
      let (after, next, _) := skipSpace (cs.drop text.length) column false
      let ends := after.isEmpty
      let space := next - column
      let final := (ends && last) || (word.period && (ends || 1 < space))
      let space := if ends || uniform then if final then 2 else 1 else space
      wordsOf uniform last n after next (words.push { word with space, final })

structure Writer where
  text : List String := []
  column : Nat := 0
  tabs : Bool := false

def Writer.put (w : Writer) (text : String) : Writer :=
  { w with text := text :: w.text, column := w.column + text.length }

def Writer.spaceTo (w : Writer) (target : Nat) : Writer :=
  let stop := target / 8 * 8
  let w := if w.tabs && w.column + 1 < stop then
    let count := stop / 8 - w.column / 8
    { w with text := Text.repeated count '\t' :: w.text, column := stop } else w
  { w with text := Text.repeated (target - w.column) ' ' :: w.text, column := max w.column target }

def Writer.space (w : Writer) (count : Nat) : Writer := w.spaceTo (w.column + count)

def Writer.newline (w : Writer) : Writer := { w with text := "\n" :: w.text, column := 0 }

def Writer.line (w : Writer) (s : Setup) (headIndent indent : Nat) (words : List Word) : Writer :=
  let w := { w with column := 0 }
  let w := (w.space headIndent).put s.head
  let w := w.spaceTo (max w.column indent)
  let rec go : List Word → Writer → Writer
    | [], w => w
    | [word], w => w.put word.text
    | word :: rest, w => go rest ((w.put word.text).space word.space)
  (go words w).newline

def Writer.paragraph (w : Writer) (s : Setup) (headIndent : Nat) (words : Array Word)
    (best : Array Best) : Nat → Nat → (indent other : Nat) → Writer
  | 0, _, _, _ => w
  | n + 1, start, indent, other =>
    if words.size ≤ start then w
    else
      let next := (best.getD start {}).next
      let line := (words.extract start next).toList
      (w.line s headIndent indent line).paragraph s headIndent words best n (max next (start + 1))
        other other

structure Reader where
  current : Line
  rest : List (List Char)
  ended : Bool
  writer : Writer := {}
  other : Nat := 0

namespace Reader

def advance (r : Reader) (s : Setup) : Reader :=
  let (line, tabs) := startLine s r.rest.head?
  { r with current := line, rest := r.rest.tail
           writer := { r.writer with tabs := r.writer.tabs || tabs } }

def continues (r : Reader) (s : Setup) (headIndent : Nat) : Bool :=
  r.current.headIndent = headIndent && r.current.headIndent + s.fullLength ≤ r.current.column &&
    r.current.text.any (!·.isEmpty)

def take (r : Reader) (s : Setup) (words : Array Word) : Reader × Array Word :=
  let cs := r.current.text.getD []
  let last := r.rest.isEmpty && !r.ended
  (r.advance s, wordsOf s.uniform last (cs.length + 1) cs r.current.column words)

def takeAll (s : Setup) (headIndent : Nat) : Nat → Reader → Array Word → Reader × Array Word
  | 0, r, words => (r, words)
  | n + 1, r, words =>
    if r.continues s headIndent && r.current.column = r.other then
      let (r, words) := r.take s words
      takeAll s headIndent n r words
    else (r, words)

def copy (r : Reader) (s : Setup) : Reader :=
  let line := r.current
  let cs := line.text.getD []
  let w := { r.writer with column := 0 }
  let w := if line.headIndent < line.column || !cs.isEmpty then
      let w := w.space line.headIndent
      let shown := s.head.toList.take (line.column - w.column)
      let w := w.put (String.ofList shown)
      if cs.isEmpty then w else w.spaceTo line.column
    else w
  let w := w.put (String.ofList cs)
  let lastUnended := r.rest.isEmpty && !r.ended
  let w := if lastUnended then w else w.newline
  { r with writer := w }.advance s

/-- How far the lines after the first one are indented. -/
def otherIndent (s : Setup) (r : Reader) (first : Nat) (same : Bool) : Nat :=
  if s.split then first
  else if s.crown then if same then r.current.column else first
  else if s.tagged then
    if same && r.current.column ≠ first then r.current.column
    else if r.other = first then if first = 0 then 3 else 0
    else r.other
  else first

def paragraph (r : Reader) (s : Setup) : Reader :=
  let headIndent := r.current.headIndent
  let first := r.current.column
  let bound := r.rest.length + 1
  let (r, words) := r.take s #[]
  let same := r.continues s headIndent
  let r := { r with other := otherIndent s r first same }
  let (r, words) :=
    if s.split then (r, words)
    else if s.crown || s.tagged then
      if same && (s.crown || r.current.column ≠ first) then
        let (r, words) := r.take s words
        takeAll s headIndent bound r words
      else (r, words)
    else takeAll s headIndent bound r words
  let words := words.modify (words.size - 1) ({ · with period := true, final := true })
  let best := plan s.widths words first r.other
  { r with writer := r.writer.paragraph s headIndent words best (words.size + 1) 0 first r.other }

def run (s : Setup) : Nat → Reader → Reader
  | 0, r => r
  | n + 1, r =>
    match r.current.text with
    | none => r
    | some cs =>
      let isText := !cs.isEmpty && s.leadSpace ≤ r.current.headIndent &&
        r.current.headIndent + s.fullLength ≤ r.current.column
      run s n (if isText then r.paragraph s else r.copy s)

end Reader

def arrange (s : Setup) (text : String) : String :=
  let rec lines : List Char → List Char → List (List Char)
    | [], [] => []
    | [], line => [line.reverse]
    | '\n' :: cs, line => line.reverse :: lines cs []
    | c :: cs, line => lines cs (c :: line)
  let all := lines text.toList []
  let start : Reader :=
    { current := { headIndent := 0, column := 0, text := none }, rest := all
      ended := text.isEmpty || text.toList.getLast? = some '\n' }
  let r := Reader.run s (all.length + 1) (start.advance s)
  String.join r.writer.text.reverse

def widthLimit : Nat := 2500

def readWidth (text : String) : Tool Nat := do
  match readCount "" text with
  | .ok n =>
    if widthLimit < n then
      fail 1 ("invalid width: " ++ cited text ++ ": Numerical result out of range")
    return n
  | .error .tooLarge =>
    fail 1 ("invalid width: " ++ cited text ++ ": Numerical result out of range")
  | .error .invalid => fail 1 ("invalid width: " ++ cited text)

def main (args : List String) : Tool Nat := do
  let args := match args with
    | first :: rest =>
      match first.toList with
      | '-' :: c :: cs => if c.isDigit then ["-w", String.ofList (c :: cs)] ++ rest else args
      | _ => args
    | [] => args
  -- A width without a letter has to come first.
  for arg in args.takeWhile (· ≠ "--") do
    match arg.toList with
    | '-' :: c :: _ =>
      if c.isDigit then
        failWithHelp 1 ("invalid option -- " ++ c.toString ++
          "; -WIDTH is recognized only when it is the first\noption; use -w N instead")
    | _ => pure ()
  let (found, operands) ← options
    { short := "ctsuw:p:g:"
      long := OptionTable.plain
        [("crown-margin", "c"), ("tagged-paragraph", "t"), ("split-only", "s"),
          ("uniform-spacing", "u")] ++
        OptionTable.valued [("width", "w"), ("prefix", "p"), ("goal", "g")] } args
  let width? ← match found.value? "w" with
    | none => pure none
    | some text => some <$> readWidth text
  let widths : Widths ← match found.value? "g" with
    | none =>
      let width := width?.getD 75
      pure { width, goal := width * 187 / 200 }
    | some text =>
      match readCount "" text with
      | .ok goal =>
        let width := width?.getD (goal + 10)
        if width?.getD 75 < goal then
          fail 1 ("invalid width: " ++ cited text ++ ": Numerical result out of range")
        pure { width, goal }
      | .error _ => fail 1 ("invalid width: " ++ cited text)
  let given := ((found.value? "p").getD "").toList
  let body := given.dropWhile (· = ' ')
  let head := (body.reverse.dropWhile (· = ' ')).reverse
  let setup : Setup :=
    { widths, crown := found.has "c", tagged := found.has "t", split := found.has "s"
      uniform := found.has "u", head := String.ofList head
      leadSpace := given.length - body.length, fullLength := body.length }
  let mut status := 0
  for operand in (if operands.isEmpty then ["-"] else operands) do
    match ← contentsOf operand with
    | .ok bytes => say (arrange setup (Octet.ofBytes bytes))
    | .error fault =>
      complain ((if fault = .isDirectory then "read error: "
        else "cannot open " ++ quoted operand ++ " for reading: ") ++ fault.describe)
      status := 1
  return status

end RegisterLang.Tool.Paragraph
