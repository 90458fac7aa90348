import RegisterLang.Host.Text.Calendar
import RegisterLang.Host.Text.Octet
import RegisterLang.Host.Tool.Record.Value

namespace RegisterLang.Tool.Record

/-- What stands between the parts of a text. -/
inductive Separator where
  | blanks
  | nothing
  | octet (c : Char)
  | pattern (m : Regex.Matcher)

def isBlank (c : Char) : Bool := c = ' ' || c = '\t' || c = '\n'

def blankParts : Nat → List Char → List String
  | 0, _ => []
  | n + 1, cs =>
    let cs := cs.dropWhile isBlank
    if cs.isEmpty then []
    else
      let part := cs.takeWhile (!isBlank ·)
      String.ofList part :: blankParts n (cs.drop part.length)

def solidMatch? (m : Regex.Matcher) (bytes : ByteArray) : Nat → Nat → Option Regex.Match
  | 0, _ => none
  | n + 1, start =>
    match m.search { text := bytes } false start with
    | none => none
    | some found =>
      if found.start < found.finish then some found else solidMatch? m bytes n (found.start + 1)

def patternParts (m : Regex.Matcher) (bytes : ByteArray) : Nat → Nat → List String
  | 0, _ => []
  | n + 1, start =>
    match solidMatch? m bytes (bytes.size + 1) start with
    | none => [Octet.ofBytes (bytes.extract start bytes.size)]
    | some found =>
      Octet.ofBytes (bytes.extract start found.start) :: patternParts m bytes n found.finish

def octetParts (mark : Char) : List Char → List Char → List String
  | [], part => [String.ofList part.reverse]
  | c :: cs, part =>
    if c = mark then String.ofList part.reverse :: octetParts mark cs []
    else octetParts mark cs (c :: part)

def partsOf (s : Separator) (text : String) : List String :=
  if text.isEmpty then []
  else
    match s with
    | .blanks => blankParts (text.length + 1) text.toList
    | .nothing => text.toList.map Char.toString
    | .octet c => octetParts c text.toList []
    | .pattern m =>
      let bytes := Octet.toBytes text
      patternParts m bytes (bytes.size + 1) 0

abbrev Replacement := List (Option String)

/-- Reads a replacement. An ampersand stands for what has been matched, unless an odd number of
backslashes precedes it; of the backslashes before an ampersand one half stays. -/
def readReplacement : Nat → List Char → List Char → Replacement
  | 0, _, done => [some (String.ofList done.reverse)]
  | _ + 1, [], done => [some (String.ofList done.reverse)]
  | n + 1, c :: cs, done =>
    if c = '&' then some (String.ofList done.reverse) :: none :: readReplacement n cs []
    else if c = '\\' then
      let slashes := (c :: cs).takeWhile (· = '\\')
      let rest := (c :: cs).drop slashes.length
      match rest with
      | '&' :: after =>
        let done := List.replicate (slashes.length / 2) '\\' ++ done
        if slashes.length % 2 = 1 then readReplacement n after ('&' :: done)
        else readReplacement n rest done
      | _ => readReplacement n rest (slashes ++ done)
    else readReplacement n cs (c :: done)

def fillIn (r : Replacement) (found : ByteArray) : ByteArray :=
  r.foldl (fun bytes part ↦ bytes ++ (match part with
    | some text => Octet.toBytes text
    | none => found)) .empty

def replaceAll (m : Regex.Matcher) (r : Replacement) (bytes : ByteArray) :
    Nat → (start : Nat) → (fresh : Bool) → ByteArray → Nat → ByteArray × Nat
  | 0, _, _, done, count => (done, count)
  | n + 1, start, fresh, done, count =>
    match m.search { text := bytes } false start with
    | none => (done ++ bytes.extract start bytes.size, count)
    | some found =>
      if found.start = found.finish then
        let next := found.start + 1
        let before := done ++ bytes.extract start found.start
        let after := bytes.extract found.start next
        if found.start = start && !fresh then
          -- The octet after the last match is kept, and the search goes on behind it.
          if bytes.size ≤ start then (done, count)
          else replaceAll m r bytes n next true (before ++ after) count
        else
          let done := before ++ fillIn r .empty ++ after
          if bytes.size ≤ found.start then (done, count + 1)
          else replaceAll m r bytes n next true done (count + 1)
      else
        let text := bytes.extract found.start found.finish
        replaceAll m r bytes n found.finish false
          (done ++ bytes.extract start found.start ++ fillIn r text) (count + 1)

def replace (m : Regex.Matcher) (replacement text : String) (all : Bool) : String × Nat :=
  let r := readReplacement (replacement.length + 1) replacement.toList []
  let bytes := Octet.toBytes text
  if all then
    let (bytes, count) := replaceAll m r bytes (bytes.size + 2) 0 true .empty 0
    (Octet.ofBytes bytes, count)
  else
    match m.search { text := bytes } with
    | none => (text, 0)
    | some found =>
      (Octet.ofBytes (bytes.extract 0 found.start ++
        fillIn r (bytes.extract found.start found.finish) ++
        bytes.extract found.finish bytes.size), 1)

def narrow (x : Float) : Int :=
  let n : Int := match Real.Value.ofFloat x with
    | .finite negative a b => if negative then -Int.ofNat (a / b) else a / b
    | _ => -2147483648
  wrap n
where
  wrap (n : Int) : Int := (n + 2147483648) % 4294967296 - 2147483648

def excerpt (text : String) (start : Float) (length : Option Float) : String :=
  let first := narrow start
  let cs := text.toList
  match length with
  | none => String.ofList (cs.drop (first - 1).toNat)
  | some length =>
    let length := narrow length
    let (first, length) := if first < 1 then (1, narrow.wrap (length - first)) else (first, length)
    String.ofList ((cs.drop (first - 1).toNat).take length.toNat)

def indexOf (part : List Char) : Nat → List Char → Nat
  | _, [] => if part.isEmpty then 1 else 0
  | i, c :: cs => if part.isPrefixOf (c :: cs) then i else indexOf part (i + 1) cs

def remainder (x y : Float) : Float :=
  match Real.Value.ofFloat x, Real.Value.ofFloat y with
  | .finite negative a b, .finite _ c d =>
    if c = 0 then 0.0 / 0.0
    else (Real.Value.finite negative (a * d % (c * b)) (b * d)).toFloat
  | .finite _ _ _, .infinite _ => x
  | _, _ => 0.0 / 0.0

def secondsOf? (text : String) : Option Int :=
  let numbers := (blankParts (text.length + 1) text.toList).map fun part ↦
    let (negative, digits) := match part.toList with
      | '-' :: rest => (true, rest)
      | cs => (false, cs)
    if digits.isEmpty || !digits.all Char.isDigit then none
    else
      let n : Int := Real.readDigits 10 digits
      some (if negative then -n else n)
  match numbers with
  | some year :: some month :: some day :: some hour :: some minute :: some second :: _ =>
    let months := 12 * year + month - 1
    let days := Calendar.dayNumber (months / 12) (months % 12 + 1) 1 + day - 1
    some (86400 * days + 3600 * hour + 60 * minute + second)
  | _ => none

end RegisterLang.Tool.Record
