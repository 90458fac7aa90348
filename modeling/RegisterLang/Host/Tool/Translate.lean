import RegisterLang.Host.Shell.Pattern
import RegisterLang.Host.Tool.Options

namespace RegisterLang.Tool.Translate

/-- A part of a set: single characters, ranges, classes and repetitions. -/
inductive Element where
  | char (c : Char)
  | range (low high : Char)
  | named (name : String)
  | repeated (c : Char) (count : Nat)
  deriving DecidableEq, Repr

/-- A character, and whether it stands for itself without a backslash. -/
structure Sign where
  char : Char
  plain : Bool
  deriving DecidableEq, Repr

def escape (cs : List Char) : Char × List Char × Option String :=
  let octal (c : Char) : Bool := '0' ≤ c && c ≤ '7'
  match cs with
  | [] => ('\\', [], some "warning: an unescaped backslash at end of string is not portable")
  | c :: rest =>
    if octal c then
      let digits := cs.take 3 |>.takeWhile octal
      let value (ds : List Char) : Nat := ds.foldl (fun n d ↦ n * 8 + (d.toNat - '0'.toNat)) 0
      if value digits < 256 then (Char.ofNat (value digits), cs.drop digits.length, none)
      else
        let two := digits.take 2
        let last := (digits.drop 2).headD '0'
        (Char.ofNat (value two), cs.drop 2,
          some ("warning: the ambiguous octal escape \\" ++ String.ofList digits ++
            " is being\n\tinterpreted as the 2-byte sequence \\0" ++ String.ofList two ++ ", " ++
            last.toString))
    else
      let char := match c with
        | 'a' => '\x07'
        | 'b' => '\x08'
        | 'f' => '\x0c'
        | 'n' => '\n'
        | 'r' => '\r'
        | 't' => '\t'
        | 'v' => '\x0b'
        | _ => c
      (char, rest, none)

def signs : Nat → List Char → List Sign × List String
  | 0, _ => ([], [])
  | _ + 1, [] => ([], [])
  | n + 1, '\\' :: cs =>
    let (c, rest, warning) := escape cs
    let (more, warnings) := signs n rest
    (⟨c, false⟩ :: more, warning.toList ++ warnings)
  | n + 1, c :: cs =>
    let (more, warnings) := signs n cs
    (⟨c, true⟩ :: more, warnings)

def Sign.is (s : Sign) (c : Char) : Bool := s.plain && s.char = c

def upTo (mark : Char) (sofar : List Sign) : List Sign → Option (List Sign × List Sign)
  | a :: b :: rest =>
    if a.is mark && b.is ']' then some (sofar.reverse, rest) else upTo mark (a :: sofar) (b :: rest)
  | _ => none

def text (signs : List Sign) : String := String.ofList (signs.map Sign.char)

def repeatCount? (digits : String) : Option Nat :=
  match digits.toList with
  | [] => some 0
  | '0' :: rest =>
    rest.foldlM (fun n c ↦
      if '0' ≤ c && c ≤ '7' then some (n * 8 + (c.toNat - '0'.toNat)) else none)
      0
  | cs => if cs.all Char.isDigit then (String.ofList cs).toNat? else none

def bracket? (ss : List Sign) : Except String (Option (Element × List Sign)) :=
  match ss with
  | s :: rest =>
    if s.is ':' || s.is '=' then
      match upTo s.char [] rest with
      | none => .ok none
      | some (inside, after) =>
        if inside.isEmpty then
          if s.char = ':' then .error "missing character class name '[::]'"
          else .error "missing equivalence class character '[==]'"
        else if s.char = ':' then
          if (Shell.Pattern.namedSet? (text inside)).isSome then
            .ok (some (.named (text inside), after))
          else .error ("invalid character class " ++ cited (text inside))
        else
          match inside with
          | [only] => .ok (some (.char only.char, after))
          | _ => .error (text inside ++ ": equivalence class operand must be a single character")
    else
      match rest with
      | star :: more =>
        if star.is '*' then
          let digits := more.takeWhile fun d ↦ !d.is ']'
          match more.drop digits.length with
          | _ :: after =>
            match repeatCount? (text digits) with
            | some n => .ok (some (.repeated s.char n, after))
            | none =>
              .error ("invalid repeat count " ++ cited (text digits) ++ " in [c*n] construct")
          | [] => .ok none
        else .ok none
      | [] => .ok none
  | [] => .ok none

def elements : Nat → List Sign → Except String (List Element)
  | 0, _ => .ok []
  | _ + 1, [] => .ok []
  | n + 1, s :: rest => do
    let found ← if s.is '[' then bracket? rest else .ok none
    match found with
    | some (e, after) => return e :: (← elements n after)
    | none =>
      match rest with
      | dash :: high :: after =>
        if dash.is '-' then
          if high.char < s.char then
            .error ("range-endpoints of '" ++ shown s ++ "-" ++ shown high ++
              "' are in reverse collating sequence order")
          else return .range s.char high.char :: (← elements n after)
        else return .char s.char :: (← elements n rest)
      | _ => return .char s.char :: (← elements n rest)
where
  shown (s : Sign) : String := (spelling? s.char).getD s.char.toString

def members : Element → List Char
  | .char c => [c]
  | .range low high =>
    (List.range (high.toNat + 1 - low.toNat)).map fun i ↦ Char.ofNat (low.toNat + i)
  | .named name =>
    ((List.range 256).map Char.ofNat).filter ((Shell.Pattern.namedSet? name).getD fun _ ↦ false)
  | .repeated c n => List.replicate n c

/-- The members of a set. A repetition without a count fills up a length. -/
def expand (length : Nat) (es : List Element) : List Char :=
  let fixed := (es.flatMap members).length
  es.flatMap fun e ↦
    match e with
    | .repeated c 0 => List.replicate (length - fixed) c
    | _ => members e

def isCase : Element → Bool
  | .named "upper" | .named "lower" => true
  | _ => false

def caseStarts (length : Nat) (es : List Element) : List Nat :=
  let fixed := (es.flatMap members).length
  let size (e : Element) : Nat :=
    match e with
    | .repeated _ 0 => length - fixed
    | _ => (members e).length
  (es.foldl (fun (starts, place) e ↦
    (if isCase e then place :: starts else starts, place + size e)) ([], 0)).1

def isNamed : Element → Bool
  | .named _ => true
  | _ => false

def isEndless : Element → Bool
  | .repeated _ 0 => true
  | _ => false

def table : OptionTable :=
  { short := "AcCdst"
    long := OptionTable.plain
      [("complement", "c"), ("delete", "d"), ("squeeze-repeats", "s"), ("truncate-set1", "t")]
    ordered := true }

def readSet (operand : String) : Tool (List Element) := do
  let (ss, warnings) := signs (operand.length + 1) operand.toList
  for warning in warnings do complain warning
  match elements (ss.length + 1) ss with
  | .ok es => return es
  | .error message => fail 1 message

structure Work where
  images : Array (Option UInt8)
  squeezed : Array Bool

def Work.run (w : Work) (last : Option UInt8) (block : ByteArray) : ByteArray × Option UInt8 :=
  block.foldl (fun (out, last) b ↦
    match (w.images[b.toNat]?).join with
    | none => (out, last)
    | some c =>
      if last = some c && (w.squeezed[c.toNat]?).getD false then (out, last)
      else (out.push c, some c)) (.empty, last)

def work (images : Char → Option Char) (squeezed : Char → Bool) : Work :=
  { images := ((List.range 256).map fun i ↦
      (images (Char.ofNat i)).map fun c ↦ UInt8.ofNat c.toNat).toArray
    squeezed := ((List.range 256).map fun i ↦ squeezed (Char.ofNat i)).toArray }

/-- Where characters go. Of several images the last one counts. -/
def translation (sources images : List Char) : Char → Option Char :=
  let pairs := (sources.zip images).reverse
  let map := ((List.range 256).map fun i ↦
    (pairs.lookup (Char.ofNat i)).getD (Char.ofNat i)).toArray
  fun c ↦ some ((map[c.toNat]?).getD c)

def plan (complement truncate : Bool) (set1 set2 : List Element) :
    Tool (List Char × List Char) := do
  let listed := expand 0 set1
  let sources := if complement then
      ((List.range 256).map Char.ofNat).filter (!listed.contains ·)
    else listed
  if set2.any fun e ↦ isNamed e && !isCase e then
    fail 1 ("when translating, the only character classes that may appear in\n" ++
      "string2 are 'upper' and 'lower'")
  let images := expand sources.length set2
  unless complement do
    let starts := caseStarts 0 set1
    if (caseStarts sources.length set2).any fun n ↦ !starts.contains n then
      fail 1 "misaligned [:upper:] and/or [:lower:] construct"
  if truncate then return (sources.take images.length, images)
  else if images.isEmpty then
    if sources.isEmpty then return ([], [])
    else fail 1 "when not truncating set1, string2 must be non-empty"
  else
    if images.length < sources.length && (set2.getLast?.any isNamed) then
      fail 1 ("when translating with string1 longer than string2,\n" ++
        "the latter string must not end with a character class")
    let filled := images ++ List.replicate (sources.length - images.length) (images.getLastD ' ')
    if complement && set1.any isNamed && filled.any (· ≠ filled.headD ' ') then
      fail 1 ("when translating with complemented character classes,\n" ++
        "string2 must map all characters in the domain to one")
    return (sources, filled)

def main (args : List String) : Tool Nat := do
  let (found, operands) ← options table args
  let complement := found.has "c" || found.has "C"
  let deletes := found.has "d"
  let squeezes := found.has "s"
  let least := if deletes = squeezes then 2 else 1
  let most := if deletes && !squeezes then 1 else 2
  if operands.isEmpty then missingOperand
  if operands.length < least then
    failWithHelp 1 ("missing operand after " ++ cited (operands.getLastD "") ++
      (if squeezes then "\nTwo strings must be given when both deleting and squeezing repeats."
      else "\nTwo strings must be given when translating."))
  if let some extra := operands[most]? then
    failWithHelp 1 ("extra operand " ++ cited extra ++
      (if operands.length = 2 then
        "\nOnly one string may be given when deleting without squeezing repeats." else ""))
  let set1 ← readSet (operands.headD "")
  let set2 ← match operands[1]? with
    | some operand => readSet operand
    | none => pure []
  let translates := operands.length = 2 && !deletes
  if set1.any isEndless then fail 1 "the [c*] repeat construct may not appear in string1"
  if set2.countP isEndless > 1 then
    fail 1 "only one [c*] repeat construct may appear in string2"
  if set2.any isEndless && !translates then
    fail 1 "the [c*] construct may appear in string2 only when translating"
  let listed := expand 0 set1
  let chosen (c : Char) : Bool := listed.contains c != complement
  let w ← if translates then do
      let (sources, images) ← plan complement (found.has "t") set1 set2
      pure (work (translation sources images) fun c ↦ squeezes && images.contains c)
    else if deletes then
      let second := expand 0 set2
      pure (work (fun c ↦ if chosen c then none else some c) fun c ↦ squeezes && second.contains c)
    else pure (work some chosen)
  readFrom 0
  iterate (fun last ↦ do
    match ← nextBlock with
    | .error fault => fail 1 ("read error: " ++ fault.describe)
    | .ok block =>
      if block.isEmpty then return .inr 0
      else
        let (out, last) := w.run last block
        put out
        return .inl last) none

end RegisterLang.Tool.Translate
