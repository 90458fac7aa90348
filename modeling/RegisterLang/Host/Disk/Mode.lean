import RegisterLang.Disk.Node

namespace RegisterLang.Mode

def everything : Nat := 4095

def except (bits : Nat) : Nat := everything - (everything &&& bits)

inductive Source where
  | bits (value : Nat)
  | bitsAndSearch (value : Nat)
  | copy (classBits : Nat)

structure Clause where
  who : Nat
  sign : Char
  source : Source

def classBits : Char → Nat
  | 'u' => 2496
  | 'g' => 1080
  | 'o' => 519
  | _ => everything

def letterBits? : Char → Option Nat
  | 'r' => some 292
  | 'w' => some 146
  | 'x' => some 73
  | 's' => some 3072
  | 't' => some 512
  | _ => none

def readSource (cs : List Char) : Source × List Char :=
  match cs with
  | 'u' :: rest => (.copy 448, rest)
  | 'g' :: rest => (.copy 56, rest)
  | 'o' :: rest => (.copy 7, rest)
  | _ =>
    let letters := cs.takeWhile fun c ↦ c = 'X' || (letterBits? c).isSome
    let value := letters.foldl (fun v c ↦ v ||| (letterBits? c).getD 0) 0
    (if letters.contains 'X' then .bitsAndSearch value else .bits value, cs.drop letters.length)

def readChanges (who : Nat) : Nat → List Char → Option (List Clause)
  | 0, _ => none
  | _ + 1, [] => some []
  | n + 1, sign :: rest =>
    if sign = '+' || sign = '-' || sign = '=' then
      let (source, rest) := readSource rest
      (readChanges who n rest).map (⟨who, sign, source⟩ :: ·)
    else none

def octal? (text : String) : Option Nat :=
  if text.isEmpty then none
  else text.toList.foldlM (fun n c ↦
    if '0' ≤ c && c ≤ '7' then some (n * 8 + (c.toNat - '0'.toNat)) else none) 0

def readClause (cs : List Char) : Option (List Clause) :=
  let users := cs.takeWhile fun c ↦ "ugoa".toList.contains c
  let who := users.foldl (fun w c ↦ w ||| classBits c) 0
  match cs.drop users.length with
  | [] => none
  | sign :: rest =>
    match if users.isEmpty then octal? (String.ofList rest) else none with
    | some n =>
      if n ≤ everything && (sign = '+' || sign = '-' || sign = '=') then
        some [⟨everything, sign, .bits n⟩]
      else none
    | none => readChanges who (rest.length + 2) (sign :: rest)

/-- A mode as a number, or what is to be changed about one. -/
inductive Change where
  | absolute (mode : Nat) (complete : Bool)
  | clauses (list : List Clause)

def Change.parse? (text : String) : Option Change :=
  match octal? text with
  | some n => if n ≤ everything then some (.absolute n (4 < text.length)) else none
  | none =>
    if text.toList.head?.any Char.isDigit then none
    else
      (text.splitOn ",").foldlM (fun list clause ↦
        (readClause clause.toList).map (list ++ ·)) [] |>.map .clauses

/-- Carries out one clause on a mode. Where nobody in particular is meant, the mask holds bits
back. A directory keeps its special bits unless they are named. -/
def Clause.apply (c : Clause) (mask : Nat) (isDirectory : Bool) (mode : Nat) : Nat :=
  let spread (bit : Nat) (value : Nat) : Nat := if value &&& bit = 0 then 0 else bit
  let value := match c.source with
    | .bits v => v
    | .bitsAndSearch v => if isDirectory || mode &&& 73 ≠ 0 then v ||| 73 else v
    | .copy bits =>
      let v := mode &&& bits
      spread 292 v ||| spread 146 v ||| spread 73 v
  let mentioned := if c.who = 0 then value else c.who &&& value
  let kept := if isDirectory then 3072 &&& except mentioned else 0
  let value := value &&& (if c.who = 0 then except mask else c.who) &&& except kept
  match c.sign with
  | '+' => mode ||| value
  | '-' => mode &&& except value
  | _ => (mode &&& ((if c.who = 0 then 0 else except c.who) ||| kept)) ||| value

def Change.apply (change : Change) (mask : Nat) (isDirectory : Bool) (mode : Nat) : Nat :=
  match change with
  | .absolute new complete =>
    if isDirectory && !complete then new ||| (mode &&& 3072) else new
  | .clauses list => list.foldl (fun m c ↦ c.apply mask isDirectory m) mode

end RegisterLang.Mode
