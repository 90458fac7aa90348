import RegisterLang.Text.Blank
import RegisterLang.Host.Tool.Options

namespace RegisterLang.Tool.Dump

inductive Kind where
  | name
  | char
  | signed
  | unsigned
  | octal
  | hex
  | real
  deriving DecidableEq, Repr

/-- How bytes are shown: as what, how many at a time, and with their characters. -/
structure Spec where
  kind : Kind
  size : Nat := 1
  trailer : Bool := false

namespace Spec

def width (s : Spec) : Nat :=
  match s.kind, s.size with
  | .name, _ | .char, _ => 3
  | .signed, 1 => 4
  | .signed, 2 => 6
  | .signed, 4 => 11
  | .signed, _ => 20
  | .unsigned, 1 => 3
  | .unsigned, 2 => 5
  | .unsigned, 4 => 10
  | .unsigned, _ => 20
  | .octal, 1 => 3
  | .octal, 2 => 6
  | .octal, 4 => 11
  | .octal, _ => 22
  | .hex, n => 2 * n
  | .real, 4 => 15
  | .real, 8 => 24
  | .real, _ => 29

end Spec

def names : List String :=
  ["nul", "soh", "stx", "etx", "eot", "enq", "ack", "bel", "bs", "ht", "nl", "vt", "ff", "cr", "so",
    "si", "dle", "dc1", "dc2", "dc3", "dc4", "nak", "syn", "etb", "can", "em", "sub", "esc", "fs",
    "gs", "rs", "us", "sp"]

def octal (width n : Nat) : String := Text.padLeft width '0' (String.ofList (Nat.toDigits 8 n))

def charText (n : Nat) : String :=
  match n with
  | 0 => "\\0"
  | 7 => "\\a"
  | 8 => "\\b"
  | 9 => "\\t"
  | 10 => "\\n"
  | 11 => "\\v"
  | 12 => "\\f"
  | 13 => "\\r"
  | n => if 32 ≤ n && n < 127 then (Char.ofNat n).toString else octal 3 n

def single : Real.Format := { digits := 24, lowest := -149, highest := 104 }

def realValue (fractionBits exponentBits bits : Nat) : Real.Value :=
  let fraction := bits % Real.power 2 fractionBits
  let exponent := bits / Real.power 2 fractionBits % Real.power 2 exponentBits
  let negative := bits / Real.power 2 (fractionBits + exponentBits) = 1
  let top := Real.power 2 exponentBits - 1
  let bias : Int := Real.power 2 (exponentBits - 1) - 1
  if exponent = top then if fraction = 0 then .infinite negative else .undefined negative
  else
    let (m, e) : Nat × Int := if exponent = 0 then (fraction, 1 - bias - fractionBits)
      else (fraction + Real.power 2 fractionBits, exponent - bias - fractionBits)
    let (a, b) := Real.scaled m 1 e
    .finite negative a b

/-- The shortest decimal that is read back as the same number. -/
def shortest (f : Real.Format) (start : Nat) (v : Real.Value) : String :=
  let text (places : Nat) : String :=
    (if v.isNegative then "-" else "") ++ Real.unsigned f 'g' (some places) false v
  let readsBack (places : Nat) : Bool :=
    match Real.read? (text places).toList with
    | some (w, _) =>
      let w := w.roundTo f
      !w.less v && !v.less w
    | none => true
  text (((List.range 20).map (· + start)).find? readsBack |>.getD 17)

def valueOf (bytes : List UInt8) : Nat := bytes.reverse.foldl (fun n b ↦ n * 256 + b.toNat) 0

def field (s : Spec) (bytes : List UInt8) : String :=
  let n := valueOf bytes
  match s.kind with
  | .name =>
    let n := n % 128
    if n = 127 then "del" else (names[n]?).getD (Char.ofNat n).toString
  | .char => charText n
  | .signed =>
    let half := Real.power 2 (8 * s.size - 1)
    toString (if n < half then (n : Int) else (n : Int) - 2 * half)
  | .unsigned => toString n
  | .octal => octal s.width n
  | .hex => Text.padLeft s.width '0' (String.ofList (Nat.toDigits 16 n))
  | .real =>
    if s.size = 4 then
      let v := realValue 23 8 n
      shortest single (if v.less (.finite false 1 (Real.power 2 126)) then 1 else 6) v
    else
      let v := realValue 52 11 n
      shortest Real.double 15 v

structure Request where
  specs : List Spec := []
  base : Option Nat := some 8
  addressWidth : Nat := 7
  block : Nat := 16
  repeats : Bool := false

namespace Request

def address (r : Request) (n : Nat) : String :=
  match r.base with
  | none => ""
  | some base => Text.padLeft r.addressWidth '0' (String.ofList (Nat.toDigits base n))

def blockWidth (r : Request) : Nat :=
  (r.specs.map fun s ↦ (s.width + 1) * (r.block / s.size)).foldl max 0

def chunks (size : Nat) : Nat → List UInt8 → List (List UInt8)
  | 0, _ => []
  | _ + 1, [] => []
  | n + 1, bytes => bytes.take size :: chunks size n (bytes.drop size)

def specLine (r : Request) (s : Spec) (bytes : List UInt8) : String :=
  let fields := r.block / s.size
  let pad := r.blockWidth - s.width * fields
  let parts := chunks s.size (bytes.length + 1) bytes
  let texts := parts.zipIdx.map fun (part, i) ↦
    let left := fields - i
    let width := pad * left / fields - pad * (left - 1) / fields + s.width
    Text.padLeft width ' ' (field s part)
  let missing := (r.block - bytes.length) / s.size
  let trailer := if s.trailer then
      String.ofList (List.replicate (missing * s.width + pad * missing / fields) ' ') ++ "  >" ++
        String.ofList (bytes.map fun b ↦
          if 32 ≤ b && b < 127 then Char.ofNat b.toNat else '.') ++ "<"
    else ""
  String.join texts ++ trailer

def blockText (r : Request) (start : Nat) (bytes : List UInt8) : String :=
  let indent := if r.base.isSome then String.ofList (List.replicate r.addressWidth ' ') else ""
  String.join (r.specs.zipIdx.map fun (s, i) ↦
    (if i = 0 then r.address start else indent) ++ r.specLine s bytes ++ "\n")

/-- All blocks as lines. A full block like the one before it is only hinted at. -/
def blocks (r : Request) : Nat → Nat → Option (List UInt8) → Bool → List UInt8 → List String
  | 0, _, _, _, _ => []
  | _ + 1, _, _, _, [] => []
  | n + 1, start, last, hinted, bytes =>
    let block := bytes.take r.block
    let rest := bytes.drop r.block
    if !r.repeats && last = some block && block.length = r.block then
      (if hinted then [] else ["*\n"]) ++ blocks r n (start + r.block) last true rest
    else r.blockText start block :: blocks r n (start + r.block) (some block) false rest

end Request

def sizeOf (isReal : Bool) (cs : List Char) : Nat × List Char :=
  let digits := cs.takeWhile Char.isDigit
  if !digits.isEmpty then (Real.readDigits 10 digits, cs.drop digits.length)
  else
    match isReal, cs with
    | false, 'C' :: rest => (1, rest)
    | false, 'S' :: rest => (2, rest)
    | false, 'I' :: rest => (4, rest)
    | false, 'L' :: rest => (8, rest)
    | true, 'F' :: rest => (4, rest)
    | true, 'D' :: rest => (8, rest)
    | true, 'L' :: rest => (16, rest)
    | true, _ => (8, cs)
    | false, _ => (4, cs)

/-- Reads what `-t` gives: letters with sizes. -/
def readTypes (whole : String) : Nat → List Char → Tool (List Spec)
  | 0, _ => return []
  | _ + 1, [] => return []
  | n + 1, c :: cs => do
    let kind? : Option Kind := match c with
      | 'a' => some .name
      | 'c' => some .char
      | 'd' => some .signed
      | 'u' => some .unsigned
      | 'o' => some .octal
      | 'x' => some .hex
      | 'f' => some .real
      | _ => none
    match kind? with
    | none =>
      fail 1 ("invalid character '" ++ c.toString ++ "' in type string " ++ cited whole)
    | some kind =>
      let (size, rest) := if kind = .name || kind = .char then (1, cs)
        else sizeOf (kind = .real) cs
      let allowed := if kind = .real then [4, 8, 16] else [1, 2, 4, 8]
      unless allowed.contains size do
        fail 1 ("invalid type string " ++ cited whole ++ ";\nthis system doesn't provide a " ++
          toString size ++ "-byte " ++ (if kind = .real then "floating point" else "integral") ++
          " type")
      let (trailer, rest) := match rest with
        | 'z' :: rest => (true, rest)
        | _ => (false, rest)
      return { kind, size, trailer } :: (← readTypes whole n rest)

def shortType? : String → Option String
  | "a" => some "a"
  | "b" => some "o1"
  | "c" => some "c"
  | "d" => some "u2"
  | "f" => some "fF"
  | "i" => some "dI"
  | "l" => some "dL"
  | "o" => some "o2"
  | "s" => some "d2"
  | "x" | "h" => some "x2"
  | "B" => some "o2"
  | "O" => some "o4"
  | "X" | "H" => some "x4"
  | "D" => some "u4"
  | "I" | "L" => some "dL"
  | "e" | "F" => some "fD"
  | _ => none

def readNumber? (text : String) : Option Nat :=
  match text.toList with
  | '0' :: 'x' :: digits | '0' :: 'X' :: digits =>
    if !digits.isEmpty && digits.all fun c ↦ (Real.digitValue? c).any (· < 16) then
      some (Real.readDigits 16 digits)
    else none
  | '0' :: digits =>
    if digits.all fun c ↦ '0' ≤ c && c ≤ '7' then some (Real.readDigits 8 digits)
    else (readCount usualSuffixes text).toOption
  | _ => (readCount usualSuffixes text).toOption

def oldOffset? (text : String) : Option Nat :=
  let cs := match text.toList with
    | '+' :: rest => rest
    | cs => cs
  let (cs, factor) := if cs.getLast? = some 'b' then (cs.dropLast, 512) else (cs, 1)
  let (cs, base) := match cs with
    | '0' :: 'x' :: rest | 'x' :: rest => (rest, 16)
    | _ => if cs.getLast? = some '.' then (cs.dropLast, 10) else (cs, 8)
  if cs.isEmpty || !cs.all fun c ↦ (Real.digitValue? c).any (· < base) then none
  else some (Real.readDigits base cs * factor)

def table : OptionTable :=
  { short := "A:aBbcDdeFfHhIij:LlN:OoS:st:vw::Xx"
    long := OptionTable.plain [("output-duplicates", "v"), ("traditional", "traditional")] ++
      OptionTable.valued
        [("skip-bytes", "j"), ("address-radix", "A"), ("read-bytes", "N"), ("format", "t"),
          ("strings", "S")] ++
      [{ name := "width", key := "w", need := .maybe }] }

def main (args : List String) : Tool Nat := do
  let (found, operands) ← options table args
  let mut r : Request := {}
  let mut skip := 0
  let mut limit : Option Nat := none
  let mut width : Option Nat := none
  for (key, value) in found do
    let text := value.getD ""
    if let some type := shortType? key then
      r := { r with specs := r.specs ++ (← readTypes type (type.length + 1) type.toList) }
    else
      match key with
      | "t" => r := { r with specs := r.specs ++ (← readTypes text (text.length + 1) text.toList) }
      | "A" =>
        match text.toList.head? with
        | some 'd' => r := { r with base := some 10, addressWidth := 7 }
        | some 'o' => r := { r with base := some 8, addressWidth := 7 }
        | some 'x' => r := { r with base := some 16, addressWidth := 6 }
        | some 'n' => r := { r with base := none }
        | c =>
          fail 1 ("invalid output address radix '" ++ ((c.map Char.toString).getD "") ++
            "'; it must be one character from [doxn]")
      | "j" =>
        match readNumber? text with
        | some n => skip := n
        | none => fail 1 ("invalid -j argument " ++ cited text)
      | "N" =>
        match readNumber? text with
        | some n => limit := some n
        | none => fail 1 ("invalid -N argument " ++ cited text)
      | "v" => r := { r with repeats := true }
      | "w" =>
        match value with
        | none => width := some 32
        | some text =>
          match readNumber? text with
          | some n => width := some n
          | none => fail 1 ("invalid -w argument " ++ cited text)
      | _ => pure ()
  let isModern := ["A", "j", "N", "t", "v", "w"].any found.has
  let mut operands := operands
  if !isModern then
    match operands with
    | [a] =>
      if a.startsWith "+" then
        if let some n := oldOffset? a then
          skip := n
          operands := []
    | [a, b] =>
      if b.startsWith "+" || (b.toList.head?.any Char.isDigit) then
        if let some n := oldOffset? b then
          skip := n
          operands := [a]
    | _ => pure ()
  if r.specs.isEmpty then r := { r with specs := [{ kind := .octal, size := 2 }] }
  let unit := (r.specs.map Spec.size).foldl max 1
  match width with
  | none => pure ()
  | some n =>
    if n ≠ 0 && n % unit = 0 then r := { r with block := n }
    else
      complain ("warning: invalid width " ++ toString n ++ "; using " ++ toString unit ++
        " instead")
      r := { r with block := unit }
  let mut status := 0
  let mut bytes := ByteArray.empty
  let enough := limit.map (· + skip)
  for operand in (if operands.isEmpty then ["-"] else operands) do
    match ← openInput operand with
    | .error fault =>
      complain (quotedIfNeeded operand ++ ": " ++ fault.describe)
      status := 1
    | .ok () =>
      let start := bytes
      let result ← iterate (fun (sofar : ByteArray) ↦ do
        if enough.any (· ≤ sofar.size) then return .inr (sofar, none)
        let size := match enough with
          | some n => min blockSize (n - sofar.size)
          | none => blockSize
        match ← nextBlock size with
        | .error fault => return .inr (sofar, some fault)
        | .ok block =>
          return if block.isEmpty then .inr (sofar, none) else .inl (sofar ++ block)) start
      closeInput
      bytes := result.1
      if let some fault := result.2 then
        complain (quotedIfNeeded operand ++ ": " ++ fault.describe)
        status := 1
  if status = 1 && bytes.isEmpty then return 1
  if bytes.size < skip then fail 1 "cannot skip past end of combined input"
  let all := bytes.toList.drop skip
  let all := match limit with
    | some n => all.take n
    | none => all
  say (String.join (r.blocks (all.length + 1) skip none false all))
  if r.base.isSome then sayLine (r.address (skip + all.length))
  return status

end RegisterLang.Tool.Dump
