import RegisterLang.Host.Tool.Options

namespace RegisterLang.Tool.Convert

inductive Level where
  | nothing
  | records
  | all
  deriving DecidableEq, Repr

/-- An amount of blocks or of bytes. -/
structure Extent where
  count : Nat := 0
  inBytes : Bool := false

def Extent.bytes (e : Extent) (size : Nat) : Nat := if e.inBytes then e.count else e.count * size

structure Request where
  input : Option String := none
  output : Option String := none
  inSize : Nat := 512
  outSize : Nat := 512
  bothSize : Option Nat := none
  recordSize : Nat := 0
  limit : Option Extent := none
  skip : Extent := {}
  seek : Extent := {}
  conversions : List String := []
  inFlags : List String := []
  outFlags : List String := []
  level : Level := .all

def conversionNames : List String :=
  ["ascii", "ebcdic", "ibm", "block", "unblock", "lcase", "ucase", "sparse", "swab", "sync",
    "noerror", "nocreat", "excl", "notrunc", "fdatasync", "fsync"]

def flagNames : List String :=
  ["append", "binary", "direct", "directory", "dsync", "noatime", "nocache", "noctty", "nofollow",
    "nolinks", "nonblock", "sync", "text"]

def number (text : String) : Tool Extent := do
  let invalid {α : Type} : Tool α := fail 1 ("invalid number: " ++ cited text)
  let endsInB := text.toList.getLast? = some 'B' &&
    text.toList.dropLast.getLast?.any fun c ↦ c.isDigit
  let body := if endsInB then String.ofList text.toList.dropLast else text
  let mut product := 1
  for factor in body.splitOn "x" do
    if !(factor.toList.head?.any Char.isDigit) then invalid
    match readCount "bcEGkKMPQRTwYZ0" factor with
    | .ok n => product := product * n
    | .error .invalid => invalid
    | .error .tooLarge =>
      fail 1 ("invalid number: " ++ cited text ++ ": Value too large for defined data type")
  return { count := product, inBytes := endsInB }

def positive (text : String) : Tool Nat := do
  let e ← number text
  if e.count = 0 then fail 1 ("invalid number: " ++ cited text)
  return e.count

def words (known : List String) (what text : String) : Tool (List String) := do
  let list := text.splitOn ","
  for word in list do
    unless known.contains word do failWithHelp 1 ("invalid " ++ what ++ ": " ++ cited word)
  return list

def readOperand (r : Request) (operand : String) : Tool Request := do
  let cs := operand.toList
  let name := String.ofList (cs.takeWhile (· ≠ '='))
  let value := String.ofList (cs.drop (name.length + 1))
  let unknown {α : Type} : Tool α := failWithHelp 1 ("unrecognized operand " ++ cited operand)
  if !cs.contains '=' then unknown
  match name with
  | "if" => return { r with input := some value }
  | "of" => return { r with output := some value }
  | "conv" =>
    return { r with conversions := r.conversions ++ (← words conversionNames "conversion" value) }
  | "iflag" =>
    let known := flagNames ++ ["fullblock", "count_bytes", "skip_bytes"]
    return { r with inFlags := r.inFlags ++ (← words known "input flag" value) }
  | "oflag" =>
    let known := flagNames ++ ["seek_bytes"]
    return { r with outFlags := r.outFlags ++ (← words known "output flag" value) }
  | "status" =>
    match value with
    | "none" => return { r with level := .nothing }
    | "noxfer" => return { r with level := .records }
    | "progress" => return { r with level := .all }
    | _ => failWithHelp 1 ("invalid status level: " ++ cited value)
  | "ibs" => return { r with inSize := ← positive value }
  | "obs" => return { r with outSize := ← positive value }
  | "bs" => return { r with bothSize := some (← positive value) }
  | "cbs" => return { r with recordSize := ← positive value }
  | "skip" | "iseek" => return { r with skip := ← number value }
  | "seek" | "oseek" => return { r with seek := ← number value }
  | "count" => return { r with limit := some (← number value) }
  | _ => unknown

def readOperands (operands : List String) : Tool Request := do
  let mut r : Request := {}
  for operand in operands do r ← readOperand r operand
  if let some size := r.bothSize then r := { r with inSize := size, outSize := size }
  let has (name : String) : Bool := r.conversions.contains name
  let combined (names : List String) : Bool := 1 < (names.filter has).length
  if combined ["ascii", "ebcdic", "ibm"] then
    fail 1 "cannot combine any two of \x7bascii,ebcdic,ibm\x7d"
  if r.recordSize ≠ 0 && combined ["block", "unblock"] then
    fail 1 "cannot combine block and unblock"
  if combined ["lcase", "ucase"] then fail 1 "cannot combine lcase and ucase"
  if combined ["excl", "nocreat"] then fail 1 "cannot combine excl and nocreat"
  return { r with
    skip := { r.skip with inBytes := r.skip.inBytes || r.inFlags.contains "skip_bytes" }
    seek := { r.seek with inBytes := r.seek.inBytes || r.outFlags.contains "seek_bytes" }
    limit := r.limit.map fun e ↦
      { e with inBytes := e.inBytes || r.inFlags.contains "count_bytes" } }

/-- The blocks that were read and written, full and in part, and what waits. -/
structure Progress where
  fullIn : Nat := 0
  partIn : Nat := 0
  fullOut : Nat := 0
  partOut : Nat := 0
  truncated : Nat := 0
  written : Nat := 0
  waiting : ByteArray := .empty
  column : Nat := 0
  spaces : Nat := 0
  single : Option UInt8 := none

def mapCase (r : Request) (b : UInt8) : UInt8 :=
  let c := Char.ofNat b.toNat
  if r.conversions.contains "ucase" && c.isLower then b - 32
  else if r.conversions.contains "lcase" && c.isUpper then b + 32
  else b

def swapPairs : List UInt8 → List UInt8 × Option UInt8
  | a :: b :: rest =>
    let (more, left) := swapPairs rest
    (b :: a :: more, left)
  | [a] => ([], some a)
  | [] => ([], none)

/-- Lines become records of one size, which are filled up or cut. -/
def block (size : Nat) : List UInt8 → (column truncated : Nat) → List UInt8 →
    List UInt8 × Nat × Nat
  | [], column, truncated, done => (done, column, truncated)
  | b :: rest, column, truncated, done =>
    if b = 10 then block size rest 0 truncated (List.replicate (size - column) 32 ++ done)
    else
      block size rest (column + 1) (if column = size then truncated + 1 else truncated)
        (if column < size then b :: done else done)

/-- Records become lines, without the blanks at their ends. -/
def unblock (size : Nat) : List UInt8 → (column spaces : Nat) → List UInt8 → List UInt8 × Nat × Nat
  | [], column, spaces, done => (done, column, spaces)
  | b :: rest, column, spaces, done =>
    let (column, spaces, done) :=
      if size ≤ column then (0, 0, 10 :: done) else (column, spaces, done)
    if b = 32 then unblock size rest (column + 1) (spaces + 1) done
    else unblock size rest (column + 1) 0 (b :: (List.replicate spaces 32 ++ done))

def Request.changes (r : Request) : Bool :=
  r.conversions.any fun c ↦
    ["ascii", "ebcdic", "ibm", "block", "unblock", "lcase", "ucase", "swab"].contains c

def convert (r : Request) (p : Progress) (bytes : List UInt8) : List UInt8 × Progress :=
  let has (name : String) : Bool := r.conversions.contains name
  let bytes := if has "ucase" || has "lcase" then bytes.map (mapCase r) else bytes
  let (bytes, p) := if has "swab" then
      let (pairs, left) := swapPairs (p.single.toList ++ bytes)
      (pairs, { p with single := left })
    else (bytes, p)
  if has "block" && r.recordSize ≠ 0 then
    let (done, column, truncated) := block r.recordSize bytes p.column p.truncated []
    (done.reverse, { p with column, truncated })
  else if has "unblock" && r.recordSize ≠ 0 then
    let (done, column, spaces) := unblock r.recordSize bytes p.column p.spaces []
    (done.reverse, { p with column, spaces })
  else (bytes, p)

def ending (r : Request) (p : Progress) : List UInt8 :=
  let has (name : String) : Bool := r.conversions.contains name && r.recordSize ≠ 0
  p.single.toList ++
    if p.column = 0 then []
    else if has "block" then List.replicate (r.recordSize - p.column) 32
    else if has "unblock" then [10]
    else []

def scaled (base : Nat) (units : List String) (n : Nat) : Option String :=
  let rec go : List String → Nat → Option String
    | [], _ => none
    | name :: rest, unit =>
      if n < unit * base || rest.isEmpty then
        let tenths := (n * 20 + unit) / (2 * unit)
        if tenths < 100 then
          some (toString (tenths / 10) ++ "." ++ toString (tenths % 10) ++ " " ++ name)
        else
          let whole := (n * 2 + unit) / (2 * unit)
          if whole < base || rest.isEmpty then some (toString whole ++ " " ++ name)
          else some ("1.0 " ++ rest.headD "")
      else go rest (unit * base)
  if n < base then none else go units base

def decimalUnits : List String := ["kB", "MB", "GB", "TB", "PB", "EB"]

def binaryUnits : List String := ["KiB", "MiB", "GiB", "TiB", "PiB", "EiB"]

def summarize (r : Request) (p : Progress) : Tool Unit := do
  if r.level ≠ .nothing then
    report (toString p.fullIn ++ "+" ++ toString p.partIn ++ " records in\n" ++
      toString p.fullOut ++ "+" ++ toString p.partOut ++ " records out\n")
    if p.truncated ≠ 0 then
      report (toString p.truncated ++
        if p.truncated = 1 then " truncated record\n" else " truncated records\n")
  if r.level = .all then
    let sizes :=
      [scaled 1000 decimalUnits p.written, scaled 1024 binaryUnits p.written].filterMap id
    let inBrackets := if sizes.isEmpty then "" else " (" ++ ", ".intercalate sizes ++ ")"
    let rate := 10000 * p.written
    report (toString p.written ++ (if p.written = 1 then " byte" else " bytes") ++ inBrackets ++
      " copied, 0.0001 s, " ++
      (scaled 1000 decimalUnits rate).getD ("0." ++ toString (rate / 100) ++ " kB") ++ "/s\n")

def sideName (operand : Option String) (other : String) : String := operand.getD other

def writeBlock (r : Request) (descriptor : Nat) (p : Progress) (bytes : ByteArray) :
    Tool Progress := do
  if bytes.isEmpty then return p
  match ← Strand.writeAt descriptor bytes with
  | .ok () =>
    let p := { p with written := p.written + bytes.size }
    return if bytes.size = r.outSize then { p with fullOut := p.fullOut + 1 }
      else { p with partOut := p.partOut + 1 }
  | .error fault =>
    complain ("error writing " ++ quoted (sideName r.output "standard output") ++ ": " ++
      fault.describe)
    summarize r p
    throw 1

def writeWaiting (r : Request) (descriptor : Nat) (p : Progress) : Tool Progress :=
  iterate (fun (p : Progress) ↦ do
    if p.waiting.size < r.outSize then return .inr p
    let bytes := p.waiting.extract 0 r.outSize
    let rest := p.waiting.extract r.outSize p.waiting.size
    return .inl (← writeBlock r descriptor { p with waiting := rest } bytes)) p

def readBlock (r : Request) (descriptor size : Nat) : Tool (Except SystemFault ByteArray) := do
  if !r.inFlags.contains "fullblock" then Strand.readAt descriptor size
  else
    iterate (fun (sofar : ByteArray) ↦ do
      if size ≤ sofar.size then return .inr (.ok sofar)
      match ← Strand.readAt descriptor (size - sofar.size) with
      | .error fault => return .inr (.error fault)
      | .ok bytes =>
        return if bytes.isEmpty then .inr (.ok sofar) else .inl (sofar ++ bytes)) .empty

def skipInput (r : Request) (descriptor : Nat) : Tool Unit := do
  let total := r.skip.bytes r.inSize
  if total = 0 then return
  let missing : Tool Unit :=
    complain (quotedIfNeeded (sideName r.input "standard input") ++
      ": cannot skip to specified offset")
  let before ← Strand.call fun id s ↦ s.seek id descriptor fun offset _ ↦ (offset : Int)
  match before, (← nodeAt? descriptor).map Node.content with
  | .ok start, some (.file bytes) =>
    if bytes.size - start < total then missing
    let _ ← Strand.call fun id s ↦ s.seek id descriptor fun offset _ ↦ (offset : Int) + total
  | _, _ =>
    let reached ← iterate (fun (left : Nat) ↦ do
      if left = 0 then return .inr true
      match ← Strand.readAt descriptor (min left r.inSize) with
      | .ok bytes => return if bytes.isEmpty then .inr false else .inl (left - bytes.size)
      | .error _ => return .inr false) total
    unless reached do missing

def seekOutput (r : Request) (descriptor : Nat) : Tool Unit := do
  let total := r.seek.bytes r.outSize
  if total = 0 then return
  match ← Strand.call fun id s ↦ s.seek id descriptor fun offset _ ↦ (offset : Int) + total with
  | .ok _ => return
  | .error fault =>
    complain (quotedIfNeeded (sideName r.output "standard output") ++ ": cannot seek: " ++
      fault.describe)
    summarize r {}
    throw 1

def copy (r : Request) (source target : Nat) : Tool Nat := do
  let direct := r.bothSize.isSome && !r.changes
  let limit : Option (Nat × Nat) := r.limit.map fun e ↦
    if e.inBytes then (e.count / r.inSize, e.count % r.inSize) else (e.count, 0)
  let (p, status) ← iterate (fun ((p, left) : Progress × Option (Nat × Nat)) ↦ do
    let size := match left with
      | none => r.inSize
      | some (0, bytes) => bytes
      | some _ => r.inSize
    if size = 0 then return .inr (p, 0)
    match ← readBlock r source size with
    | .error fault =>
      complain ("error reading " ++ quoted (sideName r.input "standard input") ++ ": " ++
        fault.describe)
      return .inr (p, 1)
    | .ok bytes =>
      if bytes.isEmpty then return .inr (p, 0)
      let p := if bytes.size = r.inSize then { p with fullIn := p.fullIn + 1 }
        else { p with partIn := p.partIn + 1 }
      let filler : UInt8 :=
        if r.conversions.contains "block" || r.conversions.contains "unblock" then 32 else 0
      let bytes := if r.conversions.contains "sync" then
          bytes ++ ⟨Array.replicate (r.inSize - bytes.size) filler⟩
        else bytes
      let left := left.map fun (blocks, rest) ↦ if blocks = 0 then (0, 0) else (blocks - 1, rest)
      if direct then return .inl (← writeBlock r target p bytes, left)
      let (converted, p) := convert r p bytes.data.toList
      let p ← writeWaiting r target { p with waiting := p.waiting ++ ⟨converted.toArray⟩ }
      return .inl (p, left)) (({} : Progress), limit)
  let p ← writeWaiting r target { p with waiting := p.waiting ++ ⟨(ending r p).toArray⟩ }
  let p ← writeBlock r target p p.waiting
  summarize r p
  return status

def main (args : List String) : Tool Nat := do
  let (_, operands) ← options { ordered := true } args
  let r ← readOperands operands
  let has (name : String) : Bool := r.conversions.contains name
  let source ← match r.input with
    | none => pure 0
    | some path =>
      match ← Strand.openAt (Octet.toText path) { read := true } with
      | .ok n => pure n
      | .error fault => fail 1 ("failed to open " ++ quoted path ++ ": " ++ fault.describe)
  let seeks := r.seek.bytes r.outSize ≠ 0
  let target ← match r.output with
    | none => pure 1
    | some path =>
      match ← Strand.openAt (Octet.toText path)
          { write := true, create := !has "nocreat", fresh := has "excl"
            truncate := !has "notrunc" && !seeks, append := r.outFlags.contains "append" } with
      | .ok n => pure n
      | .error fault => fail 1 ("failed to open " ++ quoted path ++ ": " ++ fault.describe)
  if r.output.isSome && seeks && !has "notrunc" then
    let _ ← Strand.call fun id s ↦ s.setSize id target (r.seek.bytes r.outSize)
  skipInput r source
  seekOutput r target
  copy r source target

end RegisterLang.Tool.Convert
