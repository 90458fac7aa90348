import RegisterLang.Host.Digest.Blake2b
import RegisterLang.Host.Digest.Md5
import RegisterLang.Host.Digest.Sha1
import RegisterLang.Host.Digest.Sm3
import RegisterLang.Host.Text.Armor
import RegisterLang.Text.Blank
import RegisterLang.Host.Tool.Options

namespace RegisterLang.Tool.Checksum

/-- A digest of a number of bytes, which some algorithms can cut. -/
structure Algorithm where
  tag : String
  size : Nat
  cuttable : Bool := false
  digest : Nat → ByteArray → ByteArray

def md5 : Algorithm := { tag := "MD5", size := 16, digest := fun _ ↦ Digest.Md5.digest }

def sha1 : Algorithm := { tag := "SHA1", size := 20, digest := fun _ ↦ Digest.Sha1.digest }

def sha224 : Algorithm := { tag := "SHA224", size := 28, digest := fun _ ↦ Digest.Sha2.sha224 }

def sha256 : Algorithm := { tag := "SHA256", size := 32, digest := fun _ ↦ Digest.Sha2.sha256 }

def sha384 : Algorithm := { tag := "SHA384", size := 48, digest := fun _ ↦ Digest.Sha2.sha384 }

def sha512 : Algorithm := { tag := "SHA512", size := 64, digest := fun _ ↦ Digest.Sha2.sha512 }

def blake2b : Algorithm :=
  { tag := "BLAKE2b", size := 64, cuttable := true, digest := Digest.Blake2b.digest }

def sm3 : Algorithm := { tag := "SM3", size := 32, digest := fun _ ↦ Digest.Sm3.digest }

def algorithms : List (String × Algorithm) :=
  [("md5", md5), ("sha1", sha1), ("sha224", sha224), ("sha256", sha256), ("sha384", sha384),
    ("sha512", sha512), ("blake2b", blake2b), ("sm3", sm3)]

/-- Sums that are not digests: shown with a count of blocks. -/
inductive Simple where
  | rotating
  | plain
  | cyclic
  deriving DecidableEq, Repr

def simples : List (String × Simple) := [("bsd", .rotating), ("sysv", .plain), ("crc", .cyclic)]

def Simple.describe (s : Simple) (bytes : ByteArray) : String :=
  match s with
  | rotating =>
    Text.padLeft 5 '0' (toString (Digest.Sum.rotating bytes).toNat) ++ " " ++
      Text.padLeft 5 ' ' (toString ((bytes.size + 1023) / 1024))
  | plain => toString (Digest.Sum.plain bytes) ++ " " ++ toString ((bytes.size + 511) / 512)
  | cyclic => toString (Digest.Sum.cyclic bytes).toNat ++ " " ++ toString bytes.size

def Simple.raw (s : Simple) (bytes : ByteArray) : ByteArray :=
  let number (size n : Nat) : ByteArray := ⟨(Digest.spell .big size n).toArray⟩
  match s with
  | rotating => number 2 (Digest.Sum.rotating bytes).toNat
  | plain => number 2 (Digest.Sum.plain bytes)
  | cyclic => number 4 (Digest.Sum.cyclic bytes).toNat

def showSimple (s : Simple) (raw : Bool) (ending : String) (operands : List String) : Tool Nat :=
  forInputs operands fun operand ↦ do
    match ← restOfInput with
    | .error fault => return .error fault
    | .ok bytes =>
      if raw then put (s.raw bytes)
      else
        say (s.describe bytes ++ (if operands.isEmpty then "" else " " ++ operand) ++ ending)
      return .ok ()

structure Request where
  algorithm : Option Algorithm := none
  size : Option Nat := none
  tagged : Bool := false
  binary : Bool := false
  zero : Bool := false
  raw : Bool := false
  base64 : Bool := false
  ignoreMissing : Bool := false
  quiet : Bool := false
  silent : Bool := false
  warn : Bool := false
  strict : Bool := false

def needsEscape (name : String) : Bool :=
  name.toList.any fun c ↦ c = '\\' || c = '\n' || c = '\r'

def escape (name : String) : String :=
  String.join (name.toList.map fun c ↦
    match c with
    | '\\' => "\\\\"
    | '\n' => "\\n"
    | '\r' => "\\r"
    | c => c.toString)

def unescape? : List Char → Option (List Char)
  | [] => some []
  | '\\' :: '\\' :: rest => (unescape? rest).map ('\\' :: ·)
  | '\\' :: 'n' :: rest => (unescape? rest).map ('\n' :: ·)
  | '\\' :: 'r' :: rest => (unescape? rest).map ('\r' :: ·)
  | '\\' :: _ => none
  | c :: rest => (unescape? rest).map (c :: ·)

def Request.line (r : Request) (a : Algorithm) (operand : String) (bytes : ByteArray) : String :=
  let size := r.size.getD a.size
  let digest := a.digest size bytes
  let text := if r.base64 then String.ofList (Armor.base64.encode digest.data.toList)
    else Digest.hex digest
  let escaped := needsEscape operand && !r.zero
  let name := if escaped then escape operand else operand
  let front := if escaped then "\\" else ""
  let ending := if r.zero then "\x00" else "\n"
  if r.tagged then
    let cut := if a.cuttable && size < a.size then "-" ++ toString (8 * size) else ""
    front ++ a.tag ++ cut ++ " (" ++ name ++ ") = " ++ text ++ ending
  else front ++ text ++ " " ++ (if r.binary then "*" else " ") ++ name ++ ending

def showDigests (r : Request) (a : Algorithm) (operands : List String) : Tool Nat :=
  forInputs operands fun operand ↦ do
    match ← restOfInput with
    | .error fault => return .error fault
    | .ok bytes =>
      if r.raw then put (a.digest (r.size.getD a.size) bytes) else say (r.line a operand bytes)
      return .ok ()

/-- A line that was shown before: what the digest of a file should be. -/
structure Expected where
  algorithm : Algorithm
  size : Nat
  digest : String
  name : String

def isBlank (c : Char) : Bool := c = ' ' || c = '\t'

def isHex (c : Char) : Bool := c.isDigit || ('a' ≤ c && c ≤ 'f') || ('A' ≤ c && c ≤ 'F')

def readTagged (choices : List Algorithm) (base64 escaped : Bool) (cs : List Char) :
    Option (Option Expected) :=
  match choices.find? fun a ↦ a.tag.toList.isPrefixOf cs with
  | none => none
  | some a => some do
    let rest := cs.drop a.tag.length
    let (size, rest) ← match rest with
      | '-' :: more =>
        if a.cuttable then
          let digits := more.takeWhile Char.isDigit
          let bits := (String.ofList digits).toNat?.getD 0
          if bits = 0 || bits % 8 ≠ 0 || 8 * a.size < bits then none
          else some (bits / 8, more.drop digits.length)
        else none
      | _ => some (a.size, rest)
    let rest := if rest.head? = some ' ' then rest.tail else rest
    match rest with
    | '(' :: inside =>
      let after := (inside.reverse.takeWhile (· ≠ ')')).reverse
      if after.length = inside.length then none
      else
        let name := inside.take (inside.length - after.length - 1)
        let name ← if escaped then unescape? name else some name
        match after.dropWhile isBlank with
        | '=' :: digest =>
          let digest := digest.dropWhile isBlank
          let isDigest := digest.length = 2 * size && digest.all isHex
          let isArmored := base64 && digest.length = (size + 2) / 3 * 4 &&
            (Armor.base64.decode digest).2
          if isDigest || isArmored then
            return {
              algorithm := a, size, digest := String.ofList digest, name := String.ofList name }
          else none
        | _ => none
    | _ => none

def readPlain (a : Algorithm) (base64 escaped : Bool) (direct : Option Bool) (cs : List Char) :
    Option (Expected × Option Bool) := do
  let digest := cs.takeWhile (!isBlank ·)
  let rest := cs.drop digest.length
  let isDigest := digest.all isHex && digest.length % 2 = 0 &&
    (digest.length = 2 * a.size || (a.cuttable && digest.length ≤ 2 * a.size && !digest.isEmpty))
  let isArmored := base64 && digest.length = (a.size + 2) / 3 * 4 && (Armor.base64.decode digest).2
  if !(isDigest || isArmored) then none
  let size := if isDigest then digest.length / 2 else a.size
  match rest with
  | _ :: c :: more =>
    let (name, direct) ← if more.isEmpty || (c ≠ ' ' && c ≠ '*') then
        if direct = some false then none else some (c :: more, some true)
      else if direct = some true then some (c :: more, direct)
      else some (more, some false)
    let name ← if escaped then unescape? name else some name
    return ({ algorithm := a, size, digest := String.ofList digest, name := String.ofList name },
      direct)
  | _ => none

def readLine (r : Request) (direct : Option Bool) (line : String) :
    Option (Expected × Option Bool) :=
  let cs := line.toList.dropWhile isBlank
  let (escaped, cs) := match cs with
    | '\\' :: rest => (true, rest)
    | _ => (false, cs)
  let choices := match r.algorithm with
    | some a => [a]
    | none => algorithms.map (·.2)
  match readTagged choices r.base64 escaped cs with
  | some found => found.map fun e ↦ (e, direct)
  | none => r.algorithm.bind fun a ↦ readPlain a r.base64 escaped direct cs

/-- What came of checking the lines of a file. -/
structure Tally where
  line : Nat := 0
  proper : Nat := 0
  improper : Nat := 0
  unreadable : Nat := 0
  mismatched : Nat := 0
  matched : Bool := false
  direct : Option Bool := none

def checkFile (r : Request) (t : Tally) (e : Expected) : Tool Tally := do
  let escaped := needsEscape e.name
  let shown := if escaped then "\\" ++ escape e.name else e.name
  match ← aside (contentsOf e.name) with
  | .error fault =>
    if r.ignoreMissing && fault = .noSuchFile then return t
    complain (quotedIfNeeded e.name ++ ": " ++ fault.describe)
    unless r.silent do sayLine (shown ++ ": FAILED open or read")
    return { t with unreadable := t.unreadable + 1 }
  | .ok bytes =>
    let digest := e.algorithm.digest e.size bytes
    let isRight := Digest.hex digest = e.digest.toLower ||
      String.ofList (Armor.base64.encode digest.data.toList) = e.digest
    unless r.silent || (isRight && r.quiet) do
      sayLine (shown ++ if isRight then ": OK" else ": FAILED")
    return if isRight then { t with matched := true } else { t with mismatched := t.mismatched + 1 }

def check (r : Request) (operand : String) : Tool Bool := do
  let name := if operand = "-" then "standard input" else operand
  match ← openInput operand with
  | .error fault =>
    complain (quotedIfNeeded name ++ ": " ++ fault.describe)
    return false
  | .ok () =>
    let result ← iterate (fun (t : Tally) ↦ do
      match ← nextLine with
      | .error _ => return .inr none
      | .ok none => return .inr (some t)
      | .ok (some (line, _)) =>
        let t := { t with line := t.line + 1 }
        let cs := line.toList
        let line := if cs.getLast? = some '\r' then String.ofList cs.dropLast else line
        if line.isEmpty || line.toList.head? = some '#' then return .inl t
        match readLine r t.direct line with
        | some (e, direct) =>
          if operand = "-" && e.name = "-" then
            return .inl { t with improper := t.improper + 1 }
          else return .inl (← checkFile r { t with direct, proper := t.proper + 1 } e)
        | none =>
          if r.warn then
            complain (quotedIfNeeded name ++ ": " ++ toString t.line ++ ": improperly formatted " ++
              ((r.algorithm.map Algorithm.tag).getD "CRC") ++ " checksum line")
          return .inl { t with improper := t.improper + 1 }) {}
    closeInput
    match result with
    | none =>
      complain (quotedIfNeeded name ++ ": read error")
      return false
    | some t =>
      let warnOf (n : Nat) (one many : String) : Tool Unit := do
        unless n = 0 do
          complain ("WARNING: " ++ toString n ++ " " ++ if n = 1 then one else many)
      if t.proper = 0 then
        complain (quotedIfNeeded name ++ ": no properly formatted checksum lines found")
      else unless r.silent do
        warnOf t.improper "line is improperly formatted" "lines are improperly formatted"
        warnOf t.unreadable "listed file could not be read" "listed files could not be read"
        warnOf t.mismatched "computed checksum did NOT match" "computed checksums did NOT match"
        if r.ignoreMissing && !t.matched then
          complain (quotedIfNeeded name ++ ": no file was verified")
      return t.proper ≠ 0 && t.matched && t.mismatched = 0 && t.unreadable = 0 &&
        (!r.strict || t.improper = 0)

def table (short : String) (more : List LongOption) : OptionTable :=
  { short
    long := OptionTable.plain
        [("binary", "b"), ("check", "c"), ("ignore-missing", "ignore-missing"), ("quiet", "quiet"),
          ("status", "status"), ("strict", "strict"), ("tag", "tag"), ("text", "t"), ("warn", "w"),
          ("zero", "z")] ++ more }

def request (found : OptionList) (tagsFirst : Bool) (algorithm : Option Algorithm) :
    Tool Request := do
  let checks := found.has "c"
  let mut tagged : Option Bool := none
  let mut binary : Option Bool := none
  for (key, _) in found do
    if key = "b" then binary := some true
    if key = "t" then binary := some false
    if key = "tag" then
      tagged := some true
      binary := some true
    if key = "untagged" then
      if tagged = some true then binary := none
      tagged := some false
  if tagged.getD tagsFirst && binary = some false then
    failWithHelp 1 (if tagsFirst then "--text mode is only supported with --untagged"
      else "--tag does not support --text mode")
  if checks && found.has "z" then
    failWithHelp 1 "the --zero option is not supported when verifying checksums"
  if checks && tagged = some true && !tagsFirst then
    failWithHelp 1 "the --tag option is meaningless when verifying checksums"
  if checks && binary.isSome then
    failWithHelp 1 "the --binary and --text options are meaningless when verifying checksums"
  let last := found.last? ["status", "w", "quiet"]
  unless checks do
    let refuse (option : String) : Tool Unit :=
      failWithHelp 1 ("the --" ++ option ++ " option is meaningful only when verifying checksums")
    if found.has "ignore-missing" then refuse "ignore-missing"
    if last = some "status" then refuse "status"
    if last = some "w" then refuse "warn"
    if last = some "quiet" then refuse "quiet"
    if found.has "strict" then refuse "strict"
  return {
    algorithm, tagged := tagged.getD tagsFirst, binary := binary = some true, zero := found.has "z"
    raw := found.has "raw", base64 := tagsFirst && (checks || found.has "base64")
    ignoreMissing := found.has "ignore-missing"
    quiet := last = some "quiet", silent := last = some "status", warn := last = some "w"
    strict := found.has "strict" }

def sizeOf (found : OptionList) : Tool (Option Nat) := do
  match found.value? "l" with
  | none => return none
  | some text =>
    match readCount "" text with
    | .ok bits =>
      if bits % 8 ≠ 0 then
        complain ("invalid length: " ++ cited text)
        fail 1 "length is not a multiple of 8"
      if 512 < bits then
        complain ("invalid length: " ++ cited text)
        fail 1 "maximum digest length for 'BLAKE2b' is 512 bits"
      return if bits = 0 then none else some (bits / 8)
    | .error _ => fail 1 ("invalid length: " ++ cited text)

def runDigests (r : Request) (checks : Bool) (operands : List String) : Tool Nat := do
  if checks then forAll (if operands.isEmpty then ["-"] else operands) (check r)
  else
    match r.algorithm with
    | some a => showDigests r a operands
    | none => return 1

def mainWith (a : Algorithm) (args : List String) : Tool Nat := do
  let (found, operands) ← options
    (if a.cuttable then table "bcl:twz" (OptionTable.valued [("length", "l")])
      else table "bctwz" []) args
  let size ← if a.cuttable then sizeOf found else pure none
  let r ← request found false (some a)
  runDigests { r with size } (found.has "c") operands

/-- Shows digests of files, or checks files against them. -/
def main (args : List String) : Tool Nat := do
  let (found, operands) ← options
    (table "a:bcl:twz"
      (OptionTable.valued [("algorithm", "a"), ("length", "l")] ++
        OptionTable.plain
          [("base64", "base64"), ("debug", "debug"), ("raw", "raw"),
            ("untagged", "untagged")])) args
  let names := (simples.map (·.1)) ++ algorithms.map (·.1)
  let name? ← match found.value? "a" with
    | none => pure none
    | some text => do pure (some (← chooseWord "--algorithm" (names.map ([·])) text))
  let name := name?.getD "crc"
  let size ← sizeOf found
  if found.has "l" && name ≠ "blake2b" then
    fail 1 "--length is only supported with --algorithm=blake2b"
  let simple? := simples.lookup name
  if found.has "c" && name?.isSome && simple?.isSome then
    fail 1 "--check is not supported with --algorithm=\x7bbsd,sysv,crc\x7d"
  if found.has "base64" && found.has "raw" then
    failWithHelp 1 "--base64 and --raw are mutually exclusive"
  let r ← request found true (algorithms.lookup name)
  if found.has "raw" && 1 < operands.length then
    fail 1 "the --raw option is not supported with multiple files"
  match simple?, found.has "c" with
  | some s, false => showSimple s r.raw (if r.zero then "\x00" else "\n") operands
  | _, checks => runDigests { r with size } checks operands

def mainSum (args : List String) : Tool Nat := do
  let (found, operands) ← options
    { short := "rs", long := OptionTable.plain [("sysv", "s")] } args
  showSimple (if found.last? ["r", "s"] = some "s" then .plain else .rotating) false "\n" operands

end RegisterLang.Tool.Checksum
