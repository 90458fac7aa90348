import RegisterLang.Host.Tool.Launch

namespace RegisterLang.Tool.Divide

inductive Measure where
  | bytes
  | lines
  | turns
  deriving DecidableEq, Repr

/-- How a file is divided: by lines, by bytes or into a number of parts. -/
inductive Way where
  | lines (count : Nat)
  | bytes (count : Nat)
  | lineBytes (count : Nat)
  | parts (measure : Measure) (wanted : Option Nat) (count : Nat)
  deriving DecidableEq, Repr

def linesOf (mark : UInt8) (bytes : ByteArray) : Nat → Nat → List ByteArray
  | 0, _ => []
  | n + 1, start =>
    if bytes.size ≤ start then []
    else
      match bytes.findIdx? (· = mark) start with
      | some i => bytes.extract start (i + 1) :: linesOf mark bytes n (i + 1)
      | none => [bytes.extract start bytes.size]

def joined (parts : List ByteArray) : ByteArray := parts.foldl (· ++ ·) .empty

def groups (count : Nat) : Nat → List ByteArray → List ByteArray
  | 0, _ => []
  | n + 1, parts =>
    if parts.isEmpty then [] else joined (parts.take count) :: groups count n (parts.drop count)

def blocks (count : Nat) (bytes : ByteArray) : Nat → Nat → List ByteArray
  | 0, _ => []
  | n + 1, start =>
    if bytes.size ≤ start then []
    else bytes.extract start (start + count) :: blocks count bytes n (start + count)

/-- Whole lines in pieces of at most a number of bytes. -/
def fill (count : Nat) : List ByteArray → ByteArray → List ByteArray
  | [], part => if part.isEmpty then [] else [part]
  | line :: rest, part =>
    if part.size + line.size ≤ count then fill count rest (part ++ line)
    else
      let before := if part.isEmpty then [] else [part]
      let pieces := blocks count line (line.size + 1) 0
      before ++ pieces.dropLast ++ fill count rest (pieces.getLast?.getD .empty)

def lengths (size count : Nat) : List Nat :=
  (List.range count).map fun i ↦ size / count + (if i < size % count then 1 else 0)

def deal : List Nat → Nat → List ByteArray → Nat → List ByteArray
  | [], _, _, _ => []
  | length :: more, start, lines, finish =>
    let finish := finish + length
    let rec take : List ByteArray → Nat → List ByteArray → List ByteArray × Nat × List ByteArray
      | [], start, taken => (taken, start, [])
      | line :: rest, start, taken =>
        if start < finish then take rest (start + line.size) (line :: taken)
        else (taken, start, line :: rest)
    let (taken, start, rest) := take lines start []
    joined taken.reverse :: deal more start rest finish

def Way.divide (way : Way) (mark : UInt8) (bytes : ByteArray) : List ByteArray :=
  let lines := linesOf mark bytes (bytes.size + 1) 0
  match way with
  | .lines count => groups count (lines.length + 1) lines
  | .bytes count => blocks count bytes (bytes.size + 1) 0
  | .lineBytes count => fill count lines .empty
  | .parts .bytes _ count =>
    let ends := (lengths bytes.size count).foldl (fun (acc : List (Nat × Nat) × Nat) n ↦
      ((acc.2, acc.2 + n) :: acc.1, acc.2 + n)) ([], 0)
    ends.1.reverse.map fun (s, e) ↦ bytes.extract s e
  | .parts .lines _ count => deal (lengths bytes.size count) 0 lines 0
  | .parts .turns _ count =>
    (List.range count).map fun i ↦
      joined ((lines.zipIdx.filter fun (_, k) ↦ k % count = i).map (·.1))

/-- How the parts are named: a suffix of digits that may grow. -/
structure Naming where
  digits : List Char := "abcdefghijklmnopqrstuvwxyz".toList
  length : Nat := 2
  start : Nat := 0
  grows : Bool := true

namespace Naming

def numeral (n : Naming) : Nat → Nat → List Char
  | 0, _ => []
  | k + 1, i =>
    numeral n k (i / n.digits.length) ++ [n.digits.getD (i % n.digits.length) '0']

def name? (n : Naming) (i : Nat) : Option String :=
  let base := n.digits.length
  let i := i + n.start
  let rec go : Nat → Nat → Nat → List Char → List Char
    | 0, length, i, before => before ++ n.numeral length i
    | fuel + 1, length, i, before =>
      let room := (base - 1) * Real.power base (length - 1)
      if i < room then before ++ n.numeral length i
      else go fuel (length + 1) (i - room) (before ++ [n.digits.getLastD '0'])
  if n.grows then some (String.ofList (go 40 n.length i []))
  else if i < Real.power base n.length then some (String.ofList (n.numeral n.length i))
  else none

def widthFor (base bound : Nat) : Nat → Nat → Nat
  | 0, k => k
  | fuel + 1, k => if bound ≤ Real.power base k then k else widthFor base bound fuel (k + 1)

end Naming

def suffixLetters : String := "bEGKkMmPTYZRQ0"

def positive (allowed what text : String) : Tool Nat := do
  match readCount allowed text with
  | .ok 0 | .error .invalid => fail 1 (what ++ ": " ++ cited text)
  | .ok n => return n
  | .error .tooLarge =>
    if allowed.isEmpty then return countLimit
    else fail 1 (what ++ ": " ++ cited text ++ ": Value too large for defined data type")

def readParts (text : String) : Tool Way := do
  let (measure, rest) : Measure × String :=
    if text.startsWith "l/" then (.lines, (text.drop 2).toString)
    else if text.startsWith "r/" then (.turns, (text.drop 2).toString)
    else (.bytes, text)
  let before := rest.toList.takeWhile (· ≠ '/')
  match rest.toList.drop before.length with
  | [] => return .parts measure none (← positive "" "invalid number of chunks" rest)
  | _ :: after =>
    let count ← positive "" "invalid number of chunks" (String.ofList after)
    let chosen := String.ofList before
    let k ← positive "" "invalid chunk number" chosen
    if count < k then fail 1 ("invalid chunk number: " ++ cited chosen)
    return .parts measure (some k) count

def normalize (args : List String) : List String :=
  args.flatMap fun arg ↦
    match arg.toList with
    | '-' :: c :: cs =>
      if (c :: cs).all Char.isDigit then ["-l", String.ofList (c :: cs)] else [arg]
    | _ => [arg]

def table : OptionTable :=
  { short := "C:a:b:del:n:t:ux"
    long := OptionTable.plain
      [("elide-empty-files", "e"), ("unbuffered", "u"), ("verbose", "verbose")] ++
      OptionTable.valued
        [("bytes", "b"), ("lines", "l"), ("line-bytes", "C"), ("number", "n"),
          ("suffix-length", "a"), ("additional-suffix", "additional-suffix"),
          ("separator", "t"), ("filter", "filter")] ++
      [{ name := "numeric-suffixes", key := "d", need := .maybe },
        { name := "hex-suffixes", key := "x", need := .maybe }] }

def readWay (found : OptionList) : Tool Way := do
  let mut way : Option Way := none
  for (key, value) in found do
    let text := value.getD ""
    if ["b", "l", "C", "n"].contains key then
      if way.isSome then failWithHelp 1 "cannot split in more than one way"
      way := some (← match key with
        | "b" => .bytes <$> positive suffixLetters "invalid number of bytes" text
        | "l" => .lines <$> positive "" "invalid number of lines" text
        | "C" => .lineBytes <$> positive suffixLetters "invalid number of bytes" text
        | _ => readParts text)
  return way.getD (.lines 1000)

def readMark (found : OptionList) : Tool UInt8 := do
  match found.value? "t" with
  | none => return 10
  | some text =>
    match text.toList with
    | [] => fail 1 "empty record separator"
    | [c] => return c.toNat.toUInt8
    | ['\\', '0'] => return 0
    | _ => fail 1 ("multi-character separator " ++ cited text)

def readNaming (found : OptionList) (way : Way) : Tool Naming := do
  let length ← match found.value? "a" with
    | none => pure none
    | some text =>
      match readCount "" text with
      | .ok n => pure (some n)
      | .error _ => fail 1 ("invalid suffix length: " ++ cited text)
  let (digits, base) : List Char × Nat := match found.last? ["d", "x"] with
    | some "d" => ("0123456789".toList, 10)
    | some _ => ("0123456789abcdef".toList, 16)
    | none => ({} : Naming).digits |> (·, 26)
  let from? := (found.last? ["d", "x"]).bind fun key ↦ found.value? key
  let start ← match from? with
    | none => pure 0
    | some text =>
      let valid := !text.isEmpty && text.toList.all fun c ↦
        (Real.digitValue? c).any (· < base)
      if valid then pure (Real.readDigits base text.toList)
      else failWithHelp 1 (cited text ++ ": invalid start value for " ++
        (if base = 10 then "numerical" else "hexadecimal") ++ " suffix")
  let needed : Nat := match way with
    | .parts _ _ count => Naming.widthFor base (if start < count then count + start else count) 40 1
    | _ => 0
  let explicit := length.filter (· ≠ 0)
  if let some n := explicit then
    if n < needed then fail 1 ("the suffix length needs to be at least " ++ toString needed)
  let length := explicit.getD (max 2 needed)
  if from?.isSome && Real.power base length ≤ start then
    failWithHelp 1 "numerical suffix start value is too large for the suffix length"
  return { digits, length, start, grows := explicit.isNone && needed = 0 && from?.isNone }

/-- Writes a part to its file, or to a program that gets its name. -/
def deliver (load : Loader) (filter : Option String) (name : String) (bytes : ByteArray) :
    Tool (Except SystemFault Unit) := do
  match filter with
  | none =>
    match ←
        Strand.openAt (Octet.toText name) { write := true, create := true, truncate := true } with
    | .error fault => return .error fault
    | .ok descriptor =>
      let result ← Strand.writeAt descriptor bytes
      Strand.closeAt descriptor
      return result
  | some command =>
    flush
    let (reader, writer) ← Strand.newPipe
    let state ← get
    let environment := Environment.put state.environment "FILE" name
    let body : Tool Nat := do
      Strand.closeAt writer
      Strand.moveDescriptor reader 0
      let _ ← Strand.exec load "/bin/sh" ["sh", "-c", command] environment
      return 127
    let child ← Strand.fork (body state fun _ result ↦
      .ended (.exited (match result with | .ok n | .error n => n)))
    Strand.closeAt reader
    let _ ← Strand.writeAt writer bytes
    Strand.closeAt writer
    match ← Strand.waitChild (· = child) with
    | some (_, .exited 0) => return .ok ()
    | some (_, .exited n) =>
      fail 1 ("with FILE=" ++ quotedIfNeeded name ++ ", exit " ++ toString n ++ " from command: " ++
        command)
    | _ => return .ok ()

def main (load : Loader) (args : List String) : Tool Nat := do
  let (found, operands) ← options table (normalize args)
  let way ← readWay found
  let mark ← readMark found
  let ending := (found.value? "additional-suffix").getD ""
  if ending.toList.contains '/' then
    failWithHelp 1 ("invalid suffix " ++ cited ending ++ ", contains directory separator")
  if let extra :: _ := operands.drop 2 then extraOperand extra
  let naming ← readNaming found way
  let source := operands.headD "-"
  let head := operands.getD 1 "x"
  let bytes ← match ← openInput source with
    | .error fault => fail 1 ("cannot open " ++ quoted source ++ " for reading: " ++ fault.describe)
    | .ok () =>
      match ← restOfInput with
      | .ok bytes => pure bytes
      | .error fault => fail 1 (quotedIfNeeded source ++ ": " ++ fault.describe)
  let parts := way.divide mark bytes
  match way with
  | .parts _ (some k) _ =>
    put (parts.getD (k - 1) .empty)
    return 0
  | _ =>
    let kept := if found.has "e" then parts.filter (!·.isEmpty) else parts
    let filter := found.value? "filter"
    for (part, i) in kept.zipIdx do
      match naming.name? i with
      | none => fail 1 "output file suffixes exhausted"
      | some middle =>
        let name := head ++ middle ++ ending
        if found.has "verbose" then
          sayLine (if filter.isSome then "executing with FILE=" ++ quoted name
            else "creating file " ++ quoted name)
        match ← deliver load filter name part with
        | .ok () => pure ()
        | .error fault => fail 1 (quotedIfNeeded name ++ ": " ++ fault.describe)
    return 0

end RegisterLang.Tool.Divide
