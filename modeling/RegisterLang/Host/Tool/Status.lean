import RegisterLang.Text.Blank
import RegisterLang.Host.Tool.Listing
import RegisterLang.Host.Tool.Permission

namespace RegisterLang.Tool.Status

structure Subject where
  name : String
  node : Node
  number : Nat
  names : Nat

/-- What a directive shows of a file. -/
inductive Field where
  | text (octets : String)
  | number (value : Nat)
  | octal (value : Nat)
  | hex (value : Nat)
  | seconds (time : Nat)
  | failure (message octets : String)

def isDescriptor (node : Node) : Option Nat :=
  match node.content with
  | .device (.descriptor n) => some n
  | _ => none

def linkTarget? (node : Node) : Option String :=
  match node.content, isDescriptor node with
  | .link target, _ => some (Octet.ofText target)
  | _, some n => some ("/proc/self/fd/" ++ toString n)
  | _, none => none

def kindOf (node : Node) : String :=
  if (linkTarget? node).isSome then "symbolic link"
  else
    match node.content with
    | .file bytes => if bytes.isEmpty then "regular empty file" else "regular file"
    | .directory => "directory"
    | .pipe _ => "fifo"
    | _ => "character special file"

def modeOf (node : Node) : Nat := if (isDescriptor node).isSome then 511 else node.mode % 4096

def rawMode (node : Node) : Nat :=
  modeOf node +
    if (linkTarget? node).isSome then 0xa000
    else
      match node.content with
      | .file _ => 0x8000
      | .directory => 0x4000
      | .pipe _ => 0x1000
      | _ => 0x2000

def modeText (node : Node) : String :=
  (if (linkTarget? node).isSome then "l" else Listing.kindLetter node) ++ modeLetters (modeOf node)

def deviceNumbers (node : Node) : Nat × Nat :=
  match node.content with
  | .device .void => (1, 3)
  | .device .zeros => (1, 5)
  | .device .full => (1, 7)
  | .device .noise => (1, 8)
  | .device .terminal => (5, 0)
  | _ => (0, 0)

def diskNumbers : Nat × Nat := (254, 0)

def combined (numbers : Nat × Nat) : Nat := numbers.1 * 256 + numbers.2

def timeText (time : Nat) : String := Moment.format time "%Y-%m-%d %H:%M:%S.%N %z"

def field (quotes : Bool) (s : Subject) (letter : Char) : Field :=
  let quote (name : String) : String := if quotes then quoted name else name
  let node := s.node
  match letter with
  | 'a' => .octal (modeOf node)
  | 'A' => .text (modeText node)
  | 'b' => .number (2 * Listing.kilobytes node)
  | 'B' => .number 512
  | 'C' =>
    .failure ("failed to get security context of " ++ quoted s.name ++ ": No data available") "?"
  | 'd' => .number (combined diskNumbers)
  | 'D' => .hex (combined diskNumbers)
  | 'f' => .hex (rawMode node)
  | 'F' => .text (kindOf node)
  | 'g' | 'u' => .number ((Listing.ownerName true node).toNat?.getD 0)
  | 'G' | 'U' => .text (Listing.ownerName false node)
  | 'h' => .number s.names
  | 'i' => .number s.number
  | 'm' => .text "/"
  | 'n' => .text s.name
  | 'N' => .text (quote s.name)
  | 'o' => .number 4096
  | 'r' => .number (combined (deviceNumbers node))
  | 'R' => .hex (combined (deviceNumbers node))
  | 's' => .number (match linkTarget? node with
    | some target => target.length
    | none => Listing.sizeOf node)
  | 't' => .hex (deviceNumbers node).1
  | 'T' => .hex (deviceNumbers node).2
  | 'w' | 'y' | 'z' => .text (timeText node.modified)
  | 'W' | 'Y' | 'Z' => .seconds node.modified
  | 'x' => .text (timeText node.accessed)
  | 'X' => .seconds node.accessed
  | _ => .text "?"

def diskField (s : Subject) (letter : Char) : Field :=
  match letter with
  | 'n' => .text s.name
  | 'a' | 'b' | 'f' => .number 1000000
  | 'c' | 'd' => .number 1000000
  | 'i' => .hex 0
  | 'l' => .number 255
  | 's' | 'S' => .number 4096
  | 't' => .hex 0xef53
  | 'T' => .text "ext2/ext3"
  | _ => .text "?"

/-- Flags, width and precision of a directive. -/
structure Layout where
  flags : List Char := []
  width : Nat := 0
  precision : Option (Option Nat) := none

def Layout.pad (l : Layout) (zeros : Bool) (text : String) : String :=
  if l.flags.contains '-' then Text.padRight l.width ' ' text
  else if zeros && l.flags.contains '0' then Text.padLeft l.width '0' text
  else Text.padLeft l.width ' ' text

def Layout.digits (l : Layout) (digits mark : String) : String :=
  let least := (l.precision.join).getD 0
  l.pad l.precision.isNone
    ((if l.flags.contains '#' then mark else "") ++ Text.padLeft least '0' digits)

def Layout.write (l : Layout) : Field → String
  | .text octets | .failure _ octets =>
    l.pad false (match l.precision with
      | some n => (octets.take (n.getD 0)).toString
      | none => octets)
  | .number n => l.digits (toString n) ""
  | .octal n => l.digits (octalDigits 1 n) "0"
  | .hex n => l.digits (String.ofList (Nat.toDigits 16 n)) (if n = 0 then "" else "0x")
  | .seconds time =>
    let whole := toString (time / 1000000000)
    match l.precision with
    | none => l.pad true whole
    | some places =>
      let places := places.getD 9
      let nanos := Text.padLeft 9 '0' (toString (time % 1000000000))
      let digits := (Text.padRight places '0' nanos).take places
      l.pad true (if places = 0 then whole else whole ++ "." ++ digits.toString)

inductive Piece where
  | text (octets : String)
  | field (layout : Layout) (letter : Char)
  | half (layout : Layout) (upper : Bool) (letter : Char)
  | warning (message : String)
  | wrong (directive : String)

def octal (digits : List Char) : Char :=
  Char.ofNat (digits.foldl (fun n c ↦ n * 8 + (c.toNat - '0'.toNat)) 0 % 256)

def hexValue (c : Char) : Nat :=
  if c.isDigit then c.toNat - '0'.toNat else c.toLower.toNat - 'a'.toNat + 10

def isHex (c : Char) : Bool := c.isDigit || ('a' ≤ c.toLower && c.toLower ≤ 'f')

def isOctal (c : Char) : Bool := '0' ≤ c && c ≤ '7'

def escape (cs : List Char) : List Piece × List Char :=
  match cs with
  | [] => ([.warning "backslash at end of format", .text "\\"], [])
  | c :: rest =>
    let one (x : Char) : List Piece × List Char := ([.text x.toString], rest)
    match c with
    | 'a' => one '\x07'
    | 'b' => one '\x08'
    | 'e' => one '\x1b'
    | 'f' => one '\x0c'
    | 'n' => one '\n'
    | 'r' => one '\r'
    | 't' => one '\t'
    | 'v' => one '\x0b'
    | '"' | '\\' => one c
    | _ =>
      let digits := (cs.take 3).takeWhile isOctal
      let codes := (rest.take 2).takeWhile isHex
      if !digits.isEmpty then ([.text (octal digits).toString], cs.drop digits.length)
      else if c = 'x' && !codes.isEmpty then
        ([.text (Char.ofNat (codes.foldl (fun n x ↦ n * 16 + hexValue x) 0)).toString],
          rest.drop codes.length)
      else ([.warning ("unrecognized escape '\\" ++ c.toString ++ "'"), .text c.toString], rest)

def flagLetters : List Char := ['\x27', '-', '+', ' ', '#', '0', 'I']

def directive (cs : List Char) : Piece × List Char :=
  let flags := cs.takeWhile flagLetters.contains
  let rest := cs.drop flags.length
  let digits := rest.takeWhile Char.isDigit
  let rest := rest.drop digits.length
  let number (ds : List Char) : Nat := (String.ofList ds).toNat?.getD 0
  let (precision, rest) := match rest with
    | '.' :: more =>
      let places := more.takeWhile Char.isDigit
      (some (if places.isEmpty then none else some (number places)), more.drop places.length)
    | _ => (none, rest)
  let used := cs.take (cs.length - rest.length)
  let layout : Layout := { flags, width := number digits, precision }
  match rest with
  | [] => (if used.isEmpty then .text "%" else .wrong ("%" ++ String.ofList used), [])
  | '%' :: more =>
    (if used.isEmpty then .text "%" else .wrong ("%" ++ String.ofList used ++ "%"), more)
  | 'H' :: c :: more =>
    if c = 'd' || c = 'r' then (.half layout true c, more) else (.field layout 'H', c :: more)
  | 'L' :: c :: more =>
    if c = 'd' || c = 'r' then (.half layout false c, more) else (.field layout 'L', c :: more)
  | c :: more => (.field layout c, more)

/-- Takes a format apart, with escapes if they count. -/
def pieces (escapes : Bool) : Nat → List Char → List Piece
  | 0, _ => []
  | _ + 1, [] => []
  | n + 1, '%' :: rest =>
    let (piece, rest) := directive rest
    piece :: pieces escapes n rest
  | n + 1, '\\' :: rest =>
    if escapes then
      let (found, rest) := escape rest
      found ++ pieces escapes n rest
    else .text "\\" :: pieces escapes n rest
  | n + 1, c :: rest =>
    let plain := (c :: rest).takeWhile fun x ↦ x ≠ '%' && x ≠ '\\'
    .text (String.ofList plain) :: pieces escapes n (rest.drop (plain.length - 1))

def describe (find : Char → Field) (subject : Subject) (format : List Piece) : Tool Unit := do
  for piece in format do
    match piece with
    | .text octets => say octets
    | .warning message => complain ("warning: " ++ message)
    | .wrong text => fail 1 (cited text ++ ": invalid directive")
    | .half layout upper letter =>
      let numbers := if letter = 'd' then diskNumbers else deviceNumbers subject.node
      say (layout.write (.number (if upper then numbers.1 else numbers.2)))
    | .field layout letter =>
      let found := find letter
      if let .failure message _ := found then complain message
      let shown := layout.write found
      say (match letter, linkTarget? subject.node, found with
        | 'N', some target, .text _ =>
          let quotes := shown.toList.any fun c ↦ c = '\x27' || c = '"'
          shown ++ " -> " ++ layout.write (.text (if quotes then quoted target else target))
        | _, _, _ => shown)

def usualFormat (node : Node) : String :=
  let isDevice := kindOf node = "character special file"
  "  File: %N\n  Size: %-10s\tBlocks: %-10b IO Block: %-6o %F\n" ++
    (if isDevice then "Device: %Hd,%Ld\tInode: %-11i Links: %-5h Device type: %Hr,%Lr\n"
      else "Device: %Hd,%Ld\tInode: %-11i Links: %h\n") ++
    "Access: (%04a/%10.10A)  Uid: (%5u/%8U)   Gid: (%5g/%8G)\n" ++
    "Access: %x\nModify: %y\nChange: %z\n Birth: %w\n"

def terseFormat : String := "%n %s %b %f %u %g %D %i %h %t %T %X %Y %Z %W %o\n"

def diskFormat : String :=
  "  File: \"%n\"\n    ID: %-8i Namelen: %-7l Type: %T\n" ++
    "Block size: %-10s Fundamental block size: %S\n" ++
    "Blocks: Total: %-10b Free: %-10f Available: %a\nInodes: Total: %-10c Free: %d\n"

def terseDiskFormat : String := "%n %i %l %t %s %S %b %f %a %c %d\n"

def table : OptionTable :=
  { short := "c:fLt"
    long := OptionTable.plain [("dereference", "L"), ("file-system", "f"), ("terse", "t")] ++
      OptionTable.valued [("cached", "cached"), ("format", "c"), ("printf", "printf")] }

def subject? (follow : Bool) (operand : String) : Tool (Except SystemFault Subject) := do
  if operand = "-" then
    match ← nodeAt? 0 with
    | some node => return .ok { name := operand, node, number := 0, names := 1 }
    | none => return .error .badDescriptor
  else
    match ← look operand follow with
    | .error fault => return .error fault
    | .ok (place, node) =>
      let disk ← Strand.disk
      let reached ← node? operand
      let node := if follow then reached.toOption.getD node else node
      return .ok { name := operand, node, number := Listing.numberOf (disk.ref? place)
                   names := disk.nameCount place node }

def main (args : List String) : Tool Nat := do
  let (found, operands) ← options table args
  if let some text := found.value? "cached" then
    let _ ← chooseWord "--cached" [["default"], ["never"], ["always"]] text
  if operands.isEmpty then failWithHelp 1 "missing operand"
  let ofDisk := found.has "f"
  let given := found.reverse.find? fun o ↦ o.1 = "c" || o.1 = "printf"
  let chosen : Option (String × Bool) := match given with
    | some ("c", some text) => some (text, false)
    | some (_, some text) => some (text, true)
    | _ => none
  let quotes := chosen.any fun (text, _) ↦ 1 < (text.splitOn "%N").length
  forAll operands fun operand ↦ do
    match ← subject? (found.has "L" || ofDisk) operand with
    | .error fault =>
      complain ((if ofDisk then "cannot read file system information for " else "cannot statx ") ++
        quoted operand ++ ": " ++ fault.describe)
      return false
    | .ok s =>
      let (text, escapes) := chosen.getD
        (match ofDisk, found.has "t" with
          | true, true => terseDiskFormat
          | true, false => diskFormat
          | false, true => terseFormat
          | false, false => usualFormat s.node, false)
      describe (if ofDisk then diskField s else field quotes s) s
        (pieces escapes (text.length + 1) text.toList)
      if chosen.isSome && !escapes then say "\n"
      return true

end RegisterLang.Tool.Status
