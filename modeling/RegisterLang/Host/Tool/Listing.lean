import RegisterLang.Host.Shell.Pattern
import RegisterLang.Host.Tool.Clock
import RegisterLang.Host.Tool.Permission

namespace RegisterLang.Tool

def fitsPattern (pattern name : String) (period : Bool := true) : Bool :=
  if !period && name.toList.head? = some '.' && pattern.toList.head? ≠ some '.' then false
  else (Shell.Pattern.read (pattern.toList.map fun c ↦ { char := c })).fits name.toList

/-- A name as digits and what stands between them, to sort numbers by value. -/
def versionKey : Nat → List Char → List (Nat × Nat × List Char)
  | 0, _ => []
  | _ + 1, [] => []
  | n + 1, cs =>
    let word := cs.takeWhile (!·.isDigit)
    let rest := cs.drop word.length
    let digits := rest.takeWhile Char.isDigit
    let value := ((String.ofList digits).toNat?).getD 0
    -- A letter counts less than anything else, and the end less than a letter.
    (0, 0, word.flatMap fun c ↦
      if c = '~' then ['\x00'] else if c.isAlpha then ['\x02', c] else ['\x03', c]) ::
      (1, value, []) :: versionKey n (rest.drop digits.length)

def versionLess : List (Nat × Nat × List Char) → List (Nat × Nat × List Char) → Option Bool
  | [], [] => none
  | [], _ :: _ => some true
  | _ :: _, [] => some false
  | (_, a, x) :: as, (_, b, y) :: bs =>
    let x := x ++ ['\x01']
    let y := y ++ ['\x01']
    if x < y then some true
    else if y < x then some false
    else if a < b then some true
    else if b < a then some false
    else versionLess as bs

def versionStem (name : List Char) : List Char :=
  let rec strip : Nat → List Char → List Char
    | 0, reversed => reversed
    | n + 1, reversed =>
      let suffix := reversed.takeWhile fun c ↦ c.isAlphanum || c = '~'
      match reversed.drop suffix.length with
      | '.' :: before =>
        match suffix.getLast? with
        | some c => if (c.isAlpha || c = '~') && !before.isEmpty then strip n before else reversed
        | none => reversed
      | _ => reversed
  (strip name.length name.reverse).reverse

def versionBefore (a b : String) : Bool :=
  if a = b then false
  else if a.isEmpty || b.isEmpty then a.isEmpty
  else
    let dotted (s : String) : Bool := s.toList.head? = some '.'
    if dotted a ≠ dotted b then dotted a
    else
      let key (cs : List Char) := versionKey (cs.length + 1) cs
      let strip (s : String) : List Char := versionStem s.toList
      match versionLess (key (strip a)) (key (strip b)) with
      | some less => less
      | none => (versionLess (key a.toList) (key b.toList)).getD (a < b)

def humanSize (base : Nat) (n : Nat) : String :=
  let rec scale : List Char → Nat → Nat → String
    | [], size, unit => toString (size / unit)
    | c :: cs, size, unit =>
      if size < unit * base then
        if unit = 1 then toString size
        else
          let tenths := (size * 10 + unit - 1) / unit
          if tenths < 100 then toString (tenths / 10) ++ "." ++ toString (tenths % 10) ++ c.toString
          else
            let whole := (size + unit - 1) / unit
            if whole < base then toString whole ++ c.toString
            else
              match cs with
              | d :: _ => "1.0" ++ d.toString
              | [] => toString whole ++ c.toString
      else scale cs size (unit * base)
  if n < base then toString n
  else scale ((if base = 1000 then 'k' else 'K') :: "MGTPEZY".toList) n base

namespace Listing

inductive Format where
  | single
  | columns
  | across
  | commas
  | long
  deriving DecidableEq, Repr

inductive Order where
  | name
  | time
  | size
  | extension
  | version
  | width
  | none
  deriving DecidableEq, Repr

inductive Marks where
  | none
  | slash
  | fileType
  | classify
  deriving DecidableEq, Repr

/-- How names are shown that hold more than plain characters. -/
inductive Quoting where
  | literal
  | shell
  | shellAlways
  | shellEscape
  | shellEscapeAlways
  | c
  | escape
  deriving DecidableEq, Repr

structure Request where
  format : Format := .single
  order : Order := .name
  reverse : Bool := false
  all : Bool := false
  most : Bool := false
  marks : Marks := .none
  quoting : Quoting := .literal
  hideControls : Bool := false
  recursive : Bool := false
  itself : Bool := false
  followAll : Bool := false
  followOperands : Bool := false
  directoriesFirst : Bool := false
  ignored : List String := []
  hidden : List String := []
  noBackups : Bool := false
  blocks : Bool := false
  inode : Bool := false
  owner : Bool := true
  group : Bool := true
  numeric : Bool := false
  human : Option Nat := none
  accessTime : Bool := false
  timeStyle : Option String := none
  width : Nat := 80
  tab : Nat := 8
  stop : String := "\n"

/-- A file with what is to be known of it before it can be shown. -/
structure Entry where
  name : String
  path : String
  place : Place
  node : Node
  leadsToDirectory : Bool := false
  target : Option String := none
  linkMark : Option Node := none

def sizeOf (node : Node) : Nat :=
  match node.content with
  | .file bytes => bytes.size
  | .directory => 4096
  | .link target => target.utf8ByteSize
  | _ => 0

def kilobytes (node : Node) : Nat :=
  match node.content with
  | .file bytes => (bytes.size + 4095) / 4096 * 4
  | .directory => 4
  | _ => 0

def numberOf (ref : Option Ref) : Nat :=
  match ref with
  | some (.own n) => n + 1000
  | some (.fixed p) => p.length + 2
  | none => 0

def timeOf (r : Request) (node : Node) : Nat :=
  if r.accessTime then node.accessed else node.modified

def escaped (quote : Bool) (name : String) : String :=
  String.join (name.toList.map fun c ↦
    if c = '\\' then "\\\\"
    else if c = '"' && quote then "\\\""
    else if c = ' ' && !quote then "\\ "
    else (spelling? c).getD c.toString)

def shown (r : Request) (name : String) : String :=
  let hide (text : String) : String :=
    if r.hideControls then text.map fun c ↦ if (spelling? c).isSome then '?' else c else text
  match r.quoting with
  | .literal => hide name
  | .c => "\"" ++ escaped true name ++ "\""
  | .escape => escaped false name
  | .shellEscape => quotedIfNeeded name
  | .shellEscapeAlways => quoted name
  | .shell | .shellAlways =>
    let inner := hide name
    if needsQuotes name || r.quoting = .shellAlways then
      if name.toList.contains '\x27' && !(name.toList.any ("\"$\x60\\".toList.contains ·)) then
        "\"" ++ inner ++ "\""
      else "'" ++ (inner.replace "'" "'\\''") ++ "'"
    else inner

def mark (r : Request) (node : Node) : String :=
  match r.marks with
  | .none => ""
  | marks =>
    match node.content with
    | .directory => "/"
    | .link _ => if marks = .slash then "" else "@"
    | .pipe _ => if marks = .slash then "" else "|"
    | .file _ => if marks = .classify && node.mode &&& 73 ≠ 0 then "*" else ""
    | .device _ => ""

def dressed (r : Request) (width : Nat) (e : Entry) : String :=
  (if r.blocks then
    let text := match r.human with
      | some base => humanSize base (kilobytes e.node * 1024)
      | none => toString (kilobytes e.node)
    String.ofList (List.replicate (width - text.length) ' ') ++ text ++ " "
  else "") ++ shown r e.name ++ mark r e.node

def extension (name : String) : String :=
  let reversed := name.toList.reverse
  let suffix := reversed.takeWhile (· ≠ '.')
  if suffix.length = reversed.length then "" else String.ofList ('.' :: suffix.reverse)

def before (r : Request) (a b : Entry) : Bool :=
  let byName := a.name ≤ b.name
  let lower := match r.order with
    | .name | .none => byName
    | .time =>
      let x := timeOf r a.node
      let y := timeOf r b.node
      y < x || (x = y && byName)
    | .size => sizeOf b.node < sizeOf a.node || (sizeOf a.node = sizeOf b.node && byName)
    | .extension =>
      let x := extension a.name
      let y := extension b.name
      x < y || (x = y && byName)
    | .version => !versionBefore b.name a.name
    | .width =>
      let x := (shown r a.name).length
      let y := (shown r b.name).length
      x < y || (x = y && byName)
  lower

def sorted (r : Request) (entries : List Entry) : List Entry :=
  let ordered := if r.order = .none then entries else entries.mergeSort (before r)
  let ordered := if r.reverse && r.order ≠ .none then ordered.reverse else ordered
  if r.directoriesFirst then
    let isDirectory (e : Entry) : Bool := e.node.isDirectory || e.leadsToDirectory
    ordered.filter isDirectory ++ ordered.filter (!isDirectory ·)
  else ordered

def indent (tab : Nat) : Nat → Nat → Nat → String
  | 0, _, _ => ""
  | n + 1, start, goal =>
    if goal ≤ start then ""
    else if tab ≠ 0 && (start + 1) / tab < goal / tab then
      "\t" ++ indent tab n (start + (tab - start % tab)) goal
    else " " ++ indent tab n (start + 1) goal

/-- The widths of a number of columns, if they fit a line. -/
def columnWidths (byColumns : Bool) (limit : Nat) (lengths : List Nat) (count : Nat) :
    Option (List Nat) :=
  let rows := (lengths.length + count - 1) / count
  let columnOf (i : Nat) : Nat := if byColumns then i / rows else i % count
  let widths := lengths.zipIdx.foldl (fun widths (length, i) ↦
    let column := columnOf i
    let needed := length + (if column = count - 1 then 0 else 2)
    widths.modify column (max needed)) (List.replicate count 3)
  if widths.foldl (· + ·) 0 < limit then some widths else none

def inColumns (r : Request) (byColumns : Bool) (texts : List String) : String :=
  let lengths := texts.map String.length
  let most := min ((r.width + 2) / 3) texts.length
  let widths := if r.width = 0 then
      lengths.zipIdx.map fun (n, i) ↦ n + (if i + 1 = lengths.length then 0 else 2)
    else
      ((List.range most).reverse.findSome? fun n ↦
        columnWidths byColumns r.width lengths (n + 1)).getD [3]
  let count := max 1 widths.length
  let rows := (texts.length + count - 1) / count
  let cell (row column : Nat) : Option String :=
    texts[if byColumns then column * rows + row else row * count + column]?
  let line (row : Nat) : String :=
    let cells := (List.range count).filterMap fun column ↦
      (cell row column).map fun text ↦ (text, (widths[column]?).getD 0)
    (cells.zipIdx.foldl (fun (text, position) ((word, width), i) ↦
      let after := position + word.length
      if i + 1 = cells.length then (text ++ word, after)
      else (text ++ word ++ indent r.tab (width + 1) after (position + width), position + width))
      ("", 0)).1 ++ r.stop
  if texts.isEmpty then "" else String.join ((List.range rows).map line)

def withCommas (r : Request) (texts : List String) : String :=
  if texts.isEmpty then ""
  else
    (texts.zipIdx.foldl (fun (sofar, position) (text, i) ↦
      if i = 0 then (text, text.length)
      else if r.width = 0 || position + text.length + 2 < r.width then
        (sofar ++ ", " ++ text, position + 2 + text.length)
      else (sofar ++ "," ++ r.stop ++ text, text.length)) ("", 0)).1 ++ r.stop

def halfYear : Nat := 15778476 * 1000000000

def kindLetter (node : Node) : String :=
  match node.content with
  | .directory => "d"
  | .link _ => "l"
  | .pipe _ => "p"
  | .device _ => "c"
  | .file _ => "-"

def ownerName (numeric : Bool) (node : Node) : String :=
  if node.owned then if numeric then userId else userName
  else if numeric then "0" else "root"

def timeText (r : Request) (now : Nat) (node : Node) : String :=
  let time := timeOf r node
  match r.timeStyle with
  | some style => Moment.format time style
  | none =>
    Moment.format time
      (if time ≤ now && now < time + halfYear then "%b %e %H:%M" else "%b %e  %Y")

def longLines (r : Request) (d : Disk) (entries : List Entry) : List String :=
  let column (right : Bool) (texts : List String) : List String :=
    let width := texts.foldl (fun w t ↦ max w t.length) 0
    texts.map fun t ↦
      let fill := String.ofList (List.replicate (width - t.length) ' ')
      if right then fill ++ t else t ++ fill
  let size (e : Entry) : String := match r.human with
    | some base => humanSize base (sizeOf e.node)
    | none => toString (sizeOf e.node)
  let counts := column true (entries.map fun e ↦ toString (d.nameCount e.place e.node))
  let owners := column false (entries.map fun e ↦ ownerName r.numeric e.node)
  let sizes := column true (entries.map size)
  let blocks := column true (entries.map fun e ↦ match r.human with
    | some base => humanSize base (kilobytes e.node * 1024)
    | none => toString (kilobytes e.node))
  (((entries.zip counts).zip owners).zip (sizes.zip blocks)).map
    fun (((e, count), owner), (size, block)) ↦
      let words := (if r.blocks then [block] else []) ++
        [kindLetter e.node ++ modeLetters e.node.mode, count] ++
        (if r.owner then [owner] else []) ++ (if r.group then [owner] else []) ++
        [size, timeText r d.now e.node]
      " ".intercalate words ++ " " ++ shown r e.name ++
        match e.target with
        | some target =>
          " -> " ++ shown r target ++ ((e.linkMark.map (mark r)).getD "")
        | none => mark r e.node

/-- Shows entries in the format that was asked for. -/
def present (r : Request) (entries : List Entry) : Tool Unit := do
  let d ← Strand.disk
  match r.format with
  | .long => for line in longLines r d entries do say (line ++ r.stop)
  | format =>
    let width := entries.foldl (fun w e ↦ max w (toString (kilobytes e.node)).length) 0
    let texts := entries.map (dressed r width)
    say (match format with
      | .columns => inColumns r true texts
      | .across => inColumns r false texts
      | .commas => withCommas r texts
      | _ => String.join (texts.map (· ++ r.stop)))

def entry (r : Request) (operand : Bool) (name path : String) :
    Tool (Except SystemFault Entry) := do
  let d ← Strand.disk
  let text := Octet.toText path
  let plain := d.look text false
  let through := d.look text true
  let leads := match through with
    | .ok (_, node) => node.isDirectory
    | .error _ => false
  let shy := r.format = .long || r.marks = .classify || r.itself
  let follow := r.followAll || (operand && (r.followOperands || (leads && !shy)))
  match if follow then through else plain, plain with
  | .ok (place, node), _ =>
    let target := match node.content with
      | .link target => some (Octet.ofText target)
      | _ => none
    return .ok { name, path, place, node, leadsToDirectory := leads, target
                 linkMark := through.toOption.map (·.2) }
  | .error fault, .ok (place, node) =>
    if r.followAll || leads then return .error fault
    else return .ok { name, path, place, node }
  | .error fault, .error _ => return .error fault

def isIgnored (r : Request) (name : String) : Bool :=
  let dotted := name.toList.head? = some '.'
  (dotted && !r.all && !r.most) ||
    r.ignored.any (fitsPattern · name false) ||
    (!r.all && !r.most && r.hidden.any (fitsPattern · name false)) ||
    (r.noBackups && name.toList.getLast? = some '~')

/-- Lists a directory, and those in it if that is wanted. -/
def directory (r : Request) : Nat → Bool → Bool → Bool → String → String → Tool (Nat × Bool)
  | 0, _, _, written, _, _ => return (1, written)
  | n + 1, operand, titled, written, shownPath, path => do
    match (← Strand.disk).list (Octet.toText path) with
    | .error fault =>
      complain ("cannot open directory " ++ quoted path ++ ": " ++ fault.describe)
      return (if operand then 2 else 1, written)
    | .ok (_, children) =>
      let names := (if r.all then [".", ".."] else []) ++ children.map Octet.ofText
      let mut entries := []
      let mut status := 0
      for name in names do
        unless isIgnored r name do
          match ← entry r false name (below path name) with
          | .ok e => entries := e :: entries
          | .error fault =>
            complain ("cannot access " ++ quoted (below path name) ++ ": " ++ fault.describe)
            status := 1
      let listed := sorted r entries.reverse
      if titled then
        say ((if written then "\n" else "") ++ shownPath ++ ":" ++ r.stop)
      if r.format = .long || r.blocks then
        let total := listed.foldl (fun n e ↦ n + kilobytes e.node) 0
        say ("total " ++ (match r.human with
          | some base => humanSize base (total * 1024)
          | none => toString total) ++ r.stop)
      present r listed
      let mut wrote := written || titled || !listed.isEmpty
      if r.recursive then
        for e in listed do
          if e.node.isDirectory && e.name ≠ "." && e.name ≠ ".." then
            let inner := below path e.name
            let (worse, after) ← directory r n false true true (shown r inner) inner
            status := max status worse
            wrote := after
      return (status, wrote)

def table : OptionTable :=
  { short := "abcdfghiklmnopqrstuvw:xABCDFGHI:LNQRST:UXZ1", failure := 2
    long := OptionTable.plain
      [("all", "a"), ("escape", "b"), ("directory", "d"), ("dired", "D"),
        ("full-time", "full-time"), ("group-directories-first", "group-directories-first"),
        ("human-readable", "h"), ("inode", "i"), ("kibibytes", "k"), ("numeric-uid-gid", "n"),
        ("no-group", "G"), ("hide-control-chars", "q"), ("reverse", "r"), ("size", "s"),
        ("almost-all", "A"), ("ignore-backups", "B"), ("file-type", "file-type"), ("si", "si"),
        ("dereference-command-line", "H"),
        ("dereference-command-line-symlink-to-dir", "dereference-to-dir"), ("dereference", "L"),
        ("literal", "N"), ("quote-name", "Q"), ("recursive", "R"),
        ("show-control-chars", "show-control-chars"), ("context", "Z"), ("author", "author"),
        ("zero", "zero")] ++
      OptionTable.valued
        [("hide", "hide"), ("ignore", "I"), ("indicator-style", "indicator-style"),
          ("quoting-style", "quoting-style"), ("sort", "sort"), ("format", "format"),
          ("tabsize", "T"), ("time", "time"), ("time-style", "time-style"), ("width", "w"),
          ("block-size", "block-size")] ++
      [{ name := "classify", key := "F", need := .maybe },
        { name := "color", key := "color", need := .maybe },
        { name := "hyperlink", key := "hyperlink", need := .maybe }] }

def quotingOf (text : String) : Tool Quoting := do
  match ← chooseWord "--quoting-style"
      [["literal"], ["shell"], ["shell-always"], ["shell-escape"], ["shell-escape-always"], ["c"],
        ["c-maybe"], ["escape"], ["locale"], ["clocale"]] text 2 with
  | "shell" => return .shell
  | "shell-always" => return .shellAlways
  | "shell-escape" => return .shellEscape
  | "shell-escape-always" => return .shellEscapeAlways
  | "c" | "c-maybe" => return .c
  | "escape" => return .escape
  | "locale" | "clocale" => return .shellAlways
  | _ => return .literal

def orderOf (text : String) : Tool Order := do
  match ← chooseWord "--sort"
      [["none"], ["time"], ["size"], ["extension"], ["version"], ["width"]] text 2 with
  | "none" => return .none
  | "time" => return .time
  | "size" => return .size
  | "extension" => return .extension
  | "version" => return .version
  | _ => return .width

def apply (r : Request) (key : String) (value : Option String) : Tool Request := do
  let text := value.getD ""
  match key with
  | "a" => return { r with all := true, most := false }
  | "A" => return { r with most := true, all := false }
  | "b" => return { r with quoting := .escape }
  | "Q" => return { r with quoting := .c }
  | "N" => return { r with quoting := .literal }
  | "q" => return { r with hideControls := true }
  | "show-control-chars" => return { r with hideControls := false }
  | "B" => return { r with noBackups := true }
  | "C" => return { r with format := .columns }
  | "x" => return { r with format := .across }
  | "m" => return { r with format := .commas }
  | "1" => return if r.format = .long then r else { r with format := .single }
  | "l" => return { r with format := .long }
  | "g" => return { r with format := .long, owner := false }
  | "o" => return { r with format := .long, group := false }
  | "n" => return { r with format := .long, numeric := true }
  | "G" => return { r with group := false }
  | "d" => return { r with itself := true }
  | "f" =>
    return { r with all := true, order := .none, format := if r.format = .long then .single
      else r.format }
  | "F" =>
    match text with
    | "never" | "no" | "none" | "auto" | "tty" | "if-tty" => return { r with marks := .none }
    | _ => return { r with marks := .classify }
  | "p" => return { r with marks := .slash }
  | "file-type" => return { r with marks := .fileType }
  | "indicator-style" =>
    match ← chooseWord "--indicator-style" [["none"], ["slash"], ["file-type"], ["classify"]] text
        2 with
    | "none" => return { r with marks := .none }
    | "slash" => return { r with marks := .slash }
    | "file-type" => return { r with marks := .fileType }
    | _ => return { r with marks := .classify }
  | "h" => return { r with human := some 1024 }
  | "si" => return { r with human := some 1000 }
  | "H" => return { r with followOperands := true }
  | "L" => return { r with followAll := true }
  | "i" => return { r with inode := true }
  | "I" => return { r with ignored := text :: r.ignored }
  | "hide" => return { r with hidden := text :: r.hidden }
  | "R" => return { r with recursive := true }
  | "r" => return { r with reverse := true }
  | "s" => return { r with blocks := true }
  | "S" => return { r with order := .size }
  | "t" => return { r with order := .time }
  | "u" => return { r with accessTime := true }
  | "U" => return { r with order := .none }
  | "v" => return { r with order := .version }
  | "X" => return { r with order := .extension }
  | "sort" => return { r with order := ← orderOf text }
  | "quoting-style" => return { r with quoting := ← quotingOf text }
  | "group-directories-first" => return { r with directoriesFirst := true }
  | "full-time" => return { r with format := .long, timeStyle := some "%Y-%m-%d %H:%M:%S.%N %z" }
  | "time" =>
    match ← chooseWord "--time" [["atime", "access", "use"], ["ctime", "status"],
        ["mtime", "modification"], ["birth", "creation"]] text 2 with
    | "atime" => return { r with accessTime := true }
    | _ => return r
  | "time-style" =>
    match text with
    | "full-iso" => return { r with timeStyle := some "%Y-%m-%d %H:%M:%S.%N %z" }
    | "long-iso" => return { r with timeStyle := some "%Y-%m-%d %H:%M" }
    | "locale" => return { r with timeStyle := none }
    | "iso" => return { r with timeStyle := some "%Y-%m-%d " }
    | _ =>
      if text.toList.head? = some '+' then
        return { r with timeStyle := some (String.ofList (text.toList.drop 1)) }
      else
        fail 2 ("invalid argument " ++ cited text ++ " for 'time style'\n" ++
          "Valid arguments are:\n  - [posix-]full-iso\n  - [posix-]long-iso\n  - [posix-]iso\n" ++
          "  - [posix-]locale\n  - +FORMAT (e.g., +%H:%M) for a 'date'-style format")
  | "format" =>
    match ← chooseWord "--format" [["verbose", "long"], ["commas"], ["horizontal", "across"],
        ["vertical"], ["single-column"]] text 2 with
    | "verbose" => return { r with format := .long }
    | "commas" => return { r with format := .commas }
    | "horizontal" => return { r with format := .across }
    | "vertical" => return { r with format := .columns }
    | _ => return { r with format := .single }
  | "w" =>
    match readCount "" text with
    | .ok n => return { r with width := n }
    | .error _ => fail 2 ("invalid line width: " ++ cited text)
  | "T" =>
    match readCount "" text with
    | .ok n => return { r with tab := n }
    | .error _ => fail 2 ("invalid tab size: " ++ cited text)
  | "zero" => return { r with stop := "\x00", format := .single, quoting := .literal }
  | _ => return r

def mainFor (start : Request) (args : List String) : Tool Nat := do
  let (found, operands) ← options table args
  let width := ((← setting? "COLUMNS").bind String.toNat?).getD 80
  let mut r := { start with width }
  for (key, value) in found do r ← apply r key value
  let mut files := []
  let mut folders := []
  let mut status := 0
  for operand in (if operands.isEmpty then ["."] else operands) do
    match ← entry r true operand operand with
    | .ok e =>
      if e.node.isDirectory && !r.itself then folders := e :: folders else files := e :: files
    | .error fault =>
      complain ("cannot access " ++ quoted operand ++ ": " ++ fault.describe)
      status := 2
  unless files.isEmpty do present r (sorted r files.reverse)
  let titled := operands.length > 1 || r.recursive
  let mut written := !files.isEmpty
  for e in sorted r folders.reverse do
    let bound := (← Strand.disk).entries.length + 2
    let (worse, wrote) ← directory r bound true titled written (shown r e.name) e.path
    status := max status worse
    written := wrote
  return status

def main : List String → Tool Nat := mainFor {}

end Listing

end RegisterLang.Tool
