import RegisterLang.Host.Regex.Match
import RegisterLang.Host.Text.Difference
import RegisterLang.Host.Tool.Field
import RegisterLang.Host.Tool.Listing

namespace RegisterLang.Tool.Differ

/-- How the differences of two files are shown. -/
inductive Style where
  | normal
  | unified
  | context
  | editor
  | revision
  | sideBySide
  | branches (name : String)
  deriving DecidableEq, Repr

structure Request where
  style : Style := .normal
  context : Nat := 3
  brief : Bool := false
  identical : Bool := false
  recursive : Bool := false
  newFile : Bool := false
  oneSided : Bool := false
  fold : Bool := false
  allBlanks : Bool := false
  blankChanges : Bool := false
  trailing : Bool := false
  blankLines : Bool := false
  asText : Bool := false
  labels : List String := []
  width : Nat := 130
  leftColumn : Bool := false
  onlyChanges : Bool := false
  indent : Bool := false
  ignored : Option Regex.Matcher := none
  excluded : List String := []
  spelled : List String := []

/-- One of the two files: its lines, and whether the last one is ended. -/
structure Side where
  name : String
  label : String
  lines : Array String
  ended : Bool

def isBlank (c : Char) : Bool := c = ' ' || ('\t' ≤ c && c ≤ '\r')

def squeeze : List Char → List Char
  | [] => []
  | c :: cs =>
    if isBlank c then
      if cs.all isBlank then []
      else
        match squeeze cs with
        | ' ' :: rest => ' ' :: rest
        | rest => ' ' :: rest
    else c :: squeeze cs

def key (r : Request) (line : String) : String :=
  let cs := line.toList
  let cs := if r.allBlanks then cs.filter (!isBlank ·)
    else if r.blankChanges then squeeze cs
    else if r.trailing then (cs.reverse.dropWhile isBlank).reverse
    else cs
  String.ofList (if r.fold then cs.map Char.toLower else cs)

/-- Lines as numbers, the same one for lines that count as equal. -/
def classify (r : Request) (a b : Side) : Array Nat × Array Nat :=
  let keys (s : Side) : List String :=
    s.lines.toList.zipIdx.map fun (line, i) ↦
      let k := key r line
      -- A last line that was not ended is not the same as one that was.
      if !s.ended && i + 1 = s.lines.size && !r.allBlanks && !r.blankChanges then k ++ "\n" else k
  let number (known : List (String × Nat)) (k : String) : List (String × Nat) × Nat :=
    match known.lookup k with
    | some n => (known, n)
    | none => ((k, known.length) :: known, known.length)
  let step (state : List (String × Nat) × List Nat) (k : String) : List (String × Nat) × List Nat :=
    let (known, n) := number state.1 k
    (known, n :: state.2)
  let (known, na) := (keys a).foldl step ([], [])
  let (_, nb) := (keys b).foldl step (known, [])
  (na.reverse.toArray, nb.reverse.toArray)

def marked (s : Side) (mark : String) (i : Nat) : String :=
  let line := mark ++ s.lines.getD i ""
  if !s.ended && i + 1 = s.lines.size then line ++ "\n\\ No newline at end of file\n"
  else line ++ "\n"

def markedLines (s : Side) (mark : String) (start count : Nat) : String :=
  String.join ((List.range count).map fun i ↦ marked s mark (start + i))

def range (start count : Nat) : String :=
  if count ≤ 1 then toString (start + count)
  else toString (start + 1) ++ "," ++ toString (start + count)

def normal (r : Request) (a b : Side) (h : Difference.Hunk) : String :=
  let letter := if h.removed = 0 then "a" else if h.added = 0 then "d" else "c"
  let blank := if r.indent then "\t" else " "
  range h.start h.removed ++ letter ++ range h.place h.added ++ "\n" ++
    markedLines a ("<" ++ blank) h.start h.removed ++
    (if letter = "c" then "---\n" else "") ++ markedLines b (">" ++ blank) h.place h.added

/-- Hunks whose contexts touch belong to one group. -/
def groups (context : Nat) : List Difference.Hunk → List (List Difference.Hunk)
  | [] => []
  | h :: rest =>
    match groups context rest with
    | (next :: more) :: others =>
      if next.start - (h.start + h.removed) ≤ 2 * context then (h :: next :: more) :: others
      else [h] :: (next :: more) :: others
    | other => [h] :: other

def extent (context : Nat) (a b : Side) (g : List Difference.Hunk) :
    (Nat × Nat) × (Nat × Nat) :=
  match g.head?, g.getLast? with
  | some first, some last =>
    let before := min context first.start
    let finish := min a.lines.size (last.start + last.removed + context)
    let other := min b.lines.size (last.place + last.added + context)
    ((first.start - before, finish), (first.place - before, other))
  | _, _ => ((0, 0), (0, 0))

def unifiedRange (start finish : Nat) : String :=
  let count := finish - start
  if count = 1 then toString (start + 1)
  else if count = 0 then toString start ++ ",0"
  else toString (start + 1) ++ "," ++ toString count

def unifiedGroup (r : Request) (a b : Side) (g : List Difference.Hunk) : String :=
  let ((start, finish), (place, end_)) := extent r.context a b g
  let mark (c : String) : String := if r.indent then (if c = " " then "\t" else c ++ "\t") else c
  let (text, i) := g.foldl (fun (text, i) h ↦
    (text ++ markedLines a (mark " ") i (h.start - i) ++
      markedLines a (mark "-") h.start h.removed ++
      markedLines b (mark "+") h.place h.added, h.start + h.removed)) ("", start)
  "@@ -" ++ unifiedRange start finish ++ " +" ++ unifiedRange place end_ ++ " @@\n" ++ text ++
    markedLines a (mark " ") i (finish - i)

def contextRange (start finish : Nat) : String :=
  if finish ≤ start + 1 then toString finish else toString (start + 1) ++ "," ++ toString finish

def contextGroup (r : Request) (a b : Side) (g : List Difference.Hunk) : String :=
  let ((start, finish), (place, end_)) := extent r.context a b g
  let side (s : Side) (from_ to_ : Nat) (mark : String)
      (part : Difference.Hunk → Nat × Nat × Nat) : String :=
    let (text, i) := g.foldl (fun (text, i) h ↦
      let (first, count, others) := part h
      let m := if others = 0 then mark else "!"
      (text ++ markedLines s "  " i (first - i) ++ markedLines s (m ++ " ") first count,
        first + count)) ("", from_)
    text ++ markedLines s "  " i (to_ - i)
  "***************\n*** " ++ contextRange start finish ++ " ****\n" ++
    (if g.any (0 < ·.removed) then
      side a start finish "-" fun h ↦ (h.start, h.removed, h.added) else "") ++
    "--- " ++ contextRange place end_ ++ " ----\n" ++
    (if g.any (0 < ·.added) then
      side b place end_ "+" fun h ↦ (h.place, h.added, h.removed) else "")

def editor (b : Side) (h : Difference.Hunk) : String :=
  let place := range h.start h.removed
  if h.added = 0 then place ++ "d\n"
  else
    let lines := (List.range h.added).map fun i ↦ b.lines.getD (h.place + i) ""
    let letter := if h.removed = 0 then "a" else "c"
    let (text, isOpen) := lines.foldl (fun (text, isOpen) line ↦
      let text := if isOpen then text else text ++ "a\n"
      if line = "." then (text ++ "..\n.\ns/.//\n", false) else (text ++ line ++ "\n", true))
      (place ++ letter ++ "\n", true)
    text ++ if isOpen then ".\n" else ""

def revision (b : Side) (h : Difference.Hunk) : String :=
  (if h.removed = 0 then ""
    else "d" ++ toString (h.start + 1) ++ " " ++ toString h.removed ++ "\n") ++
  (if h.added = 0 then ""
    else "a" ++ toString (h.start + h.removed) ++ " " ++ toString h.added ++ "\n" ++
      markedLines b "" h.place h.added)

def spaceTo (start goal : Nat) : String :=
  let stops := ((List.range (goal / 8 + 1)).map (· * 8)).filter fun n ↦ start < n && n ≤ goal
  let last := stops.getLastD start
  String.ofList (List.replicate stops.length '\t' ++ List.replicate (goal - last) ' ')

def halfLine (bound : Nat) (line : String) : String × Nat :=
  let (cs, _, column) := line.toList.foldl (fun (cs, place, column) c ↦
    if c = '\t' then
      let next := place / 8 * 8 + 8
      if next < bound then (cs ++ (spaceTo column next).toList, next, next) else (cs, next, column)
    else if place < bound then (cs ++ [c], place + 1, place + 1)
    else (cs, place + 1, column)) (([] : List Char), 0, 0)
  (String.ofList cs, column)

def halves (width : Nat) : Nat × Nat :=
  let off := (width / 2 + 5 + (if width % 2 = 1 then 1 else 0)) / 8 * 8
  let half := min (off - 3) (width - off)
  (half, if half = 0 then width else off)

def sideLine (r : Request) (left : Option String) (mark : Char) (right : Option String) : String :=
  let (half, second) := halves r.width
  let (text, column) := match left with
    | some line => halfLine half line
    | none => ("", 0)
  let (text, column) := if mark = ' ' then (text, column)
    else
      let goal := (half + second - 1) / 2
      (text ++ spaceTo column goal ++ mark.toString, goal + 1)
  match right with
  | some line => if line.isEmpty then text ++ "\n"
    else text ++ spaceTo column second ++ (halfLine half line).1 ++ "\n"
  | none => text ++ "\n"

def sideBySide (r : Request) (a b : Side) (hunks : List Difference.Hunk) : String :=
  let line (s : Side) (i : Nat) : Option String := s.lines[i]?
  let common (i j count : Nat) : String :=
    if r.onlyChanges then ""
    else
      String.join ((List.range count).map fun k ↦
        if r.leftColumn then sideLine r (line a (i + k)) '(' none
        else sideLine r (line a (i + k)) ' ' (line b (j + k)))
  let (text, i, j) := hunks.foldl (fun (text, i, j) h ↦
    let both := min h.removed h.added
    let changed := String.join ((List.range both).map fun k ↦
      sideLine r (line a (h.start + k)) '|' (line b (h.place + k)))
    let removed := String.join ((List.range (h.removed - both)).map fun k ↦
      sideLine r (line a (h.start + both + k)) '<' none)
    let added := String.join ((List.range (h.added - both)).map fun k ↦
      sideLine r none '>' (line b (h.place + both + k)))
    (text ++ common i j (h.start - i) ++ changed ++ removed ++ added,
      h.start + h.removed, h.place + h.added)) ("", 0, 0)
  text ++ common i j (a.lines.size - i)

def branches (name : String) (a b : Side) (hunks : List Difference.Hunk) : String :=
  let plain (s : Side) (start count : Nat) : String :=
    String.join ((List.range count).map fun i ↦ s.lines.getD (start + i) "" ++ "\n")
  let (text, i) := hunks.foldl (fun (text, i) h ↦
    let part := if h.added = 0 then
        "#ifndef " ++ name ++ "\n" ++ plain a h.start h.removed ++ "#endif /* ! " ++ name ++ " */\n"
      else if h.removed = 0 then
        "#ifdef " ++ name ++ "\n" ++ plain b h.place h.added ++ "#endif /* " ++ name ++ " */\n"
      else
        "#ifndef " ++ name ++ "\n" ++ plain a h.start h.removed ++ "#else /* " ++ name ++ " */\n" ++
          plain b h.place h.added ++ "#endif /* " ++ name ++ " */\n"
    (text ++ plain a i (h.start - i) ++ part, h.start + h.removed)) ("", 0)
  text ++ plain a i (a.lines.size - i)

def counts (r : Request) (a b : Side) (h : Difference.Hunk) : Bool :=
  let lines := (List.range h.removed).map (fun i ↦ a.lines.getD (h.start + i) "") ++
    (List.range h.added).map fun i ↦ b.lines.getD (h.place + i) ""
  let blank := r.blankLines && lines.all (·.isEmpty)
  let fits := match r.ignored with
    | some m => lines.all fun l ↦ (m.search { text := Octet.toBytes l }).isSome
    | none => false
  !blank && !fits

/-- The differences of two files in the style that was asked for. -/
def describe (r : Request) (a b : Side) : String :=
  let (na, nb) := classify r a b
  let horizon := if r.style = .unified || r.style = .context then r.context else 0
  let hunks := (Difference.changes horizon na nb).filter (counts r a b)
  if hunks.isEmpty && r.style ≠ .sideBySide then ""
  else
    match r.style with
    | .normal => String.join (hunks.map (normal r a b))
    | .unified => "--- " ++ a.label ++ "\n+++ " ++ b.label ++ "\n" ++
        String.join ((groups r.context hunks).map (unifiedGroup r a b))
    | .context => "*** " ++ a.label ++ "\n--- " ++ b.label ++ "\n" ++
        String.join ((groups r.context hunks).map (contextGroup r a b))
    | .editor => String.join (hunks.reverse.map (editor b))
    | .revision => String.join (hunks.map (revision b))
    | .sideBySide => sideBySide r a b hunks
    | .branches name => branches name a b hunks

def isSame (r : Request) (a b : Side) : Bool :=
  let (na, nb) := classify r a b
  na = nb || ((Difference.changes 0 na nb).filter (counts r a b)).isEmpty

def giveUp {α : Type} (message : String) : Tool α := do
  let name := (← get).name
  complain message
  complain ("Try '" ++ name ++ " --help' for more information.")
  throw 2

def readSide (r : Request) (path : String) (missing : Bool) :
    Tool (Except SystemFault (ByteArray × Nat)) := do
  if missing then return .ok (.empty, 0)
  let node ← if path = "-" then nodeAt? 0 else do pure (← node? path).toOption
  match ← contentsOf path with
  | .ok bytes => return .ok (bytes, (node.map Node.modified).getD 0)
  | .error fault =>
    if fault = .noSuchFile && r.newFile then return .ok (.empty, 0) else return .error fault

def stamp (r : Request) (time : Nat) : String :=
  Moment.format time (if r.style = .context then "%a %b %e %T %Y" else "%Y-%m-%d %H:%M:%S.%N +0000")

def compareFiles (r : Request) (first second : String) (missing : Bool × Bool) (header : Bool) :
    Tool Nat := do
  let a ← readSide r first missing.1
  let b ← readSide r second missing.2
  match a, b with
  | .error fault, other =>
    complain (first ++ ": " ++ fault.describe)
    if let .error fault := other then complain (second ++ ": " ++ fault.describe)
    return 2
  | _, .error fault =>
    complain (second ++ ": " ++ fault.describe)
    return 2
  | .ok (x, timeA), .ok (y, timeB) =>
    let same : Tool Nat := do
      if r.identical then sayLine ("Files " ++ first ++ " and " ++ second ++ " are identical")
      return 0
    if x.toList = y.toList && r.style ≠ .sideBySide then same
    else
      let isBinary (bytes : ByteArray) : Bool := !r.asText && bytes.toList.contains 0
      if (isBinary x || isBinary y) && !r.brief then
        if x.toList = y.toList then same
        else
          sayLine ("Binary files " ++ first ++ " and " ++ second ++ " differ")
          return 1
      else
        let side (name label : String) (bytes : ByteArray) : Side :=
          let (lines, ended) := splitLines "\n" (Octet.ofBytes bytes)
          { name, label, lines := lines.toArray, ended }
        let labelOf (i : Nat) (name : String) (time : Nat) : String :=
          (r.labels[i]?).getD (name ++ "\t" ++ stamp r time)
        let sa := side first (labelOf 0 first timeA) x
        let sb := side second (labelOf 1 second timeB) y
        if isSame r sa sb then
          if r.style = .sideBySide && !r.brief then say (describe r sa sb)
          same
        else if r.brief then
          sayLine ("Files " ++ first ++ " and " ++ second ++ " differ")
          return 1
        else
          if header then
            sayLine ("diff" ++ String.join (r.spelled.map fun o ↦ " " ++ quotedIfNeeded o) ++ " " ++
              quotedIfNeeded first ++ " " ++ quotedIfNeeded second)
          say (describe r sa sb)
          return 1

/-- Compares what two directories hold, name by name. -/
def compareDirectories (r : Request) : Nat → String → String → Tool Nat
  | 0, _, _ => return 2
  | n + 1, first, second => do
    let names (path : String) : Tool (List String) := do
      match ← look path with
      | .ok (place, _) => return ((← Strand.disk).children place).map Octet.ofText
      | .error _ => return []
    let a ← names first
    let b ← names second
    let all := ((a ++ b.filter (!a.contains ·)).mergeSort fun x y ↦ x ≤ y).filter fun name ↦
      !r.excluded.any fun pattern ↦ fitsPattern pattern name
    let mut status := 0
    for name in all do
      let x := below first name
      let y := below second name
      let kind (path : String) : Tool (Option Bool) := do
        return (← node? path).toOption.map Node.isDirectory
      let result ← match ← kind x, ← kind y with
        | some true, some true =>
          if r.recursive then compareDirectories r n x y
          else do
            sayLine ("Common subdirectories: " ++ x ++ " and " ++ y)
            pure 0
        | some false, some false => compareFiles r x y (false, false) true
        | some true, some false => do
          sayLine ("File " ++ x ++ " is a directory while file " ++ y ++ " is a regular file")
          pure 1
        | some false, some true => do
          sayLine ("File " ++ x ++ " is a regular file while file " ++ y ++ " is a directory")
          pure 1
        | some isDirectory, none =>
          if r.newFile then
            if isDirectory then
              if r.recursive then compareDirectories r n x y else pure 1
            else compareFiles r x y (false, true) true
          else do
            sayLine ("Only in " ++ first ++ ": " ++ name)
            pure 1
        | none, some isDirectory =>
          if r.newFile || r.oneSided then
            if isDirectory then
              if r.recursive then compareDirectories r n x y else pure 1
            else compareFiles r x y (true, false) true
          else do
            sayLine ("Only in " ++ second ++ ": " ++ name)
            pure 1
        | none, none => pure 0
      status := max status result
    return status

def table : OptionTable :=
  { short := "0123456789abBcC:dD:eEfF:hHiI:lL:nNpPqrsS:tTuU:vwW:x:X:yZ", failure := 2
    long := OptionTable.plain
      [("brief", "q"), ("ed", "e"), ("expand-tabs", "t"), ("ignore-all-space", "w"),
        ("ignore-blank-lines", "B"), ("ignore-case", "i"), ("ignore-space-change", "b"),
        ("ignore-tab-expansion", "E"), ("ignore-trailing-space", "Z"), ("initial-tab", "T"),
        ("left-column", "left-column"), ("minimal", "d"), ("new-file", "N"), ("normal", "normal"),
        ("rcs", "n"), ("recursive", "r"), ("report-identical-files", "s"), ("side-by-side", "y"),
        ("speed-large-files", "H"), ("suppress-common-lines", "suppress-common-lines"),
        ("text", "a"), ("unidirectional-new-file", "P"), ("show-c-function", "p"),
        ("strip-trailing-cr", "strip-trailing-cr"), ("paginate", "l"),
        ("no-dereference", "no-dereference")] ++
      OptionTable.valued
        [("ifdef", "D"), ("exclude", "x"), ("exclude-from", "X"), ("label", "label"),
          ("ignore-matching-lines", "I"), ("width", "W"), ("starting-file", "S"),
          ("horizon-lines", "horizon-lines"), ("tabsize", "tabsize"), ("to-file", "to-file"),
          ("from-file", "from-file")] ++
      [{ name := "unified", key := "unified", need := .maybe },
        { name := "context", key := "context", need := .maybe },
        { name := "color", key := "color", need := .maybe }] }

def lineCount (text : String) : Tool Nat := do
  match text.toNat? with
  | some n => return n
  | none => giveUp ("invalid context length '" ++ text ++ "'")

def apply (r : Request) (key : String) (value : Option String) : Tool Request := do
  let text := value.getD ""
  match key with
  | "a" => return { r with asText := true }
  | "b" => return { r with blankChanges := true }
  | "B" => return { r with blankLines := true }
  | "c" => return { r with style := .context }
  | "C" | "context" =>
    let context ← match value with
      | some text => lineCount text
      | none => pure 3
    return { r with style := .context, context }
  | "D" => return { r with style := .branches text }
  | "e" => return { r with style := .editor }
  | "i" => return { r with fold := true }
  | "I" =>
    match Regex.prepare {} text with
    | .ok m => return { r with ignored := some m }
    | .error fault => fail 2 (text ++ ": " ++ fault.message)
  | "L" | "label" => return { r with labels := r.labels ++ [text] }
  | "n" => return { r with style := .revision }
  | "N" => return { r with newFile := true }
  | "normal" => return { r with style := .normal }
  | "p" => return { r with style := if r.style = .normal then .context else r.style }
  | "P" => return { r with oneSided := true }
  | "q" => return { r with brief := true }
  | "r" => return { r with recursive := true }
  | "s" => return { r with identical := true }
  | "T" => return { r with indent := true }
  | "u" => return { r with style := .unified }
  | "U" | "unified" =>
    let context ← match value with
      | some text => lineCount text
      | none => pure 3
    return { r with style := .unified, context }
  | "w" => return { r with allBlanks := true }
  | "W" =>
    match text.toNat? with
    | some n => return { r with width := n }
    | none => giveUp ("invalid width '" ++ text ++ "'")
  | "x" => return { r with excluded := r.excluded ++ [text] }
  | "y" => return { r with style := .sideBySide }
  | "Z" => return { r with trailing := true }
  | "left-column" => return { r with leftColumn := true }
  | "suppress-common-lines" => return { r with onlyChanges := true }
  | _ => return r

def main (args : List String) : Tool Nat := do
  let (found, operands) ← match table.withHelp.read (args.length + 1) args with
    | .ok result => pure result
    | .error message => giveUp message
  if found.has "--help" || found.has "--version" then return 0
  let mut r : Request := { spelled := args.filter fun a ↦ !operands.contains a }
  let mut digits := ""
  for (key, value) in found do
    if key.toList.all Char.isDigit then digits := digits ++ key
    r ← apply r key value
  if let some n := digits.toNat? then r := { r with context := n }
  match operands with
  | [] => giveUp "missing operand after 'diff'"
  | [a] => giveUp ("missing operand after '" ++ a ++ "'")
  | _ :: _ :: extra :: _ => giveUp ("extra operand '" ++ extra ++ "'")
  | [a, b] =>
    let isFolder (path : String) : Tool Bool := do
      return path ≠ "-" && (← node? path).toOption.any Node.isDirectory
    match ← isFolder a, ← isFolder b with
    | true, true => compareDirectories r 100 a b
    | true, false =>
      if (← node? b).toOption.isNone && b ≠ "-" then
        complain (b ++ ": " ++ SystemFault.noSuchFile.describe)
        return 2
      compareFiles r (below a (baseName b)) b (false, false) false
    | false, true =>
      if (← node? a).toOption.isNone && a ≠ "-" then
        complain (a ++ ": " ++ SystemFault.noSuchFile.describe)
        return 2
      compareFiles r a (below b (baseName a)) (false, false) false
    | false, false => compareFiles r a b (false, false) false

end RegisterLang.Tool.Differ
