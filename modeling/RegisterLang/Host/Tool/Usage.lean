import RegisterLang.Host.Tool.Listing

namespace RegisterLang.Tool.Usage

inductive Display where
  | blocks (size : Nat) (suffix : String)
  | human (base : Nat)

def Display.show : Display → Nat → String
  | .blocks size suffix, n => toString ((n + size - 1) / size) ++ suffix
  | .human base, n => humanSize base n

structure Request where
  all : Bool := false
  depth : Option Nat := none
  separate : Bool := false
  display : Display := .blocks 1024 ""
  apparent : Bool := false
  number : Bool := false
  everyName : Bool := false
  followOperands : Bool := false
  followAll : Bool := false
  excluded : List String := []
  threshold : Option Int := none
  stop : String := "\n"

/-- What a tree takes, and which files have been counted. -/
structure Count where
  total : Nat := 0
  seen : List Ref := []
  good : Bool := true

def Request.own (r : Request) (node : Node) : Nat :=
  if r.number then 1
  else if r.apparent then if node.isDirectory then 0 else Listing.sizeOf node
  else Listing.kilobytes node * 1024

def Request.text (r : Request) (n : Nat) : String :=
  if r.number then match r.display with
    | .human base => humanSize base n
    | .blocks _ _ => toString n
  else r.display.show n

def Request.line (r : Request) (n : Nat) (name : String) : Tool Unit := do
  let fits := match r.threshold with
    | none => true
    | some limit => if limit < 0 then (n : Int) ≤ -limit else limit ≤ n
  if fits then say (r.text n ++ "\t" ++ name ++ r.stop)

def Request.excludes (r : Request) (path : String) : Bool :=
  r.excluded.any fun pattern ↦
    fitsPattern pattern path false || fitsPattern pattern (baseName path) false

/-- The space that a tree takes. A file with several names counts once. -/
def count (r : Request) : Nat → Nat → List Ref → String → Tool Count
  | 0, _, seen, _ => return { seen }
  | n + 1, depth, seen, path => do
    match ← look path (r.followAll || (r.followOperands && depth = 0)) with
    | .error fault =>
      complain ("cannot access " ++ quoted path ++ ": " ++ fault.describe)
      return { seen, good := false }
    | .ok (place, node) =>
      let ref := (← Strand.disk).ref? place
      if ref.any seen.contains && !(r.everyName && !node.isDirectory) then return { seen }
      let mut c : Count := { total := r.own node, seen := ref.toList ++ seen }
      let mut below := 0
      if node.isDirectory then
        match (← Strand.disk).list (Octet.toText path) with
        | .error fault =>
          complain ("cannot read directory " ++ quoted path ++ ": " ++ fault.describe)
          c := { c with good := false }
        | .ok (place, names) =>
          for name in names do
            let inner := Tool.below path (Octet.ofText name)
            unless r.excludes inner do
              let nested := ((← Strand.disk).get? (place ++ [name])).any Node.isDirectory
              let part ← count r n (depth + 1) c.seen inner
              if nested && r.separate then below := below + part.total
              else c := { c with total := c.total + part.total }
              c := { c with seen := part.seen, good := c.good && part.good }
      if r.depth.all (depth ≤ ·) && (node.isDirectory || r.all || depth = 0) then
        r.line c.total path
      return { c with total := c.total + below }

def table : OptionTable :=
  { short := "abcDd:hHklLmPsSt:xX:B:0"
    long := OptionTable.plain
      [("all", "a"), ("apparent-size", "apparent-size"), ("bytes", "b"), ("total", "c"),
        ("dereference-args", "D"), ("human-readable", "h"), ("si", "si"), ("count-links", "l"),
        ("dereference", "L"), ("no-dereference", "P"), ("separate-dirs", "S"),
        ("summarize", "s"), ("one-file-system", "x"), ("null", "0"), ("inodes", "inodes")] ++
      OptionTable.valued
        [("block-size", "B"), ("max-depth", "d"), ("exclude", "exclude"), ("exclude-from", "X"),
          ("threshold", "t"), ("files0-from", "files0-from")] ++
      [{ name := "time", key := "time", need := .maybe }] }

def readBlock (option text : String) : Tool Display := do
  match text with
  | "human-readable" => return .human 1024
  | "si" => return .human 1000
  | _ =>
    let plain := text.toList.head?.all Char.isDigit
    match readCount usualSuffixes (if plain then text else "1" ++ text) with
    | .ok n =>
      if n = 0 then fail 1 ("invalid " ++ option ++ " argument " ++ cited text)
      let suffix := if text = "KB" || text = "kB" then "kB" else if text = "k" then "K" else text
      return .blocks n (if plain then "" else suffix)
    | .error _ => fail 1 ("invalid " ++ option ++ " argument " ++ cited text)

def apply (r : Request) (key : String) (value : Option String) : Tool Request := do
  let text := value.getD ""
  match key with
  | "a" => return { r with all := true }
  | "b" => return { r with apparent := true, display := .blocks 1 "" }
  | "apparent-size" => return { r with apparent := true }
  | "D" | "H" => return { r with followOperands := true, followAll := false }
  | "L" => return { r with followAll := true }
  | "P" => return { r with followOperands := false, followAll := false }
  | "h" => return { r with display := .human 1024 }
  | "si" => return { r with display := .human 1000 }
  | "k" => return { r with display := .blocks 1024 "" }
  | "m" => return { r with display := .blocks 1048576 "" }
  | "B" => return { r with display := ← readBlock "-B" text }
  | "l" => return { r with everyName := true }
  | "S" => return { r with separate := true }
  | "0" => return { r with stop := "\x00" }
  | "inodes" => return { r with number := true }
  | "exclude" => return { r with excluded := text :: r.excluded }
  | "X" =>
    match ← contentsOf text with
    | .ok bytes =>
      let lines := (Octet.ofBytes bytes).splitOn "\n"
      return { r with excluded := lines.filter (!·.isEmpty) ++ r.excluded }
    | .error fault => failWithHelp 1 (text ++ ": " ++ fault.describe)
  | "d" =>
    match text.toNat? with
    | some n => return { r with depth := some n }
    | none => failWithHelp 1 ("invalid maximum depth " ++ cited text)
  | "t" =>
    let negative := text.toList.head? = some '-'
    match readCount usualSuffixes (if negative then (text.drop 1).toString else text) with
    | .ok n =>
      if negative && n = 0 then fail 1 "invalid --threshold argument '-0'"
      return { r with threshold := some (if negative then -(n : Int) else n) }
    | .error _ => fail 1 ("invalid -t argument " ++ cited text)
  | _ => return r

def main (args : List String) : Tool Nat := do
  let (found, operands) ← options table args
  let mut r : Request := {}
  for (key, value) in found do
    r ← apply r key value
  if r.all && found.has "s" then
    failWithHelp 1 "cannot both summarize and show all entries"
  if found.has "s" then
    match r.depth with
    | some 0 => complain "warning: summarizing is the same as using --max-depth=0"
    | some n => failWithHelp 1 ("warning: summarizing conflicts with --max-depth=" ++ toString n)
    | none => r := { r with depth := some 0 }
  let bound := (← Strand.disk).entries.length + 2
  let mut all : Count := {}
  for operand in if operands.isEmpty then ["."] else operands do
    let part ← count r bound 0 all.seen operand
    all := { total := all.total + part.total, seen := part.seen, good := all.good && part.good }
  if found.has "c" then say (r.text all.total ++ "\ttotal" ++ r.stop)
  return if all.good then 0 else 1

end RegisterLang.Tool.Usage
