import RegisterLang.Host.Tool.Find.Parse
import RegisterLang.Host.Tool.Launch

namespace RegisterLang.Tool.Find

/-- What waits to be run at once, and how the search went so far. -/
structure Progress where
  status : Nat := 0
  waiting : List (Nat × Place × List String) := []
  pruned : Bool := false
  ended : Bool := false

def Progress.failed (p : Progress) : Progress := { p with status := 1 }

def writeTo (o : Outlet) (octets : String) : Tool Unit := do
  match o with
  | .output => say octets
  | .error => report octets
  | .file n =>
    let _ ← Strand.writeAt n (Octet.toBytes octets)

def filled (path word : String) : String := path.intercalate (word.splitOn "\x7b\x7d")

def runProgram (load : Loader) (arguments : List String) (folder : Option Place)
    (withoutInput : Bool := false) : Tool Bool := do
  let before : Tool Unit := do
    if withoutInput then Strand.closeAt 0
    if let some place := folder then
      Strand.call fun id s ↦ (s.modifyResident id ({ · with here := place }), ())
  let ending ← runBeside load arguments before fun fault ↦ do
    complain (cited (arguments.headD "") ++ ": " ++ fault.describe)
    return 1
  match ending with
  | .exited n => return n = 0
  | .signaled n =>
    complain (cited (arguments.headD "") ++ " terminated by signal " ++ toString n)
    return false

def batchSize : Nat := 129024

/-- Names in groups that fit the arguments of one command. -/
def batches (room : Nat) : List String → List String → Nat → List (List String)
  | [], [], _ => []
  | [], current, _ => [current.reverse]
  | file :: rest, current, used =>
    let size := file.length + 9
    if room < used + size && !current.isEmpty then
      current.reverse :: batches room rest [file] size
    else batches room rest (file :: current) (used + size)

def manyActions : Expr → List (Nat × List String × Bool)
  | .action (.runMany words inFolder number) => [(number, words, inFolder)]
  | .not e => manyActions e
  | .both a b | .either a b | .comma a b => manyActions a ++ manyActions b
  | _ => []

def runWaiting (load : Loader) (e : Expr) (p : Progress) : Tool Progress := do
  let mut p := p
  for (number, words, inFolder) in manyActions e do
    for (n, place, files) in p.waiting do
      if n = number then
        let room := batchSize - words.foldl (fun n w ↦ n + w.length + 9) 0
        for batch in batches room files [] 0 do
          unless ← runProgram load (words ++ batch) (if inFolder then some place else none) do
            p := p.failed
  return { p with waiting := [] }

def enqueue (waiting : List (Nat × Place × List String)) (number : Nat) (place : Place)
    (file : String) : List (Nat × Place × List String) :=
  match waiting with
  | [] => [(number, place, [file])]
  | (n, q, files) :: rest =>
    if n = number && q = place then (n, q, files ++ [file]) :: rest
    else (n, q, files) :: enqueue rest number place file

def localName (path : String) : String :=
  let name := nameWithSlash path
  if name.startsWith "/" then name else "./" ++ name

def folderOf (v : Visit) : Tool Place := do
  let leading := leading v.path
  match ← look (if leading.isEmpty then "/" else leading) with
  | .ok (place, _) => return place
  | .error _ => return v.place.dropLast

def asksFor (words : List String) (path : String) : Tool Bool := do
  report ("< " ++ words.headD "" ++ " ... " ++ path ++ " > ? ")
  match ← Strand.readLineAt 0 with
  | .ok bytes =>
    let first := (Octet.ofBytes bytes).toList.head?
    return first = some 'y' || first = some 'Y'
  | .error _ => return false

def Action.perform (load : Loader) (setup : Setup) (v : Visit) (p : Progress) :
    Action → Tool (Bool × Progress)
  | .print o stop => do
    writeTo o (v.path ++ stop)
    return (true, p)
  | .describe o format => do
    let (text, stops) := described (← Strand.disk) v format
    writeTo o text
    if stops then flush
    return (true, p)
  | .list o => do
    writeTo o (longLine (← Strand.disk) (← Moment.now) v ++ "\n")
    return (true, p)
  | .run words inFolder asks => do
    let path := if inFolder then localName v.path else v.path
    let goesOn ← if asks then asksFor words v.path else pure true
    if !goesOn then return (false, p)
    let folder ← if inFolder then do pure (some (← folderOf v)) else pure none
    return (← runProgram load (words.map (filled path)) folder asks, p)
  | .runMany _ inFolder number => do
    let place ← if inFolder then folderOf v else pure []
    let path := if inFolder then localName v.path else v.path
    return (true, { p with waiting := enqueue p.waiting number place path })
  | .delete => do
    if v.path = "." || v.path = "./" then return (true, p)
    let result ← Strand.changeDisk fun d ↦
      if v.link.isDirectory then d.removeDirectory (Octet.toText v.path)
      else d.remove (Octet.toText v.path)
    match result with
    | .ok () => return (true, p)
    | .error fault =>
      complain ("cannot delete " ++ cited v.path ++ ": " ++ fault.describe)
      return (false, p.failed)
  | .prune => return (true, if setup.childrenFirst then p else { p with pruned := true })
  | .quit => return (true, { p with ended := true })

def Expr.perform (load : Loader) (setup : Setup) (v : Visit) :
    Expr → Progress → Tool (Bool × Progress)
  | .condition c, p => do
    return (c.holds (← Strand.disk) (← Moment.now) v, p)
  | .action a, p => do
    if p.ended then return (false, p)
    a.perform load setup v p
  | .not e, p => do
    let (b, p) ← e.perform load setup v p
    return (!b, p)
  | .both a b, p => do
    let (x, p) ← a.perform load setup v p
    if x && !p.ended then b.perform load setup v p else return (false, p)
  | .either a b, p => do
    let (x, p) ← a.perform load setup v p
    if !x && !p.ended then b.perform load setup v p else return (x, p)
  | .comma a b, p => do
    let (_, p) ← a.perform load setup v p
    if p.ended then return (false, p) else b.perform load setup v p

section

variable (load : Loader) (setup : Setup) (e : Expr)

/-- Goes through a tree, a directory before or after what it holds. -/
def visit (start : String) : Nat → (depth : Nat) → (path : String) →
    (above : List (Place × String)) →
    Place → Progress → Tool Progress
  | 0, _, _, _, _, p => return p
  | n + 1, depth, path, above, place, p => do
    Strand.pause
    let d ← Strand.disk
    match d.get? place with
    | none =>
      complain (cited path ++ ": " ++ SystemFault.noSuchFile.describe)
      return p.failed
    | some link =>
      let follows := setup.links = .all || (setup.links = .given && depth = 0)
      let other := (d.look (Octet.toText path)).map (·.2)
      let (place, node) := if link.isLink && follows then
          match d.look (Octet.toText path) with
          | .ok (q, node) => (q, node)
          | .error _ => (place, link)
        else (place, link)
      if let (true, true, .error .tooManyLinks) := (link.isLink, follows, other) then
        complain (cited path ++ ": " ++ SystemFault.tooManyLinks.describe)
        return p.failed
      if let some (_, name) := above.find? (·.1 = place) then
        if node.isDirectory then
          complain ("File system loop detected; " ++ cited path ++
            " is part of the same file system loop as " ++ cited name ++ ".")
          return p.failed
      let v : Visit := { path, start, depth, place, node, link, other }
      let here (p : Progress) : Tool Progress := do
        if depth < setup.least || p.ended then return p
        return (← e.perform load setup v { p with pruned := false }).2
      let p ← if setup.childrenFirst then pure p else here p
      let p ← if !node.isDirectory || setup.most.any (· ≤ depth) || p.pruned || p.ended then pure p
        else
          let d ← Strand.disk
          match d.get? place with
          | none => do
            complain (cited path ++ ": " ++ SystemFault.noSuchFile.describe)
            pure p.failed
          | some node =>
            if !node.allows .read then do
              complain (cited path ++ ": " ++ SystemFault.notPermitted.describe)
              pure p.failed
            else
              (d.children place).foldlM (fun (p : Progress) child ↦ do
                if p.ended then return p
                visit start n (depth + 1) (below path (Octet.ofText child))
                  ((place, path) :: above) (place ++ [child]) p) { p with pruned := false }
      if setup.childrenFirst then here p else return { p with pruned := false }

def visitAll : List String → Progress → Tool Progress
  | [], p => return p
  | path :: rest, p => do
    if p.ended then return p
    match ← look path (setup.links ≠ .none) with
    | .ok _ | .error .noSuchFile | .error .tooManyLinks =>
      match (← Strand.disk).locate (Octet.toText path) false with
      | .ok place =>
        if ((← Strand.disk).look (Octet.toText path) false).toOption.isNone then
          complain (cited path ++ ": " ++ SystemFault.noSuchFile.describe)
          visitAll rest p.failed
        else visitAll rest (← visit load setup e path Disk.pathLimit 0 path [] place p)
      | .error fault =>
        complain (cited path ++ ": " ++ fault.describe)
        visitAll rest p.failed
    | .error fault =>
      complain (cited path ++ ": " ++ fault.describe)
      visitAll rest p.failed

end

def leadingOptions : Nat → Setup → List String → Tool (Setup × List String)
  | 0, s, args => return (s, args)
  | n + 1, s, args => do
    match args with
    | "-H" :: rest => leadingOptions n { s with links := .given } rest
    | "-L" :: rest => leadingOptions n { s with links := .all } rest
    | "-P" :: rest => leadingOptions n { s with links := .none } rest
    | "-D" :: _ :: rest => leadingOptions n s rest
    | "--" :: rest => return (s, rest)
    | word :: rest =>
      match word.toList with
      | '-' :: 'O' :: digits =>
        if !digits.isEmpty && digits.all Char.isDigit then leadingOptions n s rest
        else fail 1 "Please specify a decimal number immediately after -O"
      | _ => return (s, args)
    | [] => return (s, args)

def main (load : Loader) (args : List String) : Tool Nat := do
  let (setup, args) ← leadingOptions args.length {} args
  let paths := args.takeWhile (!isExpression true ·)
  let p ← words (args.length + 1) { setup } (args.drop paths.length)
  if p.deletes && p.prunes && !p.depthGiven then
    fail 1 ("The -delete action automatically turns on -depth, " ++
      "but -prune does nothing when -depth " ++
      "is in effect.  If you want to carry on anyway, just explicitly use the -depth option.")
  match wholeTree p.items p.showsItself with
  | .error message => fail 1 message
  | .ok e =>
    let progress ← visitAll load p.setup e (if paths.isEmpty then ["."] else paths) {}
    let progress ← runWaiting load e progress
    flush
    if let some fault := (← get).fault then
      modify ({ · with fault := none })
      complain ("'standard output': " ++ fault.describe)
      complain "write error"
      return 1
    return progress.status

end RegisterLang.Tool.Find
