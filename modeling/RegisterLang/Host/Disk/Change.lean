import RegisterLang.Disk.Basic

namespace RegisterLang.Disk

def holds (d : Disk) (path : String) : Bool := (d.look path).toOption.isSome

def isDirectory (d : Disk) (path : String) : Bool :=
  match d.look path with
  | .ok (_, node) => node.isDirectory
  | .error _ => false

def systemChildren (p : Place) : List String :=
  let candidates := match p with
    | [] => Node.rootDirectories ++ ["bin", "lib", "root", "sbin", "tmp"]
    | ["usr"] => ["bin", "include", "lib", "local", "sbin", "share"]
    | ["usr", "bin"] => Node.programs
    | ["usr", "local"] => ["bin", "lib", "sbin"]
    | ["dev"] =>
      ["fd", "full", "null", "random", "stderr", "stdin", "stdout", "tty", "urandom", "zero"]
    | ["etc"] => ["passwd"]
    | ["var"] => ["tmp"]
    | _ => []
  candidates.filter fun name ↦ (Node.ofSystem? (p ++ [name])).isSome

def children (d : Disk) (p : Place) : List String :=
  (systemChildren p ++ d.entries.filterMap fun (q, _) ↦
    if !q.isEmpty && q.length = p.length + 1 && p.isPrefixOf q then q.getLast? else none).mergeSort

/-- How many names a node has; a directory has one more in each subdirectory. -/
def nameCount (d : Disk) (p : Place) (node : Node) : Nat :=
  match node.content with
  | .directory =>
    2 + ((d.children p).filter fun name ↦ (d.get? (p ++ [name])).any Node.isDirectory).length
  | _ =>
    match d.ref? p with
    | some (.own n) => (d.entries.filter (·.2 = n)).length
    | _ => 1

def makeDirectory (d : Disk) (path : String) (mode : Nat) : Except SystemFault Disk := do
  let p ← d.locate path false
  if (d.get? p).isSome then .error .fileExists
  else d.create p { content := .directory, mode }

def removeDirectory (d : Disk) (path : String) : Except SystemFault Disk := do
  let (p, node) ← d.look path false
  if !node.isDirectory then .error .notDirectory
  else if (names path).getLast? = some "." then .error .invalidArgument
  else if (names path).getLast? = some ".." then .error .notEmpty
  else if p.isEmpty then .error .busy
  else if !(d.children p).isEmpty then .error .notEmpty
  else
    d.checkDirectory p.dropLast
    return d.erase p

def list (d : Disk) (path : String) : Except SystemFault (Place × List String) := do
  let (p, node) ← d.look path
  if !node.isDirectory then .error .notDirectory
  else if !node.allows .read then .error .notPermitted
  else return (p, d.children p)

def link (d : Disk) (source target : String) (follow : Bool := false) :
    Except SystemFault Disk := do
  let (p, node) ← d.look source follow
  let q ← d.locate target false
  if (d.get? q).isSome then .error .fileExists
  else if node.isDirectory then .error .notOwner
  else if wantsDirectory target then .error .noSuchFile
  else
    d.checkDirectory q.dropLast
    match d.ref? p with
    | some (.own n) => return { d with entries := d.entries ++ [(q, n)] }
    | _ => .error .notOwner

def symbolicLink (d : Disk) (text target : String) : Except SystemFault Disk := do
  let q ← d.locate target false
  if text.isEmpty then .error .noSuchFile
  else if (d.get? q).isSome then .error .fileExists
  else if wantsDirectory target then .error .noSuchFile
  else d.create q (.newLink text)

/-- Gives everything below a place its new place. -/
def moveTree (d : Disk) (source target : Place) : Disk :=
  { d with
    entries := (d.entries.filter fun (q, _) ↦ q ≠ target).map fun (q, n) ↦
      if source.isPrefixOf q then (target ++ q.drop source.length, n) else (q, n) }

def rename (d : Disk) (source target : String) : Except SystemFault Disk := do
  let (p, node) ← d.look source false
  let q ← d.locate target false
  let dots (path : String) : Bool :=
    (names path).getLast?.any fun name ↦ name = "." || name = ".."
  if dots source || dots target || p.isEmpty || q.isEmpty then .error .busy
  else
    d.checkDirectory p.dropLast
    d.checkDirectory q.dropLast
    if p ≠ q && p.isPrefixOf q then .error .invalidArgument
    else if wantsDirectory target && !node.isDirectory then .error .notDirectory
    else
      match d.get? q with
      | none => return d.moveTree p q
      | some old =>
        if d.ref? p = d.ref? q then return d
        else if node.isDirectory && !old.isDirectory then .error .notDirectory
        else if !node.isDirectory && old.isDirectory then .error .isDirectory
        else if q.isPrefixOf p then .error .notEmpty
        else if old.isDirectory && !(d.children q).isEmpty then .error .notEmpty
        else return d.moveTree p q

def change (d : Disk) (path : String) (follow : Bool) (f : Node → Node) :
    Except SystemFault Disk := do
  let (p, node) ← d.look path follow
  match d.ref? p with
  | some ref => if node.owned then return d.modify ref f else .error .notOwner
  | none => .error .noSuchFile

def setMode (d : Disk) (path : String) (mode : Nat) (follow : Bool := true) :
    Except SystemFault Disk :=
  d.change path follow ({ · with mode })

def setTimes (d : Disk) (path : String) (follow : Bool) (accessed modified : Option Nat) :
    Except SystemFault Disk :=
  d.change path follow fun n ↦
    { n with accessed := accessed.getD n.accessed, modified := modified.getD n.modified }

end RegisterLang.Disk
