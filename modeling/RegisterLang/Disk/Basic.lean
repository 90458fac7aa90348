import RegisterLang.Disk.Node

namespace RegisterLang

/-- What a name stands for: something made here, known by its number, or something of the system,
known by its place. -/
inductive Ref where
  | own (number : Nat)
  | fixed (place : Place)
  deriving DecidableEq, Repr

/-- A file tree with a working directory. Names stand apart from what they name: several names may
lead to the same file. What belongs to the system is the same on every disk. -/
structure Disk where
  entries : List (Place × Nat) := []
  nodes : Array Node := #[]
  here : Place := []
  now : Nat := 0

namespace Disk

def nameLimit : Nat := 255

def pathLimit : Nat := 4096

def linkLimit : Nat := 40

def walkLimit : Nat := 100000

def usualMask : Nat := 18

def ref? (d : Disk) (p : Place) : Option Ref :=
  match d.entries.lookup p with
  | some n => some (.own n)
  | none => if (Node.ofSystem? p).isSome then some (.fixed p) else none

def node? (d : Disk) : Ref → Option Node
  | .own n => d.nodes[n]?
  | .fixed p => Node.ofSystem? p

def get? (d : Disk) (p : Place) : Option Node := (d.ref? p).bind d.node?

def modify (d : Disk) (r : Ref) (f : Node → Node) : Disk :=
  match r with
  | .own n => { d with nodes := d.nodes.modify n f }
  | .fixed _ => d

def add (d : Disk) (p : Place) (node : Node) : Disk :=
  { d with
    entries := d.entries.filter (·.1 ≠ p) ++ [(p, d.nodes.size)]
    nodes := d.nodes.push { node with modified := d.now, accessed := d.now } }

def erase (d : Disk) (p : Place) : Disk := { d with entries := d.entries.filter (·.1 ≠ p) }

/-- The names of a path; a path may hold empty ones, which mean nothing. -/
def names (path : String) : List String :=
  ((path.toList.splitOn '/').filter (!·.isEmpty)).map String.ofList

def isAbsolute (path : String) : Bool := path.toList.head? = some '/'

def wantsDirectory (path : String) : Bool := path.toList.getLast? = some '/'

/-- Walks along names. A link is followed if names come after it, or if the last one is to be
followed. The two bounds are those of steps and of links. -/
def walk (d : Disk) (followLast : Bool) : Nat → Nat → Place → List String → Except SystemFault Place
  | _, _, p, [] => .ok p
  | 0, _, _, _ => .error .tooManyLinks
  | n + 1, links, p, name :: rest =>
    match d.get? p with
    | none => .error .noSuchFile
    | some node =>
      if !node.isDirectory then .error .notDirectory
      else if !node.allows .execute then .error .notPermitted
      else if name = "." then walk d followLast n links p rest
      else if name = ".." then walk d followLast n links p.dropLast rest
      else if nameLimit < name.utf8ByteSize then .error .nameTooLong
      else
        let q := p ++ [name]
        match d.get? q with
        | some ⟨.link target, _, _, _, _⟩ =>
          if rest.isEmpty && !followLast then .ok q
          else
            match links with
            | 0 => .error .tooManyLinks
            | links + 1 =>
              walk d followLast n links (if isAbsolute target then [] else p) (names target ++ rest)
        | _ => walk d followLast n links q rest

def locate (d : Disk) (path : String) (followLast : Bool := true) : Except SystemFault Place :=
  if path.isEmpty then .error .noSuchFile
  else if path.toList.contains '\x00' then .error .nulInPath
  else if pathLimit ≤ path.utf8ByteSize then .error .nameTooLong
  else
    d.walk (followLast || wantsDirectory path) walkLimit linkLimit
      (if isAbsolute path then [] else d.here) (names path)

def look (d : Disk) (path : String) (followLast : Bool := true) :
    Except SystemFault (Place × Node) := do
  let p ← d.locate path followLast
  match d.get? p with
  | none => .error .noSuchFile
  | some node =>
    if wantsDirectory path && !node.isDirectory then .error .notDirectory else .ok (p, node)

def checkDirectory (d : Disk) (p : Place) : Except SystemFault Unit :=
  match d.get? p with
  | none => .error .noSuchFile
  | some node =>
    if !node.isDirectory then .error .notDirectory
    else if node.allows .write && node.allows .execute then .ok ()
    else .error .notPermitted

def create (d : Disk) (p : Place) (node : Node) : Except SystemFault Disk := do
  d.checkDirectory p.dropLast
  return d.add p node

def read (d : Disk) (path : String) : Except SystemFault (List UInt8) := do
  let (_, node) ← d.look path
  if !node.allows .read then .error .notPermitted
  else
    match node.content with
    | .file bytes => .ok bytes.data.toList
    | .directory => .error .isDirectory
    | _ => .ok []

def write (d : Disk) (path : String) (bytes : List UInt8) : Except SystemFault Disk := do
  let p ← d.locate path
  if wantsDirectory path then .error .isDirectory
  else
    match d.ref? p, d.get? p with
    | some ref, some node =>
      match node.content with
      | .directory => .error .isDirectory
      | .file _ =>
        if node.allows .write then
          .ok (d.modify ref ({ · with content := .file ⟨bytes.toArray⟩, modified := d.now }))
        else .error .notPermitted
      | _ => if node.allows .write then .ok d else .error .notPermitted
    | _, _ => d.create p (.newFile usualMask ⟨bytes.toArray⟩)

def remove (d : Disk) (path : String) : Except SystemFault Disk := do
  let (p, node) ← d.look path false
  if node.isDirectory then .error .isDirectory
  else
    d.checkDirectory p.dropLast
    return d.erase p

def addDirectory (d : Disk) (p : Place) : Disk :=
  (List.range p.length).foldl (fun d n ↦
    let q := p.take (n + 1)
    if (d.get? q).isSome then d else d.add q (.newDirectory usualMask)) d

def addFile (d : Disk) (p : Place) (bytes : List UInt8) (executable : Bool) : Disk :=
  let node := Node.newFile usualMask ⟨bytes.toArray⟩
  (d.addDirectory p.dropLast).add p { node with mode := if executable then 493 else node.mode }

def filesBelow (d : Disk) (p : Place) : List (String × List UInt8) :=
  d.entries.filterMap fun (q, n) ↦
    match (d.nodes[n]?).map Node.content with
    | some (.file bytes) =>
      if p.isPrefixOf q then some ("/".intercalate (q.drop p.length), bytes.data.toList) else none
    | _ => none

end Disk

end RegisterLang
