import RegisterLang.Host.System.Task

namespace RegisterLang

structure Opening where
  read : Bool := false
  write : Bool := false
  append : Bool := false
  create : Bool := false
  truncate : Bool := false
  fresh : Bool := false
  follow : Bool := true
  mode : Nat := 438

namespace System

/-- What a path leads to for a process, its own descriptors among them. -/
def target (s : System) (id : Nat) (path : String) (follow : Bool := true) :
    Except SystemFault (Place × Node × Channel) := do
  let d := s.diskOf id
  let (p, node) ← d.look path follow
  match node.content, d.ref? p with
  | .device (.descriptor n), _ =>
    match s.fileAt? id n with
    | none => .error .noSuchFile
    | some (_, file) =>
      match file.channel with
      | .pipe number =>
        .ok (p, { node with content := .pipe number, mode := 384, owned := true }, file.channel)
      | .node ref =>
        match d.node? ref with
        | some node => .ok (p, node, .node ref)
        | none => .error .noSuchFile
  | .pipe number, _ => .ok (p, node, .pipe number)
  | _, some ref => .ok (p, node, .node ref)
  | _, none => .error .noSuchFile

def opened (s : System) (how : Opening) (node : Node) (channel : Channel) :
    Except SystemFault (System × OpenFile) :=
  let file : OpenFile :=
    { channel, readable := how.read, writable := how.write, appending := how.append }
  if (how.read && !node.allows .read) || (how.write && !node.allows .write) then
    .error .notPermitted
  else
    match node.content, channel with
    | .directory, _ => if how.write || how.create then .error .isDirectory else .ok (s, file)
    | .device .terminal, _ => .error .noDevice
    | .file _, .node ref =>
      if how.truncate && how.write then
        let d := s.disk.modify ref fun n ↦
          { n with content := .file .empty, modified := s.disk.now + s.now }
        .ok ({ s with disk := d }, file)
      else .ok (s, file)
    | .pipe _, .pipe number =>
      let pipes := s.pipes.modify number fun p ↦ { p with
        readOpenings := p.readOpenings + (if how.read then 1 else 0)
        writeOpenings := p.writeOpenings + (if how.write then 1 else 0) }
      .ok ({ s with pipes }, file)
    | _, _ => .ok (s, file)

def openFile (s : System) (id : Nat) (path : String) (how : Opening) :
    Except SystemFault (System × OpenFile) := do
  let d := s.diskOf id
  let p ← d.locate path (how.follow && !how.fresh)
  match d.get? p with
  | some node =>
    if how.create && how.fresh then .error .fileExists
    else if node.isLink && !how.follow then .error .tooManyLinks
    else if Disk.wantsDirectory path && how.create then .error .isDirectory
    else
      let (_, node, channel) ← s.target id path how.follow
      s.opened how node channel
  | none =>
    if !how.create then .error .noSuchFile
    else if Disk.wantsDirectory path then .error .isDirectory
    else
      let mask := ((s.resident? id).map Resident.mask).getD 0
      let d ← d.create p { content := .file .empty, mode := Node.masked how.mode mask }
      match d.ref? p with
      | some ref =>
        .ok (s.setDisk d, { channel := .node ref, readable := how.read, writable := how.write,
                            appending := how.append })
      | none => .error .noSuchFile

def bytesOf (s : System) (ref : Ref) : ByteArray :=
  match (s.disk.node? ref).map Node.content with
  | some (.file bytes) => bytes
  | _ => .empty

def setOffset (s : System) (file offset : Nat) : System :=
  { s with files := s.files.modify file ({ · with offset }) }

def readBytes (s : System) (id descriptor count : Nat) :
    Option (System × Except SystemFault ByteArray) :=
  match s.fileAt? id descriptor with
  | none => some (s, .error .badDescriptor)
  | some (n, file) =>
    if !file.readable then some (s, .error .badDescriptor)
    else
      match file.channel with
      | .pipe number =>
        match s.pipes[number]? with
        | none => some (s, .ok .empty)
        | some pipe =>
          if count = 0 then some (s, .ok .empty)
          else if pipe.bytes.isEmpty then
            if s.hasWriter number then none else some (s, .ok .empty)
          else
            let taken := pipe.bytes.extract 0 count
            let rest := pipe.bytes.extract count pipe.bytes.size
            some ({ s with pipes := s.pipes.modify number ({ · with bytes := rest }) }.stir,
              .ok taken)
      | .node ref =>
        match (s.disk.node? ref).map Node.content with
        | some (.file bytes) =>
          let taken := bytes.extract file.offset (file.offset + count)
          some (s.setOffset n (file.offset + taken.size), .ok taken)
        | some .directory => some (s, .error .isDirectory)
        | some (.device .zeros) | some (.device .full) =>
          some (s, .ok ⟨Array.replicate count 0⟩)
        | some (.device .noise) =>
          some (s, .ok ⟨(Array.range count).map fun i ↦ UInt8.ofNat ((i * 167 + s.now) % 251)⟩)
        | _ => some (s, .ok .empty)

def readLine (s : System) (id descriptor : Nat) : Option (System × Except SystemFault ByteArray) :=
  let newline (bytes : ByteArray) (start : Nat) : Nat :=
    match bytes.findIdx? (· = 10) start with
    | some i => i + 1 - start
    | none => bytes.size - start
  match s.fileAt? id descriptor with
  | some (_, ⟨.pipe number, _, _, _, _⟩) =>
    s.readBytes id descriptor (((s.pipes[number]?).map fun p ↦ max 1 (newline p.bytes 0)).getD 0)
  | some (_, ⟨.node ref, _, _, _, offset⟩) =>
    match (s.disk.node? ref).map Node.content with
    | some (.file bytes) => s.readBytes id descriptor (newline bytes offset)
    | _ => s.readBytes id descriptor 1
  | none => some (s, .error .badDescriptor)

def overwrite (old : ByteArray) (offset : Nat) (bytes : ByteArray) : ByteArray :=
  if old.size = offset then old ++ bytes
  else
    old.extract 0 offset ++ ⟨Array.replicate (offset - old.size) 0⟩ ++ bytes ++
      old.extract (offset + bytes.size) old.size

def atomicSize : Nat := 4096

/-- Writes as much as there is room for; `none` if the writer has to wait. -/
def writeBytes (s : System) (id descriptor : Nat) (bytes : ByteArray) :
    Option (System × Except SystemFault Nat) :=
  match s.fileAt? id descriptor with
  | none => some (s, .error .badDescriptor)
  | some (n, file) =>
    if !file.writable then some (s, .error .badDescriptor)
    else if bytes.isEmpty then some (s, .ok 0)
    else
      match file.channel with
      | .pipe number =>
        if !s.hasReader number then some (s.send id 13, .error .brokenPipe)
        else
          match s.pipes[number]? with
          | none => some (s, .error .badDescriptor)
          | some pipe =>
            let room := match pipe.limit with
              | some limit => limit - pipe.bytes.size
              | none => bytes.size
            if room = 0 || (room < bytes.size && bytes.size ≤ atomicSize) then none
            else
              let part := if bytes.size ≤ room then bytes else bytes.extract 0 room
              let pipes := s.pipes.modify number fun p ↦ { p with bytes := p.bytes ++ part }
              some ({ s with pipes }.stir, .ok part.size)
      | .node ref =>
        match (s.disk.node? ref).map Node.content with
        | some (.file old) =>
          let start := if file.appending then old.size else file.offset
          let disk := s.disk.modify ref fun node ↦
            { node with
              content := .file (match node.content with
                | .file old => overwrite old start bytes
                | _ => bytes)
              modified := s.disk.now + s.now }
          some ({ s with disk }.setOffset n (start + bytes.size), .ok bytes.size)
        | some (.device .full) => some (s, .error .noSpace)
        | some .directory => some (s, .error .isDirectory)
        | _ => some (s, .ok bytes.size)

def seek (s : System) (id descriptor : Nat) (place : Nat → Nat → Int) :
    System × Except SystemFault Nat :=
  match s.fileAt? id descriptor with
  | none => (s, .error .badDescriptor)
  | some (n, file) =>
    match file.channel with
    | .pipe _ => (s, .error .illegalSeek)
    | .node ref =>
      let goal := place file.offset (s.bytesOf ref).size
      if goal < 0 then (s, .error .invalidArgument) else (s.setOffset n goal.toNat, .ok goal.toNat)

def resize (bytes : ByteArray) (size : Nat) : ByteArray :=
  bytes.extract 0 size ++ ⟨Array.replicate (size - bytes.size) 0⟩

def setSize (s : System) (id descriptor size : Nat) : System × Except SystemFault Unit :=
  match s.fileAt? id descriptor with
  | none => (s, .error .badDescriptor)
  | some (_, file) =>
    match file.channel, file.writable with
    | .node ref, true =>
      match (s.disk.node? ref).map Node.content with
      | some (.file bytes) =>
        let disk := s.disk.modify ref fun node ↦
          { node with content := .file (resize bytes size), modified := s.disk.now + s.now }
        ({ s with disk }, .ok ())
      | _ => (s, .error .invalidArgument)
    | _, _ => (s, .error .invalidArgument)

def stepTime : Nat := 1000

def forkTime : Nat := 150000

def loadTime : Nat := 400000

def addResident (s : System) (parent : Nat) : System × Nat :=
  match s.resident? parent with
  | none => (s, 0)
  | some r =>
    let child : Resident := { r with parent, pending := [], clock := s.now + forkTime }
    ({ s with residents := s.residents ++ [(s.nextId, child)], nextId := s.nextId + 1 }.stir,
      s.nextId)

def hasChild (s : System) (id : Nat) (fits : Nat → Bool) : Bool :=
  s.residents.any fun (i, r) ↦ r.parent = id && fits i

def reap (s : System) (id : Nat) (fits : Nat → Bool) : Option (System × Nat × Ending) :=
  (s.residents.find? fun (i, r) ↦ r.parent = id && fits i && r.ending.isSome).bind fun (i, r) ↦
    r.ending.map fun ending ↦
      ({ s with residents := s.residents.filter (·.1 ≠ i) }, i, ending)

/-- Lets a process end. Its children become those of the first process, which forgets them when they
end. -/
def close (s : System) (id : Nat) (ending : Ending) : System :=
  let alive (parent : Nat) : Bool :=
    parent = 0 || s.residents.any fun (i, r) ↦ i = parent && r.ending.isNone
  let residents := s.residents.filterMap fun (i, r) ↦
    if i = id then
      if alive r.parent then some (i, { r with ending := some ending, descriptors := [] }) else none
    else if r.parent = id then
      if r.ending.isSome then none else some (i, { r with parent := 1 })
    else some (i, r)
  { s with residents }.stir

end System

namespace Strand

variable {σ ε : Type}

def disk : Strand σ ε Disk := ask fun id s ↦ s.diskOf id

def changeDisk (change : Disk → Except SystemFault Disk) : Strand σ ε (Except SystemFault Unit) :=
  call fun id s ↦
    match change (s.diskOf id) with
    | .ok d => (s.setDisk d, .ok ())
    | .error fault => (s, .error fault)

def hiddenNumber : Nat := 10

/-- Opens a file under the lowest free descriptor. One end of a named pipe waits for the other. -/
def openAt (path : String) (how : Opening) : Strand σ ε (Except SystemFault Nat) := do
  let opened : Except SystemFault (Nat × Option (Nat × Nat × Nat)) ← call fun id s ↦
    match s.openFile id path how with
    | .error fault => (s, .error fault)
    | .ok (s, file) =>
      let counts := match file.channel with
        | .pipe number => ((s.pipes[number]?).filter Pipe.named).map fun p ↦
          (number, p.readOpenings, p.writeOpenings)
        | .node _ => none
      let (s, number) := s.install id file
      (s, .ok (number, counts))
  match opened with
  | .error fault => return .error fault
  | .ok (number, none) => return .ok number
  | .ok (number, some (pipe, readOpenings, writeOpenings)) =>
    await fun _ s ↦
      let ready := (how.read && how.write) ||
        (if how.read then
          s.hasWriter pipe || (s.pipes[pipe]?).any fun p ↦ writeOpenings < p.writeOpenings
        else s.hasReader pipe || (s.pipes[pipe]?).any fun p ↦ readOpenings < p.readOpenings)
      if ready then some (s, ()) else none
    return .ok number

def newPipe : Strand σ ε (Nat × Nat) :=
  call fun id s ↦
    let (s, pipe) := s.addPipe {}
    let (s, readFile) := s.addFile { channel := .pipe pipe, readable := true, writable := false }
    let (s, writeFile) := s.addFile { channel := .pipe pipe, readable := false, writable := true }
    let reader := s.freeDescriptor id hiddenNumber
    let s := s.setDescriptor id ⟨reader, readFile, true⟩
    let writer := s.freeDescriptor id hiddenNumber
    (s.setDescriptor id ⟨writer, writeFile, true⟩, reader, writer)

def moveDescriptor (source target : Nat) : Strand σ ε Unit :=
  call fun id s ↦
    match s.fileAt? id source with
    | some (file, _) =>
      if source = target then (s, ())
      else ((s.setDescriptor id ⟨target, file, false⟩).closeDescriptor id source, ())
    | none => (s, ())

def keepDescriptor (descriptor : Nat) : Strand σ ε (Option Nat) :=
  call fun id s ↦
    match s.fileAt? id descriptor with
    | some (file, _) =>
      let number := s.freeDescriptor id hiddenNumber
      (s.setDescriptor id ⟨number, file, true⟩, some number)
    | none => (s, none)

def closeAt (descriptor : Nat) : Strand σ ε Unit :=
  call fun id s ↦ (s.closeDescriptor id descriptor, ())

def readAt (descriptor count : Nat) : Strand σ ε (Except SystemFault ByteArray) :=
  await fun id s ↦ s.readBytes id descriptor count

def readLineAt (descriptor : Nat) : Strand σ ε (Except SystemFault ByteArray) :=
  await fun id s ↦
    match s.readLine id descriptor with
    | some result => some result
    | none => if s.hasCaught id then some (s, .error .interrupted) else none

def partLimit : Nat := 1000000000

def readParts (descriptor : Nat) : Nat → ByteArray → Strand σ ε (Except SystemFault ByteArray)
  | 0, sofar => return .ok sofar
  | n + 1, sofar => do
    match ← readAt descriptor 65536 with
    | .error fault => return .error fault
    | .ok bytes =>
      if bytes.isEmpty then return .ok sofar else readParts descriptor n (sofar ++ bytes)

def readAll (descriptor : Nat) : Strand σ ε (Except SystemFault ByteArray) :=
  readParts descriptor partLimit .empty

def writeParts (descriptor : Nat) : Nat → ByteArray → Strand σ ε (Except SystemFault Unit)
  | 0, _ => return .ok ()
  | n + 1, bytes => do
    match ← await fun id s ↦ s.writeBytes id descriptor bytes with
    | .error fault => return .error fault
    | .ok count =>
      if bytes.size ≤ count then return .ok ()
      else writeParts descriptor n (bytes.extract count bytes.size)

def writeAt (descriptor : Nat) (bytes : ByteArray) : Strand σ ε (Except SystemFault Unit) :=
  writeParts descriptor partLimit bytes

def fork (child : Task) : Strand σ ε Nat := fun state k ↦
  .step fun id s ↦
    let (s, number) := s.addResident id
    .fork s number child (k state (.ok number))

/-- Waits for a child that fits to end; `none` if there is no such child, or if `interruptible` and
a signal comes that the process deals with. -/
def waitChild (fits : Nat → Bool) (interruptible : Bool := false) :
    Strand σ ε (Option (Nat × Ending)) :=
  await fun id s ↦
    match s.reap id fits with
    | some (s, child, ending) => some (s, some (child, ending))
    | none =>
      if !s.hasChild id fits || (interruptible && s.hasCaught id) then some (s, none) else none

def sleep (duration : Nat) : Strand σ ε Bool := do
  let start ← ask fun _ s ↦ s.now
  awaitUntil fun id s ↦
    if start + duration ≤ s.now then .ok (s, true)
    else if s.hasCaught id then .ok (s, false)
    else .error (some (start + duration))

def takeSignals : Strand σ ε (List Nat) :=
  call fun id s ↦
    let taken := ((s.resident? id).map fun r ↦ r.pending.filter r.caught.contains).getD []
    if taken.isEmpty then (s, [])
    else
      (s.modifyResident id fun r ↦ { r with pending := r.pending.filter (!r.caught.contains ·) },
        taken)

end Strand

end RegisterLang
