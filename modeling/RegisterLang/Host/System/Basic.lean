import RegisterLang.Host.Disk.Change
import RegisterLang.World.Basic

namespace RegisterLang

structure Pipe where
  bytes : ByteArray := .empty
  limit : Option Nat := some 65536
  named : Bool := false
  readOpenings : Nat := 0
  writeOpenings : Nat := 0

inductive Channel where
  | node (ref : Ref)
  | pipe (number : Nat)
  deriving DecidableEq, Repr

/-- An opened file. Descriptors made from one another share its offset. -/
structure OpenFile where
  channel : Channel
  readable : Bool
  writable : Bool
  appending : Bool := false
  offset : Nat := 0
  deriving DecidableEq, Repr

structure Descriptor where
  number : Nat
  file : Nat
  transient : Bool := false
  deriving DecidableEq, Repr

/-- A process as the system knows it. -/
structure Resident where
  parent : Nat
  group : Nat
  descriptors : List Descriptor
  here : Place
  mask : Nat := Disk.usualMask
  ignored : List Nat := []
  caught : List Nat := []
  pending : List Nat := []
  stopped : Bool := false
  niceness : Nat := 0
  clock : Nat := 0
  ending : Option Ending := none

/-- The files, pipes and processes that a command runs among. -/
structure System where
  disk : Disk
  pipes : Array Pipe
  files : Array OpenFile
  residents : List (Nat × Resident)
  nextId : Nat
  now : Nat := 0
  changes : Nat := 0

namespace System

def resident? (s : System) (id : Nat) : Option Resident := s.residents.lookup id

def modifyResident (s : System) (id : Nat) (f : Resident → Resident) : System :=
  { s with residents := s.residents.map fun (i, r) ↦ if i = id then (i, f r) else (i, r) }

def stir (s : System) : System := { s with changes := s.changes + 1 }

def diskOf (s : System) (id : Nat) : Disk :=
  match s.resident? id with
  | some r => { s.disk with here := r.here, now := s.disk.now + s.now }
  | none => s.disk

def setDisk (s : System) (d : Disk) : System :=
  { s with disk := { d with here := s.disk.here, now := s.disk.now } }

def descriptors (s : System) (id : Nat) : List Descriptor :=
  ((s.resident? id).map Resident.descriptors).getD []

def fileAt? (s : System) (id descriptor : Nat) : Option (Nat × OpenFile) :=
  ((s.descriptors id).find? (·.number = descriptor)).bind fun d ↦
    (s.files[d.file]?).map (d.file, ·)

def hasOpen (s : System) (fits : OpenFile → Bool) : Bool :=
  s.residents.any fun (_, r) ↦ r.descriptors.any fun d ↦ (s.files[d.file]?).any fits

def hasReader (s : System) (pipe : Nat) : Bool :=
  ((s.pipes[pipe]?).any (·.limit.isNone)) || s.hasOpen fun f ↦ f.channel = .pipe pipe && f.readable

def hasWriter (s : System) (pipe : Nat) : Bool :=
  s.hasOpen fun f ↦ f.channel = .pipe pipe && f.writable

def addFile (s : System) (file : OpenFile) : System × Nat :=
  ({ s with files := s.files.push file }, s.files.size)

def setDescriptor (s : System) (id : Nat) (d : Descriptor) : System :=
  (s.modifyResident id fun r ↦
    { r with descriptors := d :: r.descriptors.filter (·.number ≠ d.number) }).stir

def closeDescriptor (s : System) (id descriptor : Nat) : System :=
  (s.modifyResident id fun r ↦
    { r with descriptors := r.descriptors.filter (·.number ≠ descriptor) }).stir

def freeDescriptor (s : System) (id start : Nat) : Nat :=
  let used := (s.descriptors id).map Descriptor.number
  ((List.range (used.length + 1)).map (· + start)).find? (!used.contains ·) |>.getD start

def install (s : System) (id : Nat) (file : OpenFile) (transient : Bool := false) : System × Nat :=
  let (s, n) := s.addFile file
  let number := s.freeDescriptor id 0
  (s.setDescriptor id ⟨number, n, transient⟩, number)

def addPipe (s : System) (pipe : Pipe) : System × Nat :=
  ({ s with pipes := s.pipes.push pipe }, s.pipes.size)

def isFatal (signal : Nat) : Bool :=
  signal ≠ 0 && !([17, 18, 19, 20, 21, 22, 23, 28] : List Nat).contains signal

def isStopping (signal : Nat) : Bool := ([19, 20, 21, 22] : List Nat).contains signal

/-- Sends a signal, which may be ignored, caught or end the process. -/
def send (s : System) (target signal : Nat) : System :=
  (s.modifyResident target fun r ↦
    if r.ending.isSome then r
    else if signal = 18 then
      { r with
        stopped := false
        pending := if r.caught.contains 18 then r.pending ++ [18] else r.pending }
    else if signal ≠ 9 && signal ≠ 19 && r.ignored.contains signal then r
    else if isStopping signal && (signal = 19 || !r.caught.contains signal) then
      { r with stopped := true }
    else if !isFatal signal && !r.caught.contains signal then r
    else if r.pending.contains signal then r
    else { r with pending := r.pending ++ [signal], stopped := r.stopped && signal ≠ 9 }).stir

def fatal? (r : Resident) : Option Nat :=
  r.pending.find? fun n ↦ n = 9 || (isFatal n && !r.caught.contains n && !r.ignored.contains n)

def hasCaught (s : System) (id : Nat) : Bool :=
  (s.resident? id).any fun r ↦ r.pending.any r.caught.contains

end System

end RegisterLang
