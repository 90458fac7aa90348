import RegisterLang.Host.System.Load
import RegisterLang.Host.Tool.Quoted

namespace RegisterLang

namespace Tool

/-- What is read at present, with the bytes that came but were not taken. -/
structure Stream where
  descriptor : Nat := 0
  buffer : ByteArray := .empty
  position : Nat := 0
  ended : Bool := false

structure State where
  name : String
  environment : List (String × String) := []
  output : ByteArray := .empty
  fault : Option SystemFault := none
  stream : Stream := {}
  failure : Nat := 1

end Tool

/-- Part of a program. It may give up with the status with which the program ends. -/
abbrev Tool := Strand Tool.State Nat

namespace Tool

def flush : Tool Unit := do
  let bytes := (← get).output
  unless bytes.isEmpty do
    modify ({ · with output := .empty })
    match ← Strand.writeAt 1 bytes with
    | .ok () => return
    | .error fault => modify fun s ↦ { s with fault := s.fault.or (some fault) }

def bufferSize : Nat := 4096

def put (bytes : ByteArray) : Tool Unit := do
  modify fun s ↦ { s with output := s.output ++ bytes }
  if bufferSize ≤ (← get).output.size then flush

def say (octets : String) : Tool Unit := put (Octet.toBytes octets)

def sayLine (octets : String) : Tool Unit := say (octets ++ "\n")

def report (octets : String) : Tool Unit := do
  flush
  let _ ← Strand.writeAt 2 (Octet.toBytes octets)

/-- Reports before the output that still waits, unlike `report`. -/
def reportAhead (octets : String) : Tool Unit := do
  let _ ← Strand.writeAt 2 (Octet.toBytes octets)

def complain (octets : String) : Tool Unit := do
  report ((← get).name ++ ": " ++ octets ++ "\n")

def fail {α : Type} (status : Nat) (octets : String) : Tool α := do
  complain octets
  throw status

def failWithHelp {α : Type} (status : Nat) (octets : String) : Tool α := do
  let name := (← get).name
  unless octets.isEmpty do complain octets
  report ("Try '" ++ name ++ " --help' for more information.\n")
  throw status

/-- A program whose status is `failure` if what it wrote was lost. -/
def program (main : List String → Tool Nat) (failure : Nat := 1) : Executable :=
  fun args environment ↦
    let closing (status : Nat) : Tool Nat := do
      flush
      match (← get).fault with
      | none => return status
      | some fault =>
        complain ("write error: " ++ fault.describe)
        return (← get).failure
    let whole : Tool Nat := do
      match ← Strand.attempt (main args.tail) with
      | .ok status | .error status => closing status
    whole { name := args.headD "", environment, failure } fun _ result ↦
      .ended (.exited ((match result with
        | .ok status | .error status => status) % 256))

def setting? (name : String) : Tool (Option String) := do
  return (← get).environment.lookup name

/-- Repeats something until it has a result. Whatever a program repeats ends with what it reads, so
the bound is out of reach. -/
def iterateWithin {α β : Type} (step : α → Tool (α ⊕ β)) : Nat → α → Tool β
  | 0, _ => throw 1
  | n + 1, a => do
    Strand.pause
    match ← step a with
    | .inl a => iterateWithin step n a
    | .inr b => return b

def iterate {α β : Type} (step : α → Tool (α ⊕ β)) (start : α) : Tool β :=
  iterateWithin step Strand.partLimit start

def repeatUntil (step : Tool Bool) : Tool Unit :=
  iterate (fun () ↦ do return if ← step then .inr () else .inl ()) ()

def readFrom (descriptor : Nat) : Tool Unit := modify ({ · with stream := { descriptor } })

def openInput (operand : String) : Tool (Except SystemFault Unit) := do
  if operand = "-" then
    readFrom 0
    return .ok ()
  else
    match ← Strand.openAt (Octet.toText operand) { read := true } with
    | .ok number => readFrom number; return .ok ()
    | .error fault => return .error fault

def closeInput : Tool Unit := do
  let n := (← get).stream.descriptor
  unless n = 0 do Strand.closeAt n
  readFrom 0

def blockSize : Nat := 65536

def refill (size : Nat := blockSize) : Tool (Except SystemFault Bool) := do
  let stream := (← get).stream
  if stream.ended then return .ok false
  match ← Strand.readAt stream.descriptor size with
  | .error fault =>
    modify fun s ↦ { s with stream := { s.stream with ended := true } }
    return .error fault
  | .ok bytes =>
    modify fun s ↦
      let kept := s.stream.buffer.extract s.stream.position s.stream.buffer.size
      { s with stream := { s.stream with
        buffer := kept ++ bytes, position := 0, ended := bytes.isEmpty } }
    return .ok (!bytes.isEmpty)

def nextBlock (size : Nat := blockSize) : Tool (Except SystemFault ByteArray) := do
  let take : Tool ByteArray := do
    let stream := (← get).stream
    modify fun s ↦ { s with stream := { s.stream with buffer := .empty, position := 0 } }
    return stream.buffer.extract stream.position stream.buffer.size
  let ready ← take
  if ready.isEmpty then
    match ← refill size with
    | .error fault => return .error fault
    | .ok _ => return .ok (← take)
  else return .ok ready

def atEnd (size : Nat := blockSize) : Tool Bool := do
  let stream := (← get).stream
  if stream.position < stream.buffer.size then return false
  match ← refill size with
  | .ok more => return !more
  | .error _ => return true

def nextBytes (count : Nat) : Tool (Except SystemFault ByteArray) :=
  iterate (fun (sofar : ByteArray) ↦ do
    if count ≤ sofar.size then return .inr (.ok sofar)
    let stream := (← get).stream
    let wanted := count - sofar.size
    let ready := stream.buffer.extract stream.position (stream.position + wanted)
    if !ready.isEmpty then
      modify fun s ↦
        { s with stream := { s.stream with position := s.stream.position + ready.size } }
      return .inl (sofar ++ ready)
    else
      match ← refill (min blockSize wanted) with
      | .error fault => return .inr (.error fault)
      | .ok true => return .inl sofar
      | .ok false => return .inr (.ok sofar)) .empty

/-- The next line, and whether a delimiter ended it. -/
def nextLine (delimiter : UInt8 := 10) (size : Nat := blockSize) :
    Tool (Except SystemFault (Option (String × Bool))) :=
  iterate (fun start ↦ do
    let stream := (← get).stream
    match stream.buffer.findIdx? (· = delimiter) (max start stream.position) with
    | some i =>
      modify fun s ↦ { s with stream := { s.stream with position := i + 1 } }
      return .inr (.ok (some (Octet.ofBytes (stream.buffer.extract stream.position i), true)))
    | none =>
      let seen := stream.buffer.size - stream.position
      match ← refill size with
      | .error fault => return .inr (.error fault)
      | .ok true => return .inl seen
      | .ok false =>
        let rest := stream.buffer.extract stream.position stream.buffer.size
        modify fun s ↦ { s with stream := { s.stream with buffer := .empty, position := 0 } }
        return .inr (.ok (if rest.isEmpty then none else some (Octet.ofBytes rest, false))))
    0

def restOfInput : Tool (Except SystemFault ByteArray) := do
  let stream := (← get).stream
  let ready := stream.buffer.extract stream.position stream.buffer.size
  modify fun s ↦
    { s with stream := { s.stream with buffer := .empty, position := 0, ended := true } }
  if stream.ended then return .ok ready
  match ← Strand.readAll stream.descriptor with
  | .ok bytes => return .ok (ready ++ bytes)
  | .error fault => return .error fault

def contentsOf (operand : String) : Tool (Except SystemFault ByteArray) := do
  match ← openInput operand with
  | .error fault => return .error fault
  | .ok () =>
    let result ← restOfInput
    closeInput
    return result

/-- Does something with what each operand holds, and with standard input if there are none. Whatever
cannot be read is complained about, and the status tells so. -/
def forInputs (operands : List String) (act : String → Tool (Except SystemFault Unit)) :
    Tool Nat := do
  let mut status := 0
  for operand in (if operands.isEmpty then ["-"] else operands) do
    let result ← match ← openInput operand with
      | .error fault => pure (.error fault)
      | .ok () => do
        let result ← act operand
        closeInput
        pure result
    if let .error fault := result then
      complain (quotedIfNeeded operand ++ ": " ++ fault.describe)
      status := 1
  return status

def forLines (act : String → Bool → Tool Unit) (delimiter : UInt8 := 10) :
    Tool (Except SystemFault Unit) :=
  iterate (fun () ↦ do
    match ← nextLine delimiter with
    | .error fault => return .inr (.error fault)
    | .ok none => return .inr (.ok ())
    | .ok (some (line, ended)) =>
      act line ended
      return .inl ()) ()

/-- Does something that may read elsewhere, then goes on with the same input. -/
def aside {α : Type} (x : Tool α) : Tool α := do
  let stream := (← get).stream
  let result ← Strand.attempt x
  modify ({ · with stream })
  match result with
  | .ok a => return a
  | .error status => throw status

def look (path : String) (follow : Bool := true) : Tool (Except SystemFault (Place × Node)) := do
  return (← Strand.disk).look (Octet.toText path) follow

def node? (path : String) (follow : Bool := true) : Tool (Except SystemFault Node) :=
  Strand.ask fun id s ↦ (s.target id (Octet.toText path) follow).map (·.2.1)

def nodeAt? (descriptor : Nat) : Tool (Option Node) :=
  Strand.ask fun id s ↦
    (s.fileAt? id descriptor).bind fun (_, file) ↦
      match file.channel with
      | .node ref => s.disk.node? ref
      | .pipe number => some { content := .pipe number, mode := 384 }

def isDirectory (path : String) : Tool Bool := do
  return (← Strand.disk).isDirectory (Octet.toText path)

def occupied (path : String) : Tool Bool := do
  return (← look path false).toOption.isSome

def changeTree (change : Disk → Except SystemFault Disk) (complaint : String) : Tool Bool := do
  match ← Strand.changeDisk change with
  | .ok () => return true
  | .error fault =>
    complain (complaint ++ ": " ++ fault.describe)
    return false

def mask : Tool Nat := Strand.ask fun id s ↦ ((s.resident? id).map Resident.mask).getD 0

def userName : String := "model"

def userId : String := "1000"

def forAll (operands : List String) (act : String → Tool Bool) : Tool Nat := do
  let mut status := 0
  for operand in operands do
    unless ← act operand do status := 1
  return status

def baseName (path : String) : String :=
  match (Disk.names path).getLast? with
  | some name => name
  | none => if path.isEmpty then "" else "/"

def dirName (path : String) : String :=
  match (Disk.names path).dropLast, Disk.isAbsolute path with
  | [], true => "/"
  | [], false => "."
  | _, _ =>
    let slash (c : Char) : Bool := c = '/'
    let reversed := path.toList.reverse.dropWhile slash
    String.ofList ((reversed.dropWhile (!slash ·)).dropWhile slash).reverse

def below (path name : String) : String :=
  if Disk.wantsDirectory path then path ++ name else path ++ "/" ++ name

end Tool

end RegisterLang
