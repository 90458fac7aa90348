import Std.Data.HashMap
import RegisterLang.Host.Tool.Launch
import RegisterLang.Host.Tool.Record.Parse
import RegisterLang.Host.Tool.Record.Part

namespace RegisterLang.Tool.Record

/-- What a name stands for: a value, a table, or what a call may make a table. -/
inductive Binding where
  | value (v : Value)
  | table (id : Nat)
  | undecided (id : Nat)

instance : Inhabited Binding := ⟨.value .unset⟩

structure Input where
  name : String
  isCommand : Bool
  stream : Stream
  child : Option Nat := none

structure Output where
  name : String
  isCommand : Bool
  descriptor : Nat
  pending : ByteArray := .empty
  child : Option Nat := none

/-- Names, tables, the record and its fields, and what is open. -/
structure Machine where
  tool : Tool.State
  program : Program
  functions : Std.HashMap String Function := ∅
  names : Std.HashMap String Binding := ∅
  tables : Array (Table Value) := #[]
  frame : Array Binding := #[]
  nesting : Nat := 0
  record : String := ""
  fields : Array Value := #[]
  isSplit : Bool := true
  isJoined : Bool := true
  patterns : Std.HashMap String Regex.Matcher := ∅
  inputs : List Input := []
  outputs : List Output := []
  active : Array Bool := #[]
  isOpen : Bool := false
  argument : Nat := 1
  sawFile : Bool := false
  status : Nat := 0
  steps : Nat := 0
  seed : Value := .number 1
  random : UInt64 := 1

/-- Why a run leaves what it is in the midst of. -/
inductive Stop where
  | status (n : Nat)
  | leave
  | again
  | nextRecord
  | nextFile
  | giveBack (v : Value)
  | exit

abbrev Run := Strand Machine Stop

namespace Run

def lift {α : Type} (x : Tool α) : Run α := fun m k ↦
  let tool := m.tool
  let m := { m with tool := { name := "" } }
  x tool fun tool r ↦ k { m with tool } (match r with
    | .ok a => .ok a
    | .error n => .error (.status n))

def tick : Run Unit := do
  let steps := (← get).steps
  modify ({ · with steps := steps + 1 })
  if steps % 32 = 31 then Strand.pause

def binding (name : Name) : Run Binding := do
  match name with
  | .everywhere name => return ((← get).names[name]?).getD default
  | .parameter i => return ((← get).frame[i]?).getD default

def bind (name : Name) (b : Binding) : Run Unit :=
  match name with
  | .everywhere name => modify fun m ↦ { m with names := m.names.insert name b }
  | .parameter i => modify fun m ↦ { m with frame := m.frame.setIfInBounds i b }

def setting (name : String) : Run Value := do
  match (← get).names[name]? with
  | some (.value v) => return v
  | _ => return .unset

def setSetting (name : String) (v : Value) : Run Unit := bind (.everywhere name) (.value v)

def textOf (v : Value) : Run String := do
  match v with
  | .number _ =>
    match ← setting "CONVFMT" with
    | .text pattern | .reading pattern _ => return v.toText pattern
    | other => return v.toText (other.toText "")
  | v => return v.toText ""

def settingText (name : String) : Run String := do textOf (← setting name)

def fatal {α : Type} (message : String) : Run α := do
  let name := (← get).tool.name
  lift (reportAhead (name ++ ": " ++ message ++ "\n"))
  throw (.status 2)

def fault {α : Type} (message : String) : Run α := do
  let file ← settingText "FILENAME"
  let inFile ← settingText "FNR"
  let overall ← settingText "NR"
  fatal ("run time error: " ++ message ++ "\n\tFILENAME=\"" ++ file ++ "\" FNR=" ++ inFile ++
    " NR=" ++ overall)

def newTable : Run Nat := do
  let id := (← get).tables.size
  modify fun m ↦ { m with tables := m.tables.push {} }
  return id

def tableOf (name : Name) : Run Nat := do
  match ← binding name with
  | .table id => return id
  | .undecided id =>
    bind name (.table id)
    return id
  | .value _ =>
    let id ← newTable
    bind name (.table id)
    return id

def withTable {α : Type} (id : Nat) (f : Table Value → Table Value × α) (default : α) : Run α :=
  modifyGet fun m ↦
    match m.tables[id]? with
    | none => (default, m)
    | some t =>
      -- The table is taken out while it is changed.
      let tables := m.tables.setIfInBounds id {}
      let (t, a) := f t
      (a, { m with tables := tables.setIfInBounds id t })

/-- What a call gets for a name. One that was never used may become a table there. -/
def handOver (name : Name) : Run Binding := do
  match ← binding name with
  | .value .unset =>
    let id ← newTable
    bind name (.undecided id)
    return .undecided id
  | b => return b

def patternOf (text : String) : Run Regex.Matcher := do
  match (← get).patterns[text]? with
  | some m => return m
  | none =>
    match Pattern.read text with
    | .ok p =>
      modify fun m ↦ { m with patterns := m.patterns.insert text p.matcher }
      return p.matcher
    | .error reason =>
      fault ("regular expression compile failed (" ++ reason.message ++ ")\n" ++ text)

def separatorOf (text : String) : Run Separator := do
  match text.toList with
  | [' '] => return .blanks
  | [] => return .nothing
  | [c] => return .octet c
  | _ => return .pattern (← patternOf text)

/-- Takes the record apart into fields, once they are asked for. -/
def split : Run Unit := do
  unless (← get).isSplit do
    let separator ← separatorOf (← settingText "FS")
    modify fun m ↦
      { m with
        fields := ((partsOf separator m.record).map Value.ofReading).toArray
        isSplit := true }

/-- Puts the record together again after a field was changed. -/
def join : Run Unit := do
  unless (← get).isJoined do
    let between ← settingText "OFS"
    let mut texts := #[]
    for v in (← get).fields do texts := texts.push (← textOf v)
    let whole := between.intercalate texts.toList
    modify ({ · with record := whole, isJoined := true })

def setRecord (text : String) : Run Unit :=
  modify ({ · with record := text, isSplit := false, isJoined := true })

def fieldIndex (v : Value) : Run Nat := do
  let n := narrow v.toNumber
  if n < 0 then fault ("negative field index $" ++ toString n)
  return n.toNat

def field (i : Nat) : Run Value := do
  if i = 0 then
    join
    return .ofReading (← get).record
  else
    split
    return ((← get).fields[i - 1]?).getD (.text "")

def setFieldCount (count : Nat) : Run Unit := do
  split
  modify fun m ↦
    let more := count - m.fields.size
    { m with
      fields := (m.fields ++ Array.replicate more (Value.text "")).extract 0 count
      isJoined := false }

def setField (i : Nat) (v : Value) : Run Unit := do
  if i = 0 then setRecord (← textOf v)
  else
    split
    if (← get).fields.size < i then setFieldCount i
    modify fun m ↦ { m with fields := m.fields.setIfInBounds (i - 1) v, isJoined := false }

def load (name : Name) : Run Value := do
  if name = .everywhere "NF" then
    split
    return .ofNat (← get).fields.size
  else
    match ← binding name with
    | .value v => return v
    | _ => return .unset

def store (name : Name) (v : Value) : Run Unit := do
  match name with
  | .everywhere "NF" =>
    let n := narrow v.toNumber
    if n < 0 then fault "negative value assigned to NF"
    setFieldCount n.toNat
  | .everywhere "FS" =>
    -- The fields of this record are still found as before.
    split
    bind name (.value v)
  | .everywhere "OFS" =>
    join
    bind name (.value v)
  | _ => bind name (.value v)

def flushOutput (o : Output) : Run Output := do
  unless o.pending.isEmpty do
    let _ ← Strand.writeAt o.descriptor o.pending
  return { o with pending := .empty }

def flushAll : Run Unit := do
  lift flush
  let mut done := #[]
  for o in (← get).outputs do done := done.push (← flushOutput o)
  let outputs := done.toList
  modify ({ · with outputs })

def statusOf : Ending → Nat
  | .exited n => n
  | .signaled n => 256 + n

def waitFor (child : Nat) : Run Nat := do
  match ← Strand.waitChild (· = child) with
  | some (_, ending) => return statusOf ending
  | none => return 0

def start (load : Loader) (command : String) (prepare : Tool Unit) : Run Nat := do
  flushAll
  let m ← get
  let body : Tool Nat := do
    prepare
    for o in m.outputs do Strand.closeAt o.descriptor
    let _ ← Strand.exec load "/bin/sh" ["/bin/sh", "-c", command] m.tool.environment
    return 127
  Strand.fork (body m.tool fun _ result ↦
    .ended (.exited (match result with | .ok n | .error n => n)))

def system (load : Loader) (command : String) : Run Nat := do
  waitFor (← start load command (pure ()))

def readSize : Nat := 4096

def nextRecord (rs : String) (m : Option Regex.Matcher) :
    Tool (Except SystemFault (Option String)) := do
  match rs.toList, m with
  | [c], _ => return (← nextLine c.toNat.toUInt8 readSize).map (·.map Prod.fst)
  | [], _ =>
    iterate (fun (lines : List String) ↦ do
      let whole : Option String :=
        if lines.isEmpty then none else some ("\n".intercalate lines.reverse)
      match ← nextLine 10 readSize with
      | .error fault => return .inr (.error fault)
      | .ok none => return .inr (.ok whole)
      | .ok (some ("", _)) => return if lines.isEmpty then .inl [] else .inr (.ok whole)
      | .ok (some (line, _)) => return .inl (line :: lines)) []
  | _, none => return .ok none
  | _, some m =>
    match ← restOfInput with
    | .error fault => return .error fault
    | .ok bytes =>
      let keep (rest : ByteArray) : Tool Unit := modify fun s ↦
        { s with stream := { s.stream with buffer := rest, position := 0, ended := true } }
      if bytes.isEmpty then return .ok none
      match solidMatch? m bytes (bytes.size + 1) 0 with
      | none =>
        keep .empty
        return .ok (some (Octet.ofBytes bytes))
      | some found =>
        keep (bytes.extract found.finish bytes.size)
        return .ok (some (Octet.ofBytes (bytes.extract 0 found.start)))

def readRecord : Run (Except SystemFault (Option String)) := do
  let rs ← settingText "RS"
  let m ← if rs.length ≤ 1 then pure none else some <$> patternOf rs
  lift (nextRecord rs m)

def readFromInput (i : Input) : Run (Input × Except SystemFault (Option String)) := do
  let stream := (← get).tool.stream
  modify fun m ↦ { m with tool := { m.tool with stream := i.stream } }
  let result ← readRecord
  let after := (← get).tool.stream
  modify fun m ↦ { m with tool := { m.tool with stream } }
  return ({ i with stream := after }, result)

def input? (load : Loader) (name : String) (isCommand : Bool) : Run (Option Input) := do
  match (← get).inputs.find? fun i ↦ i.name = name && i.isCommand = isCommand with
  | some i => return some i
  | none =>
    if isCommand then
      let (reader, writer) ← Strand.newPipe
      let child ← start load name do
        Strand.closeAt reader
        Strand.moveDescriptor writer 1
      Strand.closeAt writer
      return some { name, isCommand, stream := { descriptor := reader }, child := some child }
    else if name = "-" || name = "/dev/stdin" then
      return some { name, isCommand, stream := {} }
    else
      match ← Strand.openAt (Octet.toText name) { read := true } with
      | .ok descriptor => return some { name, isCommand, stream := { descriptor } }
      | .error _ => return none

def keepInput (i : Input) : Run Unit := modify fun m ↦
  { m with inputs := i :: m.inputs.filter fun j ↦ j.name ≠ i.name || j.isCommand ≠ i.isCommand }

def keepOutput (o : Output) : Run Unit := modify fun m ↦
  if m.outputs.any fun p ↦ p.name = o.name && p.isCommand = o.isCommand then
    { m with outputs := m.outputs.map fun p ↦
      if p.name = o.name && p.isCommand = o.isCommand then o else p }
  else { m with outputs := m.outputs ++ [o] }

def write (load : Loader) (name : String) (isCommand append : Bool) (text : String) :
    Run Unit := do
  if !isCommand && name = "/dev/stdout" then lift (say text)
  else if !isCommand && name = "/dev/stderr" then
    let _ ← Strand.writeAt 2 (Octet.toBytes text)
  else
    let o : Output ←
      match (← get).outputs.find? fun o ↦ o.name = name && o.isCommand = isCommand with
      | some o => pure o
      | none =>
        if isCommand then
          let (reader, writer) ← Strand.newPipe
          let child ← start load name do
            Strand.closeAt writer
            Strand.moveDescriptor reader 0
          Strand.closeAt reader
          pure { name, isCommand, descriptor := writer, child := some child }
        else
          match ← Strand.openAt (Octet.toText name)
            { write := true, create := true, truncate := !append, append } with
          | .ok descriptor => pure { name, isCommand, descriptor }
          | .error reason =>
            fatal ("cannot open \"" ++ name ++ "\" for output (" ++ reason.describe ++ ")")
    let pending := o.pending ++ Octet.toBytes text
    let o := { o with pending }
    keepOutput (← if bufferSize ≤ pending.size then flushOutput o else pure o)

def closeOutput (o : Output) : Run Nat := do
  let o ← flushOutput o
  Strand.closeAt o.descriptor
  match o.child with
  | some child => waitFor child
  | none => return 0

def closeReading (i : Input) : Run Nat := do
  unless i.stream.descriptor = 0 do Strand.closeAt i.stream.descriptor
  match i.child with
  | some child => waitFor child
  | none => return 0

def close (name : String) : Run Int := do
  let m ← get
  let (outputs, otherOutputs) := m.outputs.partition (·.name = name)
  let (inputs, otherInputs) := m.inputs.partition (·.name = name)
  modify ({ · with outputs := otherOutputs, inputs := otherInputs })
  let mut result : Int := -1
  for o in outputs do result := ← closeOutput o
  for i in inputs do result := ← closeReading i
  return result

def closeAll : Run Unit := do
  let outputs := (← get).outputs
  modify ({ · with outputs := [] })
  for o in outputs do
    if o.isCommand then let _ ← closeOutput o
  for o in outputs do
    unless o.isCommand do let _ ← closeOutput o

def assignment? (argument : String) : Option (String × String) :=
  let cs := argument.toList
  let name := cs.takeWhile isNamePart
  if name.isEmpty || !isNameStart (name.headD '0') then none
  else
    match cs.drop name.length with
    | '=' :: text => some (String.ofList name, String.ofList (unescape (text.length + 1) text))
    | _ => none

def argument (i : Nat) : Run String := do
  let id ← tableOf (.everywhere "ARGV")
  let (found, v) ← withTable id (fun t ↦
    let (t, found) := t.contains (.number i)
    if found then
      let (t, v) := t.get (.number i) .unset
      (t, true, v)
    else (t, false, .unset)) (false, .unset)
  if found then textOf v else return ""

def startFile (name : String) (descriptor : Nat) : Run Unit := do
  lift (readFrom descriptor)
  modify ({ · with isOpen := true, sawFile := true })
  setSetting "FILENAME" (.ofReading name)
  setSetting "FNR" (.number 0)

/-- Opens the next file among the arguments. Assignments before it are done. -/
def openNext : Nat → Run Bool
  | 0 => return false
  | n + 1 => do
    let i := (← get).argument
    let count := narrow (← setting "ARGC").toNumber
    if count ≤ i then
      if (← get).sawFile then return false
      startFile "-" 0
      return true
    modify ({ · with argument := i + 1 })
    let name ← argument i
    if name.isEmpty then openNext n
    else
      match assignment? name with
      | some (target, value) =>
        store (.everywhere target) (.ofReading value)
        openNext n
      | none =>
        if name = "-" || name = "/dev/stdin" then
          startFile name 0
          return true
        else
          match ← Strand.openAt (Octet.toText name) { read := true } with
          | .ok descriptor =>
            startFile name descriptor
            return true
          | .error reason => fatal ("cannot open \"" ++ name ++ "\" (" ++ reason.describe ++ ")")

def skipFile : Run Unit := do
  if (← get).isOpen then
    lift closeInput
    modify ({ · with isOpen := false })

def nextOfAll : Nat → Run (Option String)
  | 0 => return none
  | n + 1 => do
    if !(← get).isOpen then
      unless ← openNext (Strand.partLimit) do return none
    match ← readRecord with
    | .error reason => fatal ("read error (" ++ reason.describe ++ ")")
    | .ok (some text) =>
      for name in ["NR", "FNR"] do
        setSetting name (.number ((← setting name).toNumber + 1))
      return some text
    | .ok none =>
      skipFile
      nextOfAll n

end Run

end RegisterLang.Tool.Record
