import RegisterLang.Host.Shell.Expansion
import RegisterLang.Host.Shell.Lookup
import RegisterLang.Host.Shell.Script

namespace RegisterLang.Shell

structure Manner where
  guarded : Bool := false
  last : Bool := false

abbrev Evaluator := Manner → Command → Run Unit

section

variable (self : Evaluator)

def runSource : Nat → Bool → Source → Run Unit
  | 0, _, _ => return
  | n + 1, ran, source => do
    let p ← process
    let source := { source with
      nextDocument := p.nextDocument, documents := [], aliases := p.aliases }
    let keep (rest : Source) : Run Unit :=
      modifyProcess fun p ↦ { p with
        documents := rest.documents ++ p.documents, nextDocument := rest.nextDocument
        reached := rest.line }
    match Script.next source with
    | .error fault =>
      modifyProcess ({ · with line := fault.line })
      refuse ("Syntax error: " ++ fault.message)
    | .ok .finished => unless ran do setStatus 0
    | .ok (.blank rest) =>
      keep rest
      Strand.pause
      runSource n ran rest
    | .ok (.command command rest) =>
      keep rest
      self {} command
      runSource n true rest

def runText (text : String) : Run Unit := do
  let reached := (← process).reached
  runSource self (text.length + 2) false { rest := text.toList }
  modifyProcess ({ · with reached })

def handleSignals : Run Unit := do
  for signal in ← Strand.takeSignals do
    let p ← process
    if let some action := p.traps.lookup signal then
      runText self action
      setStatus p.status

def finish (result : Except Stop Unit) : Run Ending := do
  match result with
  | .error (.killed signal) => return .signaled signal
  | _ =>
    match result with
    | .error (.exit code) => setStatus code
    | .error .refused => setStatus 2
    | _ => pure ()
    let p ← process
    match p.traps.lookup 0 with
    | none => return .exited (p.status % 256)
    | some action =>
      modifyProcess fun p ↦ { p with traps := p.traps.filter (·.1 ≠ 0) }
      match ← attempt (runText self action) with
      | .error (.killed signal) => return .signaled signal
      | .error (.exit code) => return .exited code
      | .error .refused => return .exited 2
      | _ => return .exited (p.status % 256)

def taskOf (p : Process) (act : Run Unit) : Task :=
  (do finish self (← attempt act) : Run Ending) p fun _ result ↦
    .ended (match result with
      | .ok ending => ending
      | .error _ => .signaled 9)

/-- Starts a process and tells its number. Traps are not inherited, but what is ignored stays
ignored. -/
def spawn (act : Run Unit) : Run Nat := do
  let p ← process
  let traps := p.traps.filter fun (_, action) ↦ action.isEmpty
  let child := { p with jobs := [], traps }
  if traps.length = p.traps.length then Strand.fork (taskOf self child act)
  else Strand.fork (taskOf self child do Builtin.announceTraps; act)

def conclude (ending : Ending) : Run Unit := do
  if let .signaled signal := ending then
    if let some report := Signal.report? signal then complain report
  setStatus (Builtin.statusOf ending)

def waitFor (id : Nat) : Run Unit := do
  if let some (_, ending) ← Strand.waitChild (· = id) then conclude ending

def inChild (act : Run Unit) : Run Unit := do
  waitFor (← spawn self act)

def stripNewlines (text : String) : String :=
  String.ofList (text.toList.reverse.dropWhile (· = '\n')).reverse

def output (script : Option Command) : Run String := do
  let status := (← process).status
  let (reader, writer) ← Strand.newPipe
  let id ← spawn self do
    Strand.closeAt reader
    Strand.moveDescriptor writer 1
    match script with
    | some command => self { last := true } command
    | none => setStatus 0
  Strand.closeAt writer
  let bytes := (← Strand.readAll reader).toOption.getD .empty
  Strand.closeAt reader
  waitFor id
  modifyProcess fun p ↦ { p with outputStatus := p.status, status }
  return stripNewlines (Octet.ofBytes ⟨bytes.data.filter (· ≠ 0)⟩)

def openComplaint (create : Bool) (path : String) (fault : SystemFault) : String :=
  let reason := match fault, create with
    | .noSuchFile, true | .notDirectory, true => "Directory nonexistent"
    | .noSuchFile, false | .notDirectory, false => "No such file"
    | _, _ => fault.describe
  "cannot " ++ (if create then "create " else "open ") ++ path ++ ": " ++ reason

def keep (descriptor : Nat) : Run Unit := do
  unless (← process).kept.any (·.1 = descriptor) do
    let copy ← Strand.keepDescriptor descriptor
    modifyProcess fun p ↦ { p with kept := (descriptor, copy) :: p.kept }

def openUnder (saving : Bool) (descriptor : Nat) (path : String) (how : RegisterLang.Opening) :
    Run Bool := do
  match ← Strand.openAt (Octet.toText path) how with
  | .error fault =>
    complainHere (openComplaint how.create path fault)
    return false
  | .ok number =>
    if saving then
      if number = descriptor then
        modifyProcess fun p ↦ { p with kept := (descriptor, none) :: p.kept }
      else keep descriptor
    Strand.moveDescriptor number descriptor
    return true

def openText (saving : Bool) (descriptor : Nat) (text : String) : Run Unit := do
  if saving then keep descriptor
  Strand.call fun id s ↦
    let (s, pipe) := s.addPipe { bytes := Octet.toBytes text }
    let (s, file) := s.addFile { channel := .pipe pipe, readable := true, writable := false }
    (s.setDescriptor id { number := descriptor, file }, ())

def copyDescriptor (saving : Bool) (descriptor source : Nat) : Run Bool := do
  if saving && descriptor ≠ source then keep descriptor
  let done ← Strand.call fun id s ↦
    match s.fileAt? id source with
    | some (file, _) => (s.setDescriptor id { number := descriptor, file }, true)
    | none => (s, false)
  unless done do
    if saving then Strand.closeAt descriptor
    complainHere (toString source ++ ": " ++ SystemFault.badDescriptor.describe)
  return done

def badNumber {α : Type} : Run α := do
  modifyProcess fun p ↦ { p with line := p.reached }
  refuse "Syntax error: Bad fd number"

def redirect (saving : Bool) : Redirect → Run Bool
  | .mk descriptor opening target => do
    match opening with
    | .document id =>
      let body := ((← process).documents.lookup id).getD []
      let text ← expandText (output self) body
      openText saving descriptor text
      return true
    | _ =>
      let path ← expandText (output self) target
      let creating : RegisterLang.Opening := { write := true, create := true }
      match opening with
      | .read => openUnder saving descriptor path { read := true }
      | .write =>
        match (← process).has 'C', (← disk).look (Octet.toText path) with
        | true, .ok (_, node) =>
          if node.isFile then
            complainHere (openComplaint true path .fileExists)
            return false
          else openUnder saving descriptor path { write := true }
        | _, _ => openUnder saving descriptor path { creating with truncate := true }
      | .clobber => openUnder saving descriptor path { creating with truncate := true }
      | .append => openUnder saving descriptor path { creating with append := true }
      | .readWrite => openUnder saving descriptor path { creating with read := true }
      | _ =>
        match path.toList with
        | ['-'] =>
          if saving then keep descriptor
          Strand.closeAt descriptor
          return true
        | [c] =>
          if c.isDigit then copyDescriptor saving descriptor (c.toNat - '0'.toNat) else badNumber
        | _ => badNumber

def redirectAll (saving : Bool) : List Redirect → Run Bool
  | [] => return true
  | r :: rest => do if ← redirect self saving r then redirectAll saving rest else return false

def putBack (descriptor : Nat) (kept : Option Nat) : Run Unit := do
  match kept with
  | some number => Strand.moveDescriptor number descriptor
  | none => Strand.closeAt descriptor

def keepingDescriptors (act : Run Unit) : Run Unit := do
  let outer := (← process).kept
  modifyProcess ({ · with kept := [] })
  let result ← attempt act
  for (descriptor, kept) in (← process).kept do putBack descriptor kept
  modifyProcess ({ · with kept := outer })
  match result with
  | .ok () => return
  | .error stop => throw stop

def forgetDescriptors : Run Unit := do
  for (_, kept) in (← process).kept do
    if let some number := kept then Strand.closeAt number
  modifyProcess ({ · with kept := [] })

variable (load : Loader)

def execute (name : String) (paths args : List String) : Run Unit := do
  let environment := (← process).environment
  let mut reason := SystemFault.noSuchFile
  for path in paths do
    match ← Strand.execScript load path (name :: args) environment with
    | .noSuchFile | .notDirectory => pure ()
    | fault => reason := fault
  complainHere (name ++ ": " ++ commandFault reason)
  throw (.exit (match reason with
    | .noSuchFile | .notDirectory | .tooManyLinks | .nameTooLong => 127
    | _ => 126))

def runBuiltin (name : String) (special : Bool) (act : Run Nat) : Run Unit := do
  let speaker := (← process).speaker
  modifyProcess ({ · with speaker := some name, writeFailed := false })
  let result ← attempt act
  match result with
  | .ok status =>
    let failed := (← process).writeFailed
    if failed then complainHere "I/O error"
    modifyProcess ({ · with
      speaker, writeFailed := false, status := if failed && status = 0 then 1 else status })
  | .error stop =>
    modifyProcess ({ · with speaker })
    if stop = .refused then setStatus 2
    if special || stop ≠ .refused then throw stop

def callLimit : Nat := 1000

def callFunction (body : Command) (guarded : Bool) (args : List String) : Run Unit := do
  let saved ← process
  if callLimit ≤ saved.calls then
    refuse ("Maximum function recursion depth (" ++ toString callLimit ++ ") reached")
  modifyProcess fun p ↦ { p with
    arguments := args, loops := 0, calls := p.calls + 1, setAside := [] :: p.setAside
    optionOffset := none }
  let result ← attempt (self { guarded } body)
  restore ((← process).setAside.headD [])
  modifyProcess fun p ↦ { p with
    arguments := saved.arguments, loops := saved.loops, calls := saved.calls
    setAside := saved.setAside, optionOffset := saved.optionOffset }
  match result with
  | .ok () | .error .leaveFunction => return
  | .error stop => throw stop

def runDot (args : List String) : Run Nat := do
  match args with
  | [] => return 0
  | name :: _ =>
    let path ← if name.toList.contains '/' then pure name
      else
        match findFile? (← disk) (← process).searchPath name with
        | some path => pure path
        | none => refuse (name ++ ": not found")
    match ← Strand.openAt (Octet.toText path) { read := true } with
    | .error fault => refuse (openComplaint false path fault)
    | .ok number =>
      let read ← Strand.readAll number
      Strand.closeAt number
      match read with
      | .error _ => return 0
      | .ok bytes =>
        modifyProcess ({ · with speaker := some name })
        match ← attempt (runText self (Octet.ofBytes bytes)) with
        | .ok () | .error .leaveFunction => return (← process).status
        | .error stop => throw stop

def hasTraps : Run Bool := do return (← process).traps.any fun (_, action) ↦ !action.isEmpty

def runProgram (manner : Manner) (name : String) (paths args : List String) : Run Unit := do
  if manner.last && !(← hasTraps) then execute load name paths args
  else inChild self (execute load name paths args)

/-- Runs a command by name. As the operand of `command` a name leads to no function, and a builtin
is nothing special. -/
def invoke (manner : Manner) : Nat → Bool → List String → String → List String → Run Unit
  | 0, _, _, _, _ => throw (.killed 9)
  | n + 1, plain, directories, name, args => do
    let p ← process
    match if plain || isSpecialBuiltin name then none else p.functions.lookup name with
    | some body => callFunction self body manner.guarded args
    | none =>
    if !Builtin.isBuiltin name then
      if name.toList.contains '/' then runProgram self load manner name [name] args
      else
        match ← findCommand directories name with
        | .ok n =>
          runProgram self load manner name ((Strand.candidates directories name).drop n) args
        | .error fault =>
          complainHere (name ++ ": " ++ commandFault fault)
          setStatus 127
    else
      let run (act : Run Nat) : Run Unit := runBuiltin name (isSpecialBuiltin name && !plain) act
      match name with
      | "eval" => run do runText self (" ".intercalate args); return (← process).status
      | "." => run (runDot self args)
      | "type" => run (describeAll false args)
      | "exec" =>
        match args with
        | [] => setStatus 0
        | program :: rest =>
          modifyProcess ({ · with speaker := some "exec" })
          execute load program (Strand.candidates (← process).searchPath program) rest
      | "command" =>
        let (found, operands) ← Builtin.options "pvV" args
        if found.any (·.1 = 'V') then run (describeAll false (operands.take 1))
        else if found.any (·.1 = 'v') then run (describeAll true (operands.take 1))
        else
          match operands with
          | [] => setStatus 0
          | command :: rest =>
            let directories := if found.any (·.1 = 'p') then usualPath else directories
            invoke manner n true directories command rest
      | _ =>
        match Builtin.table.lookup name with
        | some act => run (act args)
        | none => setStatus 127

def takesAssignments (name : Option String) : Bool :=
  match name with
  | some name => ["export", "readonly", "local"].contains name
  | none => false

def expandWords (words : List Word) : Run (List String) := do
  let mut args := []
  for word in words do
    let name := if args.head? = some "command" then args[1]? else args.head?
    if takesAssignments name && (Word.assignment? word).isSome then
      args := args ++ [← expandText (output self) word]
    else args := args ++ (← expandFields (output self) word)
  return args

def trace (assigned : List (String × String)) (args : List String) : Run Unit := do
  let p ← process
  if p.has 'x' then
    let words := assigned.map (fun (name, value) ↦ name ++ "=" ++ value) ++ args
    let line := (p.value? "PS4").getD "" ++ " ".intercalate words ++ "\n"
    match p.kept.lookup 2 with
    | some none => return
    | some (some number) => let _ ← write number (Octet.toBytes line)
    | none => let _ ← write 2 (Octet.toBytes line)

/-- Carries out assignments. Those in front of a command hold only while it runs: what has to be put
back then is the result. -/
def assignAll (temporary : Bool) : List (String × Word) →
    Run (List (String × String) × List (String × Option Variable))
  | [] => return ([], [])
  | (name, word) :: rest => do
    let value ← expandText (output self) word
    let old := (← process).lookUp? name
    assign name value temporary
    let (assigned, saved) ← assignAll temporary rest
    return ((name, value) :: assigned, saved ++ [(name, old)])

def invocationDepth : Nat := 1000

def simple (manner : Manner) (assignments : List (String × Word)) (words : List Word)
    (redirects : List Redirect) : Run Unit := do
  modifyProcess ({ · with outputStatus := 0 })
  let args ← expandWords self words
  let special := args.head?.any isSpecialBuiltin &&
    !(args.head?.any fun name ↦ (name = "local"))
  let body : Run Unit := do
    if ← redirectAll self true redirects then
      let temporary := !args.isEmpty && !special
      let (assigned, saved) ← assignAll self temporary assignments
      unless args.isEmpty && assigned.isEmpty do trace assigned args
      match args with
      | [] => modifyProcess fun p ↦ { p with status := p.outputStatus }
      | name :: operands =>
        let result ← attempt
          (invoke self load manner invocationDepth false (← process).searchPath name operands)
        if temporary then restore saved
        match result with
        | .ok () => if args = ["exec"] then forgetDescriptors
        | .error stop => throw stop
    else
      setStatus 2
      if special then throw .refused
  if redirects.isEmpty then body else keepingDescriptors body

def startStages (background guarded : Bool) : Option Nat → List Command → Run (List Nat)
  | _, [] => return []
  | inlet, stage :: rest => do
    let pipe ← if rest.isEmpty then pure none else do pure (some (← Strand.newPipe))
    let id ← spawn self do
      if background then enterBackground inlet.isNone
      if let some reader := inlet then Strand.moveDescriptor reader 0
      if let some (reader, writer) := pipe then
        Strand.closeAt reader
        Strand.moveDescriptor writer 1
      self { guarded, last := true } stage
    if let some reader := inlet then Strand.closeAt reader
    if let some (_, writer) := pipe then Strand.closeAt writer
    return id :: (← startStages background guarded (pipe.map (·.1)) rest)
where
  enterBackground (first : Bool) : Run Unit := do
    modifyProcess fun p ↦ { p with traps := [(2, ""), (3, "")] ++ p.traps }
    Builtin.announceTraps
    if first then
      match ← Strand.openAt "/dev/null" { read := true } with
      | .ok number => Strand.moveDescriptor number 0
      | .error _ => pure ()

def runStages (guarded : Bool) (stages : List Command) : Run Unit := do
  let ids ← startStages self false guarded none stages
  let mut status := 0
  for id in ids do
    waitFor id
    status := (← process).status
  setStatus status

def startBackground (command : Command) : Run Unit := do
  let stages := match command with
    | .pipeline stages => stages
    | other => [other]
  let members ← startStages self true false none stages
  let id := members.getLastD 0
  modifyProcess fun p ↦ { p with
    jobs := { id, members } :: p.jobs, lastJob := some id, status := 0 }

def round (act : Run Unit) : Run Bool := do
  modifyProcess fun p ↦ { p with loops := p.loops + 1 }
  let result ← attempt act
  modifyProcess fun p ↦ { p with loops := p.loops - 1 }
  match result with
  | .ok () | .error (.nextRound 0) => return true
  | .error (.leaveLoop 0) => return false
  | .error (.leaveLoop (n + 1)) => throw (.leaveLoop n)
  | .error (.nextRound (n + 1)) => throw (.nextRound n)
  | .error stop => throw stop

def repeatWhile (guarded untilSuccess : Bool) (test body : Command) : Nat → Nat → Run Unit
  | 0, _ => throw (.killed 9)
  | n + 1, status => do
    let mut ended := false
    let goesOn ← round (self { guarded := true } test)
    if goesOn then ended := ((← process).status = 0) = untilSuccess
    if !goesOn then setStatus 0
    else if ended then setStatus status
    else if ← round (self { guarded } body) then
      repeatWhile guarded untilSuccess test body n (← process).status
    else return

def repeatFor (guarded : Bool) (name : String) (body : Command) : List String → Run Unit
  | [] => return
  | value :: rest => do
    assign name value
    if ← round (self { guarded } body) then repeatFor guarded name body rest else return

def chooseBranch (subject : List Char) :
    List (List Word × Option Command) → Run (Option (Option Command))
  | [] => return none
  | (patterns, body) :: rest => do
    let mut found := false
    for pattern in patterns do
      unless found do
        found := (← expandGlyphs (output self) pattern).fits subject
    if found then return some body else chooseBranch subject rest

def roundLimit : Nat := 1000000000

def setLine (line : Nat) : Run Unit := modifyProcess ({ · with line })

def checkFailure (guarded : Bool) : Run Unit := do
  let p ← process
  if p.has 'e' && !guarded && p.status ≠ 0 then throw (.exit p.status)

def evalWith (manner : Manner) (command : Command) : Run Unit := do
  let guarded := manner.guarded
  match command with
  | .simple line assignments words redirects =>
    setLine line
    simple self load manner assignments words redirects
    handleSignals self
    checkFailure guarded
  | .pipeline stages =>
    runStages self guarded stages
    handleSignals self
    checkFailure guarded
  | .negated command =>
    self { guarded := true } command
    modifyProcess fun p ↦ { p with status := if p.status = 0 then 1 else 0 }
  | .both first second =>
    self { guarded := true } first
    if (← process).status = 0 then self manner second
  | .either first second =>
    self { guarded := true } first
    if (← process).status ≠ 0 then self manner second
  | .sequence first second =>
    self { guarded } first
    self manner second
  | .background command =>
    startBackground self command
    handleSignals self
  | .subshell line body redirects =>
    setLine line
    let act : Run Unit := do
      if ← redirectAll self false redirects then self { manner with last := true } body
      else throw .refused
    if manner.last && !(← hasTraps) then act
    else
      inChild self act
      handleSignals self
      checkFailure guarded
  | .redirected line body redirects =>
    setLine line
    keepingDescriptors do
      if ← redirectAll self true redirects then self { guarded } body else setStatus 2
  | .conditional test body alternative =>
    self { guarded := true } test
    if (← process).status = 0 then self manner body
    else
      match alternative with
      | some command => self manner command
      | none => setStatus 0
  | .loop untilSuccess test body =>
    repeatWhile self guarded untilSuccess test body roundLimit 0
  | .forEach line name words body =>
    setLine line
    let mut values := []
    for word in words do values := values ++ (← expandFields (output self) word)
    setStatus 0
    repeatFor self guarded name body values
  | .choice line subject branches =>
    setLine line
    let text ← expandText (output self) subject
    match ← chooseBranch self text.toList branches with
    | some (some body) => self manner body
    | _ => setStatus 0
  | .define name body =>
    modifyProcess fun p ↦ { p with
      functions := (name, body) :: p.functions.filter (·.1 ≠ name), status := 0 }

end

/-- Runs a command in which others nest at most so deep; one that nests deeper ends its process. A
shell that only reads runs nothing. -/
def eval (load : Loader) : Nat → Evaluator
  | 0, _, _ => throw (.killed 11)
  | n + 1, manner, command => do
    Strand.pause
    unless (← process).has 'n' do evalWith (eval load n) load manner command

end RegisterLang.Shell
