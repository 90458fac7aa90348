import RegisterLang.Host.Shell.Signal
import RegisterLang.Host.Tool.Options

namespace RegisterLang.Tool

def launch (load : Loader) (arguments : List String) (complaint : String → String) : Tool Nat := do
  flush
  let fault ← Strand.execNamed load arguments (← get).environment
  complain (complaint (cited (arguments.headD "")) ++ ": " ++ fault.describe)
  return if fault = .noSuchFile then 127 else 126

/-- Runs a program beside this one and waits until it has ended. `before` is done in its place
first; if it cannot be started, `failure` tells the status with which it ends. -/
def runBeside (load : Loader) (arguments : List String) (before : Tool Unit)
    (failure : SystemFault → Tool Nat) : Tool Ending := do
  flush
  let state ← get
  let body : Tool Nat := do
    before
    failure (← Strand.execNamed load arguments (← get).environment)
  let child ← Strand.fork (body state fun _ result ↦
    .ended (.exited (match result with | .ok n | .error n => n)))
  match ← Strand.waitChild (· = child) with
  | some (_, ending) => return ending
  | none => return .exited 1

/-- What a command of the shell writes, and how it ends. -/
def capture (load : Loader) (command : String) : Tool (ByteArray × Ending) := do
  let state ← get
  let (reader, writer) ← Strand.newPipe
  let body : Tool Nat := do
    Strand.closeAt reader
    Strand.moveDescriptor writer 1
    let _ ← Strand.exec load "/bin/sh" ["sh", "-c", command] state.environment
    return 127
  let child ← Strand.fork (body state fun _ result ↦
    .ended (.exited (match result with | .ok n | .error n => n)))
  Strand.closeAt writer
  let bytes ← Strand.readAll reader
  Strand.closeAt reader
  let ending ← match ← Strand.waitChild (· = child) with
    | some (_, ending) => pure ending
    | none => pure (.exited 1)
  return (bytes.toOption.getD .empty, ending)

def readDuration? (text : String) : Option Nat :=
  match Real.read? text.toList with
  | none => none
  | some (v, rest) =>
    let unit? := match rest with
      | [] | ['s'] => some 1
      | ['m'] => some 60
      | ['h'] => some 3600
      | ['d'] => some 86400
      | _ => none
    match v, unit? with
    | _, none => none
    | .finite false a b, some unit => some ((a * 1000000000 * unit + b - 1) / b)
    | .infinite false, some _ => some 10000000000000000000
    | _, _ => none

namespace Environment

/-- The words of a text that is split like a line of the shell. -/
structure Splitting where
  words : List String := []
  word : Option String := none

namespace Splitting

def add (s : Splitting) (text : String) : Splitting :=
  { s with word := some (s.word.getD "" ++ text) }

def close (s : Splitting) : Splitting := { words := s.words ++ s.word.toList }

end Splitting

def splitEscape? : Char → Option String
  | 'f' => some "\x0c"
  | 'n' => some "\n"
  | 'r' => some "\r"
  | 't' => some "\t"
  | 'v' => some "\x0b"
  | '#' => some "#"
  | '$' => some "$"
  | '"' => some "\""
  | '\x27' => some "'"
  | '\\' => some "\\"
  | _ => none

def split (environment : List (String × String)) :
    Nat → (quote : Option Char) → List Char → Splitting → Except String (List String)
  | 0, _, _, s => .ok s.close.words
  | _ + 1, quote, [], s =>
    if quote.isSome then .error "no terminating quote in -S string" else .ok s.close.words
  | n + 1, quote, c :: cs, s =>
    let blank := c = ' ' || ('\t' ≤ c && c ≤ '\r')
    if c = '\x27' && quote ≠ some '"' then
      split environment n (if quote.isSome then none else some c) cs (s.add "")
    else if c = '"' && quote ≠ some '\x27' then
      split environment n (if quote.isSome then none else some c) cs (s.add "")
    else if blank && quote.isNone then split environment n none cs s.close
    else if c = '#' && quote.isNone && s.word.isNone then .ok s.close.words
    else if c = '\\' then
      match quote, cs with
      | some '\x27', '\\' :: rest => split environment n quote rest (s.add "\\")
      | some '\x27', '\x27' :: rest => split environment n quote rest (s.add "'")
      | some '\x27', _ => split environment n quote cs (s.add "\\")
      | _, [] => .error "invalid backslash at end of string in -S"
      | _, '_' :: rest =>
        if quote.isSome then split environment n quote rest (s.add " ")
        else split environment n quote rest s.close
      | _, 'c' :: _ =>
        if quote.isSome then .error "'\\c' must not appear in double-quoted -S string"
        else .ok s.close.words
      | _, e :: rest =>
        match splitEscape? e with
        | some text => split environment n quote rest (s.add text)
        | none => .error ("invalid sequence '\\" ++ e.toString ++ "' in -S")
    else if c = '$' && quote ≠ some '\x27' then
      let name := (cs.drop 1).takeWhile fun c ↦ c.isAlphanum || c = '_'
      if cs.head? = some '{' && (cs.drop (1 + name.length)).head? = some '}' &&
          !(name.headD '0').isDigit then
        let value := environment.lookup (String.ofList name)
        split environment n quote (cs.drop (name.length + 2))
          (match value with
            | some value => s.add value
            | none => s)
      else
        .error ("only $\x7bVARNAME\x7d expansion is supported, error at: " ++
          String.ofList (c :: cs))
    else split environment n quote cs (s.add c.toString)

def table : OptionTable :=
  { short := "iu:0C:S:v"
    long := OptionTable.plain
      [("ignore-environment", "i"), ("null", "0"), ("debug", "v"),
        ("list-signal-handling", "list-signal-handling")] ++
      OptionTable.valued [("unset", "u"), ("chdir", "C"), ("split-string", "S")] ++
      [{ name := "default-signal", key := "default-signal", need := .maybe },
        { name := "ignore-signal", key := "ignore-signal", need := .maybe },
        { name := "block-signal", key := "block-signal", need := .maybe }]
    ordered := true, failure := 125 }

def splitOption? : List String → Option (String × String × List String)
  | [] => none
  | arg :: rest =>
    match arg.toList with
    | '-' :: '-' :: word =>
      let name := "split-string"
      let given := String.ofList (word.takeWhile (· ≠ '='))
      if !given.isEmpty && given.toList.isPrefixOf name.toList && given.startsWith "s" then
        match word.dropWhile (· ≠ '=') with
        | _ :: text => some ("", String.ofList text, rest)
        | [] => rest.head?.map fun text ↦ ("", text, rest.tail)
      else none
    | '-' :: letters =>
      let before := letters.takeWhile fun c ↦ c = 'i' || c = 'v' || c = '0'
      match letters.drop before.length with
      | 'S' :: [] => rest.head?.map fun text ↦ (String.ofList before, text, rest.tail)
      | 'S' :: text => some (String.ofList before, String.ofList text, rest)
      | _ => none
    | _ => none

def splitOptions (environment : List (String × String)) : Nat → List String →
    Except String (List String)
  | 0, args => .ok args
  | n + 1, args =>
    match splitOption? args with
    | some (before, text, rest) => do
      let words ← split environment (text.length + 1) none text.toList {}
      let rest ← splitOptions environment n (words ++ rest)
      return (if before.isEmpty then [] else ["-" ++ before]) ++ rest
    | none =>
      match args with
      | [] => .ok []
      | arg :: rest =>
        if arg = "--" || !arg.startsWith "-" then .ok args
        else if arg = "-u" || arg = "-C" then do
          return arg :: rest.take 1 ++ (← splitOptions environment n (rest.drop 1))
        else do return arg :: (← splitOptions environment n rest)

def assignment? (arg : String) : Option (String × String) :=
  let cs := arg.toList
  if cs.contains '=' then
    some (String.ofList (cs.takeWhile (· ≠ '=')), String.ofList ((cs.dropWhile (· ≠ '=')).drop 1))
  else none

def put (environment : List (String × String)) (name value : String) : List (String × String) :=
  if environment.any (·.1 = name) then
    environment.map fun e ↦ if e.1 = name then (name, value) else e
  else environment ++ [(name, value)]

def signalsOf : Option String → List Nat
  | none => List.range 65
  | some text => (text.splitOn ",").filterMap Shell.Signal.find?

/-- Starts a program in an environment of its own, or shows the environment. -/
def main (load : Loader) (args : List String) : Tool Nat := do
  let start := (← get).environment
  let args ← match splitOptions start (2 * args.length + 100) args with
    | .ok args => pure args
    | .error message => fail 125 message
  let (found, operands) ← options table args
  let (clean, operands) := match operands with
    | "-" :: rest => (true, rest)
    | _ => (found.has "i", operands)
  let mut environment := if clean then [] else start
  for (key, value) in found do
    if key = "u" then
      let name := value.getD ""
      if name.isEmpty || name.toList.contains '=' then
        fail 125 ("cannot unset " ++ quoted name ++ ": " ++ SystemFault.invalidArgument.describe)
      environment := environment.filter (·.1 ≠ name)
  let settings := operands.takeWhile fun a ↦ (assignment? a).isSome
  let command := operands.drop settings.length
  for setting in settings do
    if let some (name, value) := assignment? setting then
      environment := put environment name value
  let result := environment
  modify ({ · with environment := result })
  if command.isEmpty then
    if found.has "C" then failWithHelp 125 "must specify command with --chdir (-C)"
    for (name, value) in result do
      say (name ++ "=" ++ value ++ (if found.has "0" then "\x00" else "\n"))
    return 0
  if found.has "0" then failWithHelp 125 "cannot specify --null (-0) with command"
  for (key, value) in found do
    if key = "ignore-signal" then
      Strand.call fun id s ↦
        (s.modifyResident id fun r ↦ { r with ignored := r.ignored ++ signalsOf value }, ())
    else if key = "default-signal" then
      Strand.call fun id s ↦
        (s.modifyResident id fun r ↦
          { r with ignored := r.ignored.filter (!(signalsOf value).contains ·) }, ())
  if let some path := found.value? "C" then
    let moved ← Strand.call fun id s ↦
      match (s.diskOf id).look (Octet.toText path) with
      | .error fault => (s, some fault)
      | .ok (place, node) =>
        if !node.isDirectory then (s, some .notDirectory)
        else if !node.allows .execute then (s, some .notPermitted)
        else (s.modifyResident id ({ · with here := place }), none)
    if let some fault := moved then
      fail 125 ("cannot change directory to " ++ quoted path ++ ": " ++ fault.describe)
  if found.has "v" then
    report ("executing: " ++ command.headD "" ++ "\n" ++ String.join
      (command.zipIdx.map fun (a, i) ↦
      "   arg[" ++ toString i ++ "]= " ++ cited a ++ "\n"))
  let status ← launch load command id
  let name := command.headD ""
  if status = 127 && name.toList.contains ' ' then
    complain "use -[v]S to pass options in shebang lines"
  return status

def list (args : List String) : Tool Nat := do
  let (found, operands) ← options
    { short := "0", long := OptionTable.plain [("null", "0")], ordered := true, failure := 2 } args
  let mark := if found.has "0" then "\x00" else "\n"
  let environment := (← get).environment
  if operands.isEmpty then
    for (name, value) in environment do say (name ++ "=" ++ value ++ mark)
    return 0
  let mut status := 0
  for name in operands do
    match environment.lookup name with
    | some value => say (value ++ mark)
    | none => status := 1
  return status

end Environment

/-- Starts a program that the end of its terminal does not end. -/
def noHangup (load : Loader) (args : List String) : Tool Nat := do
  let (_, operands) ← options { ordered := true, failure := 125 } args
  if operands.isEmpty then missingOperand 125
  Strand.call fun id s ↦ (s.modifyResident id fun r ↦ { r with ignored := 1 :: r.ignored }, ())
  launch load operands ("failed to run command " ++ ·)

namespace Nice

def limit : Nat := 19

def normalize : List String → List String
  | [] => []
  | arg :: rest =>
    match arg.toList with
    | '-' :: c :: cs =>
      let digits := if c = '-' || c = '+' then cs else c :: cs
      if !digits.isEmpty && digits.all Char.isDigit then
        "-n" :: String.ofList (c :: cs) :: normalize rest
      else if arg = "-n" || arg = "--adjustment" then
        match rest with
        | value :: rest => arg :: value :: normalize rest
        | [] => [arg]
      else if arg = "--" then arg :: rest
      else arg :: normalize rest
    | _ => arg :: rest

def main (load : Loader) (args : List String) : Tool Nat := do
  let (found, operands) ← options
    { short := "n:", long := OptionTable.valued [("adjustment", "n")], ordered := true
      failure := 125 } (normalize args)
  let adjustment ← match found.value? "n" with
    | none => pure 10
    | some text =>
      let digits := match text.toList with
        | '-' :: rest | '+' :: rest => rest
        | cs => cs
      if digits.isEmpty || !digits.all Char.isDigit then
        fail 125 ("invalid adjustment " ++ cited text)
      let n : Int := Real.readDigits 10 digits
      pure (if text.startsWith "-" then -n else n)
  if operands.isEmpty then
    if found.has "n" then failWithHelp 125 "a command must be given with an adjustment"
    let n : Nat ← Strand.ask fun id s ↦ ((s.resident? id).map Resident.niceness).getD 0
    sayLine (toString n)
    return 0
  if adjustment < 0 then
    complain ("cannot set niceness: " ++ SystemFault.notPermitted.describe)
  else
    Strand.call fun id s ↦
      (s.modifyResident id fun r ↦
        { r with niceness := min limit (r.niceness + adjustment.toNat) }, ())
  launch load operands id

end Nice

def ownSession (load : Loader) (args : List String) : Tool Nat := do
  let (_, operands) ← options
    { short := "cfw", ordered := true
      long := OptionTable.plain [("ctty", "c"), ("fork", "f"), ("wait", "w")] } args
  if operands.isEmpty then failWithHelp 1 "no command specified"
  flush
  Strand.call fun id s ↦ (s.modifyResident id ({ · with group := id }), ())
  let fault ← Strand.execNamed load operands (← get).environment
  complain ("failed to execute " ++ operands.headD "" ++ ": " ++ fault.describe)
  return if fault = .noSuchFile then 127 else 126

def otherBuffers (load : Loader) (args : List String) : Tool Nat := do
  let (found, operands) ← options
    { short := "i:o:e:", ordered := true, failure := 125
      long := OptionTable.valued [("input", "i"), ("output", "o"), ("error", "e")] } args
  for (key, value) in found do
    let text := value.getD ""
    if text = "L" then
      if key = "i" then failWithHelp 125 "line buffering stdin is meaningless"
    else
      match readCount usualSuffixes text with
      | .ok _ => pure ()
      | .error _ => fail 125 ("invalid mode " ++ cited text)
  if operands.isEmpty then missingOperand 125
  if found.isEmpty then failWithHelp 125 "you must specify a buffering mode option"
  launch load operands ("failed to run command " ++ ·)

def sleepMain (args : List String) : Tool Nat := do
  let (_, operands) ← options {} args
  if operands.isEmpty then missingOperand
  let mut total := 0
  let mut wrong := false
  for text in operands do
    match readDuration? text with
    | some n => total := total + n
    | none =>
      complain ("invalid time interval " ++ cited text)
      wrong := true
  if wrong then failWithHelp 1 ""
  let _ ← Strand.sleep total
  return 0

namespace Timeout

/-- How a program ended, if it did before a point in time. -/
def waitUntil (child : Nat) (deadline : Option Nat) : Tool (Option Ending) :=
  Strand.awaitUntil fun id s ↦
    match s.reap id (· = child) with
    | some (s, _, ending) => .ok (s, some ending)
    | none =>
      match deadline with
      | some time => if time ≤ s.now then .ok (s, none) else .error (some time)
      | none => .error none

def sendTo (child : Nat) (wholeGroup : Bool) (signal : Nat) : Tool Unit :=
  Strand.call fun id s ↦
    let s := s.send child signal
    if !wholeGroup then (s, ())
    else
      let group := ((s.resident? id).map Resident.group).getD id
      let members := s.residents.filter fun (i, r) ↦ r.group = group && i ≠ child &&
        (i ≠ id || signal = 9)
      (members.foldl (fun s (i, _) ↦ s.send i signal) s, ())

def table : OptionTable :=
  { short := "k:s:v", ordered := true, failure := 125
    long := OptionTable.plain
      [("foreground", "foreground"), ("preserve-status", "preserve-status"), ("verbose", "v")] ++
      OptionTable.valued [("kill-after", "k"), ("signal", "s")] }

def duration (text : String) : Tool Nat := do
  match readDuration? text with
  | some n => return n
  | none => failWithHelp 125 ("invalid time interval " ++ cited text)

def main (load : Loader) (args : List String) : Tool Nat := do
  let (found, operands) ← options table args
  let mut later := 0
  let mut signal := 15
  for (key, value) in found do
    if key = "k" then later ← duration (value.getD "")
    if key = "s" then
      match Shell.Signal.find? (value.getD "") with
      | some n => signal := n
      | none => failWithHelp 125 (cited (value.getD "") ++ ": invalid signal")
  match operands with
  | text :: name :: rest =>
    let limit ← duration text
    let foreground := found.has "foreground"
    flush
    unless foreground do
      Strand.call fun id s ↦ (s.modifyResident id ({ · with group := id }), ())
    let state ← get
    let child ← Strand.fork
      ((launch load (name :: rest) ("failed to run command " ++ ·)) state fun _ result ↦
        .ended (.exited (match result with | .ok n | .error n => n)))
    let announce (signal : Nat) : Tool Unit := do
      if found.has "v" then
        complain ("sending signal " ++ Shell.Signal.names.getD signal "" ++ " to command " ++
          cited name)
    let until? (time : Nat) : Tool (Option Nat) :=
      Strand.ask fun _ s ↦ if time = 0 then none else some (s.now + time)
    let mut timedOut := false
    let mut ending ← waitUntil child (← until? limit)
    if ending.isNone then
      timedOut := true
      announce signal
      sendTo child (!foreground) signal
      if signal ≠ 9 && signal ≠ 18 then sendTo child (!foreground) 18
      ending ← waitUntil child (← until? later)
      if ending.isNone then
        announce 9
        sendTo child (!foreground) 9
        ending ← waitUntil child none
    match ending with
    | some (.exited n) =>
      return if timedOut && !found.has "preserve-status" then 124 else n
    | some (.signaled n) =>
      if !timedOut then Strand.finish (.signaled n)
      else return if n = 9 || found.has "preserve-status" then 128 + n else 124
    | none => return 124
  | _ => failWithHelp 125 ""

end Timeout

namespace Kill

def usage : String :=
  "\nUsage:\n kill [options] <pid> [...]\n\nOptions:\n" ++
  " <pid> [...]            send signal to every <pid> listed\n" ++
  " -<signal>, -s, --signal <signal>\n" ++
  "                        specify the <signal> to be sent\n" ++
  " -q, --queue <value>    integer value to be sent with the signal\n" ++
  " -l, --list=[<signal>]  list all signal names, or convert one to a name\n" ++
  " -L, --table            list all signal names in a nice table\n\n" ++
  " -h, --help     display this help and exit\n" ++
  " -V, --version  output version information and exit\n\nFor more details see kill(1).\n"

def sendAll (signal : Nat) (targets : List String) : Tool Nat := do
  if targets.isEmpty then
    report usage
    return 1
  let mut status := 0
  for target in targets do
    match target.toNat? with
    | none =>
      complain ("failed to parse argument: '" ++ target ++ "'")
      return 1
    | some id =>
      let reached ← Strand.call fun _ s ↦
        if (s.resident? id).isSome then (s.send id signal, true) else (s, false)
      unless reached do
        complain ("(" ++ toString id ++ "): No such process")
        status := 1
  return status

def main (args : List String) : Tool Nat := do
  match args with
  | ["-l"] | ["--list"] =>
    sayLine (" ".intercalate (((Shell.Signal.names.drop 1).take 16)))
    sayLine (" ".intercalate (((Shell.Signal.names.drop 17).take 15)))
    return 0
  | ["-l", text] =>
    match Shell.Signal.find? text with
    | some n =>
      sayLine (if text.toList.all Char.isDigit then Shell.Signal.names.getD n "" else toString n)
      return 0
    | none => complain ("unknown signal name " ++ text); return 0
  | "-s" :: text :: targets | "--signal" :: text :: targets =>
    match Shell.Signal.find? text with
    | some n => sendAll n targets
    | none =>
      complain ("(" ++ targets.headD "" ++ "): Invalid argument")
      return 1
  | "--" :: targets => sendAll 15 targets
  | first :: targets =>
    match first.toList with
    | '-' :: c :: cs =>
      match Shell.Signal.find? (String.ofList (c :: cs)) with
      | some n => sendAll n targets
      | none =>
        complain ("invalid argument " ++ c.toString)
        report usage
        return 1
    | _ => sendAll 15 args
  | [] => sendAll 15 []

end Kill

end RegisterLang.Tool
