import RegisterLang.Host.Shell.Eval

namespace RegisterLang.Shell

def depth : Nat := 20000

/-- What the arguments of a shell ask for. -/
structure Invocation where
  options : List Char := []
  fromText : Bool := false
  operands : List String := []
  listing : Option Bool := none

namespace Invocation

def readLetters (on : Bool) (next : Option String) :
    List Char → Invocation → Except String (Invocation × Bool)
  | [], v => .ok (v, false)
  | c :: cs, v =>
    let set (v : Invocation) (c : Char) : Invocation :=
      let others := v.options.filter (· ≠ c)
      { v with options := if on then c :: others else others }
    if c = 'c' && on then readLetters on next cs { v with fromText := true }
    else if c = 'l' && on then readLetters on next cs v
    else if c = 'o' then
      match next with
      | none => readLetters on none cs { v with listing := some on }
      | some name =>
        match Builtin.optionNames.lookup name with
        | none => .error ("Illegal option " ++ (if on then "-o " else "+o ") ++ name)
        | some letter => do
          let (v, _) ← readLetters on none cs (letter.elim v (set v))
          return (v, true)
    else if Builtin.isOption c then readLetters on next cs (set v c)
    else .error ("Illegal option " ++ (if on then "-" else "+") ++ c.toString)

def read : List String → Invocation → Except String Invocation
  | [], v => .ok v
  | arg :: rest, v =>
    match arg.toList with
    | ['-'] | ['-', '-'] => .ok { v with operands := rest }
    | sign :: cs =>
      if sign = '-' || sign = '+' then do
        let (v, taken) ← readLetters (sign = '-') rest.head? cs v
        match taken, rest with
        | true, _ :: rest => read rest v
        | _, rest => read rest v
      else .ok { v with operands := arg :: rest }
    | [] => .ok { v with operands := arg :: rest }

end Invocation

def isVariableName (name : String) : Bool :=
  match name.toList with
  | c :: cs => (c.isAlpha || c = '_') && cs.all fun c ↦ c.isAlphanum || c = '_'
  | [] => false

def firstProcess (name : String) (arguments : List String) (options : List Char)
    (environment : List (String × String)) : Process :=
  let inherited : List Variable := environment.filterMap fun (name, value) ↦
    if isVariableName name then some { name, value := some value, exported := true } else none
  let standard : List Variable :=
    [{ name := "PATH", value := some (":".intercalate usualPath) },
      { name := "PS1", value := some "# " }, { name := "PS2", value := some "> " },
      { name := "PS4", value := some "+ " }]
  let own : List Variable :=
    [{ name := "IFS", value := some " \t\n" }, { name := "OPTIND", value := some "1" }]
  let p : Process := { name, arguments, options }
  let p := standard.foldl Process.putVariable p
  let p := inherited.foldl Process.putVariable p
  own.foldl Process.putVariable p

section

variable (load : Loader)

def orient : Run Unit := do
  let (id, parent, deaf) ← Strand.ask fun id s ↦
    match s.resident? id with
    | some r => (id, r.parent, r.ignored)
    | none => (id, 0, [])
  modifyProcess fun p ↦
    { p with shell := id, parent, deaf }.putVariable
      { name := "PPID", value := some (toString parent) }
  let here ← Builtin.physicalPath
  let d ← disk
  let given := ((← process).value? "PWD").getD ""
  let place (path : String) : Option Place := (d.look (Octet.toText path)).toOption.map (·.1)
  let location := if Disk.isAbsolute given && place given = place "." then given else here
  modifyProcess fun p ↦
    { p with location }.putVariable { name := "PWD", value := some location, exported := true }

def runFile (path : String) : Run Unit := do
  match ← Strand.openAt (Octet.toText path) { read := true } with
  | .error fault =>
    complain ((← process).name ++ ": 0: " ++ openComplaint false path fault)
    throw (.exit 2)
  | .ok number =>
    let bytes := (← Strand.readAll number).toOption.getD .empty
    Strand.closeAt number
    modifyProcess ({ · with name := path })
    runText (eval load depth) (Octet.ofBytes bytes)

def runInput : Run Unit := do
  let bytes := (← Strand.readAll 0).toOption.getD .empty
  runText (eval load depth) (Octet.ofBytes bytes)

def runInvocation (name : String) (v : Invocation) : Run Unit := do
  if v.fromText && v.operands.isEmpty then
    complain (name ++ ": 0: -c requires an argument")
    throw (.exit 2)
  if let some on := v.listing then Builtin.listOptions (!on)
  orient
  match v.fromText, v.operands with
  | true, text :: rest =>
    modifyProcess ({ · with name := rest.headD name, arguments := rest.tail })
    runText (eval load depth) text
    if v.options.contains 's' then runInput load
  | _, operands =>
    if v.options.contains 's' || operands.isEmpty then
      modifyProcess fun p ↦ { p with
        arguments := operands, options := 's' :: p.options.filter (· ≠ 's') }
      runInput load
    else
      modifyProcess ({ · with arguments := operands.tail })
      runFile load (operands.headD "")

/-- The shell as a program that others can start. -/
def program : Executable := fun args environment ↦
  let name := args.headD "sh"
  match Invocation.read args.tail {} with
  | .error message =>
    taskOf (eval load depth) (firstProcess name [] [] environment) do
      complain (name ++ ": 0: " ++ message)
      throw (.exit 2)
  | .ok v =>
    taskOf (eval load depth) (firstProcess name [] v.options environment)
      (runInvocation load name v)

end

end RegisterLang.Shell
