import RegisterLang.Host.Tool.Moment
import RegisterLang.Host.Tool.Record.Machine

namespace RegisterLang.Tool.Record

open Run

/-- What can be assigned to. -/
inductive Place where
  | named (name : Name)
  | element (table : Nat) (key : Key)
  | field (index : Nat)

namespace Place

def load : Place → Run Value
  | named name => Run.load name
  | element table key => withTable table (fun t ↦ t.get key .unset) .unset
  | field i => Run.field i

def store (v : Value) : Place → Run Unit
  | named name => Run.store name v
  | element table key => withTable table (fun t ↦ (t.set key v, ())) ()
  | field i => setField i v

end Place

def stackLimit : Nat := 1006

def nestingLimit : Nat := 50000

def compute (operation : Arithmetic) (x y : Float) : Float :=
  match operation with
  | .add => x + y
  | .subtract => x - y
  | .multiply => x * y
  | .divide => x / y
  | .remainder => remainder x y
  | .power => x.pow y

def notAPlace {α : Type} : Run α := fault "improper target"

/-- The functions that work on values alone. -/
def builtinValue (load : Loader) (name : String) (given : List Value) : Run Value := do
  let x := (given.headD .unset).toNumber
  match name, given with
  | "index", [a, b] => return .ofNat (indexOf (← textOf b).toList 1 (← textOf a).toList)
  | "substr", [a, b] => return .text (excerpt (← textOf a) b.toNumber none)
  | "substr", [a, b, c] => return .text (excerpt (← textOf a) b.toNumber (some c.toNumber))
  | "sprintf", pattern :: values =>
    let pattern ← textOf pattern
    let convert ← settingText "CONVFMT"
    let made :=
      format (Value.toText convert) "sprintf" pattern (pattern.length + 1) 1 pattern.toList
      values []
    match made.complaint with
    | some complaint => fault complaint
    | none => return .text made.text
  | "tolower", [a] => return .text ((← textOf a).map Char.toLower)
  | "toupper", [a] => return .text ((← textOf a).map Char.toUpper)
  | "sin", _ => return .number x.sin
  | "cos", _ => return .number x.cos
  | "atan2", [a, b] => return .number (Float.atan2 a.toNumber b.toNumber)
  | "exp", _ => return .number x.exp
  | "log", _ => return .number x.log
  | "sqrt", _ => return .number x.sqrt
  | "int", _ => return .number (if x < 0 then x.ceil else x.floor)
  | "rand", _ =>
    let next := (← get).random * 6364136223846793005 + 1442695040888963407
    modify ({ · with random := next })
    return .number ((next >>> 11).toFloat / 9007199254740992)
  | "srand", _ =>
    let before := (← get).seed
    let seed ← match given with
      | v :: _ => pure (.number v.toNumber)
      | [] => pure (.ofInt ((← Moment.now) / Moment.billion))
    modify ({ · with seed })
    return before
  | "close", [a] => return .ofInt (← Run.close (← textOf a))
  | "system", [a] => return .ofNat (← Run.system load (← textOf a))
  | "fflush", _ =>
    flushAll
    return .number 0
  | "strftime", _ =>
    let pattern ← match given with
      | v :: _ => textOf v
      | [] => pure "%c"
    let seconds ← match given with
      | _ :: v :: _ => pure (wholePart v.toNumber)
      | _ => pure ((← Moment.now) / Moment.billion)
    return .text (Moment.format (seconds * Moment.billion) pattern)
  | "mktime", [a] => return .ofInt ((secondsOf? (← textOf a)).getD (-1))
  | "systime", _ => return .ofInt ((← Moment.now) / Moment.billion)
  | _, _ => return .unset

def deliver (load : Loader) (place : Option (String × Bool × Bool)) (text : String) : Run Unit :=
  match place with
  | none => lift (say text)
  | some (name, isCommand, append) => write load name isCommand append text

mutual

/-- The value of an expression, `d` being how deep functions have been called. -/
def eval (load : Loader) : Nat → (d : Nat) → Expr → Run Value
  | 0, _, _ => throw (.status 2)
  | n + 1, d, e => do
    match e with
    | .number x => return .number x
    | .text octets => return .text octets
    | .pattern p =>
      join
      return .ofBool (p.matcher.search { text := Octet.toBytes (← get).record }).isSome
    | .named name => Run.load name
    | .element table subscripts =>
      let key ← subscript load n d subscripts
      let id ← tableOf table
      withTable id (fun t ↦ t.get key .unset) .unset
    | .field index => Run.field (← fieldIndex (← eval load n d index))
    | .group e => eval load n d e
    | .assign target operation value =>
      let place ← placeOf load n d target
      let v ← eval load n (d + 1) value
      let v ← match operation with
        | none => pure v
        | some operation =>
          pure (.number (compute operation (← place.load).toNumber v.toNumber))
      place.store v
      return v
    | .step target up before =>
      let place ← placeOf load n d target
      let x := (← place.load).toNumber
      let y := if up then x + 1 else x - 1
      place.store (.number y)
      return .number (if before then y else x)
    | .negative e => return .number (-(← eval load n d e).toNumber)
    | .positive e => return .number (← eval load n d e).toNumber
    | .negation e => return .ofBool !(← eval load n d e).isTrue
    | .arithmetic operation a b =>
      let x ← eval load n d a
      let y ← eval load n (d + 1) b
      return .number (compute operation x.toNumber y.toNumber)
    | .compare how a b =>
      let x ← eval load n d a
      let y ← eval load n (d + 1) b
      if x.isNumeric && y.isNumeric then return .ofBool (compareValues "" how x y)
      else return .ofBool (compareValues (← settingText "CONVFMT") how x y)
    | .concatenate a b =>
      let x ← textOf (← eval load n d a)
      let y ← textOf (← eval load n (d + 1) b)
      return .text (x ++ y)
    | .both a b =>
      if (← eval load n d a).isTrue then return .ofBool (← eval load n d b).isTrue
      else return .ofBool false
    | .either a b =>
      if (← eval load n d a).isTrue then return .ofBool true
      else return .ofBool (← eval load n d b).isTrue
    | .branch condition a b =>
      if (← eval load n d condition).isTrue then eval load n d a else eval load n d b
    | .fits e pattern negated =>
      let text ← textOf (← eval load n d e)
      let m ← matcherOf load n (d + 1) pattern
      return .ofBool ((m.search { text := Octet.toBytes text }).isSome != negated)
    | .within subscripts table =>
      let key ← subscript load n d subscripts
      let id ← tableOf table
      return .ofBool (← withTable id (fun t ↦ t.contains key) false)
    | .call function given =>
      match (← get).functions[function]? with
      | none => return .unset
      | some f =>
        let frame ← handAll load n d given
        call load n d f frame
    | .builtin name given => builtin load n d name given
    | .read source target => read load n d source target

def evalAll (load : Loader) : Nat → (d : Nat) → List Expr → Run (List Value)
  | 0, _, _ => throw (.status 2)
  | _ + 1, _, [] => return []
  | n + 1, d, e :: rest => do
    let v ← eval load n d e
    return v :: (← evalAll load n (d + 1) rest)

def handAll (load : Loader) : Nat → (d : Nat) → List Expr → Run (List Binding)
  | 0, _, _ => throw (.status 2)
  | _ + 1, _, [] => return []
  | n + 1, d, e :: rest => do
    let b ← match e with
      | .named name =>
        if name = .everywhere "NF" then .value <$> Run.load name else handOver name
      | e => .value <$> eval load n d e
    return b :: (← handAll load n (d + 1) rest)

def subscript (load : Loader) : Nat → (d : Nat) → List Expr → Run Key
  | 0, _, _ => throw (.status 2)
  | n + 1, d, subscripts => do
    match ← evalAll load n d subscripts with
    | [v] => return v.toKey (← settingText "CONVFMT")
    | values =>
      let mut texts := #[]
      for v in values do texts := texts.push (← textOf v)
      return .text ((← settingText "SUBSEP").intercalate texts.toList)

def placeOf (load : Loader) : Nat → (d : Nat) → Expr → Run Place
  | 0, _, _ => throw (.status 2)
  | n + 1, d, e => do
    match e with
    | .named name => return .named name
    | .element table subscripts =>
      let key ← subscript load n d subscripts
      return .element (← tableOf table) key
    | .field index => return .field (← fieldIndex (← eval load n d index))
    | .group e => placeOf load n d e
    | _ => notAPlace

def matcherOf (load : Loader) : Nat → (d : Nat) → Expr → Run Regex.Matcher
  | 0, _, _ => throw (.status 2)
  | n + 1, d, e => do
    match e with
    | .pattern p => return p.matcher
    | e => patternOf (← textOf (← eval load n d e))

def call (load : Loader) : Nat → (d : Nat) → Function → List Binding → Run Value
  | 0, _, _, _ => throw (.status 2)
  | n + 1, d, f, given => do
    tick
    let count := f.parameters.length
    if stackLimit < d + count then fatal "program limit exceeded: eval stack size=1024"
    if nestingLimit < (← get).nesting then Strand.finish (.signaled 11)
    let before := (← get).frame
    let frame := (given ++ List.replicate (count - given.length) default).toArray
    modify fun m ↦ { m with frame, nesting := m.nesting + 1 }
    let result ← Strand.attempt (exec load n (d + count) f.body)
    modify fun m ↦ { m with frame := before, nesting := m.nesting - 1 }
    match result with
    | .ok () => return .unset
    | .error (.giveBack v) => return v
    | .error other => throw other

def builtin (load : Loader) : Nat → (d : Nat) → String → List Expr → Run Value
  | 0, _, _, _ => throw (.status 2)
  | n + 1, d, name, given => do
    match name, given with
    | "length", [] => return .ofNat (← textOf (← Run.field 0)).length
    | "length", [.named name] =>
      match ← binding name with
      | .table id => return .ofNat (← withTable id (fun t ↦ (t, t.size)) 0)
      | _ => return .ofNat (← textOf (← Run.load name)).length
    | "length", e :: _ => return .ofNat (← textOf (← eval load n d e)).length
    | "split", e :: .named table :: rest =>
      let text ← textOf (← eval load n d e)
      let separator : Separator ← match rest with
        | [] => separatorOf (← settingText "FS")
        | .pattern p :: _ => pure (.pattern p.matcher)
        | s :: _ => separatorOf (← textOf (← eval load n (d + 1) s))
      let parts := ((partsOf separator text).map Value.ofReading).toArray
      let id ← tableOf table
      withTable id (fun _ ↦ (.ofParts parts, ())) ()
      return .ofNat parts.size
    | "match", [e, pattern] =>
      let text ← textOf (← eval load n d e)
      let m ← matcherOf load n (d + 1) pattern
      let (start, length) : Int × Int := match m.search { text := Octet.toBytes text } with
        | some found => (Int.ofNat found.start + 1, Int.ofNat (found.finish - found.start))
        | none => (0, -1)
      setSetting "RSTART" (.ofInt start)
      setSetting "RLENGTH" (.ofInt length)
      return .ofInt start
    | _, pattern :: replacement :: rest =>
      if name = "sub" || name = "gsub" then
        let m ← matcherOf load n d pattern
        let replacement ← textOf (← eval load n (d + 1) replacement)
        let target := rest.headD (.field (.number 0))
        let place : Option Place ← if Parse.isTarget target
          then some <$> placeOf load n (d + 2) target else pure none
        let text ← textOf (← match place with
          | some place => place.load
          | none => eval load n (d + 2) target)
        let (text, count) := replace m replacement text (name = "gsub")
        if let some place := place then
          if count ≠ 0 then place.store (.text text)
        return .ofNat count
      else builtinValue load name (← evalAll load n d given)
    | _, _ => builtinValue load name (← evalAll load n d given)

def read (load : Loader) : Nat → (d : Nat) → Source → Option Expr → Run Value
  | 0, _, _, _ => throw (.status 2)
  | n + 1, d, source, target => do
    let keep (text : String) : Run Value := do
      match target with
      | none => setRecord text
      | some e => (← placeOf load n d e).store (.ofReading text)
      return .number 1
    let readNamed (name : String) (isCommand : Bool) : Run Value := do
      match ← input? load name isCommand with
      | none => return .number (-1)
      | some i =>
        let (i, result) ← readFromInput i
        keepInput i
        match result with
        | .error reason => fatal ("read error (" ++ reason.describe ++ ")")
        | .ok none => return .number 0
        | .ok (some text) => keep text
    match source with
    | .input =>
      match ← nextOfAll Strand.partLimit with
      | none => return .number 0
      | some text => keep text
    | .file path => readNamed (← textOf (← eval load n d path)) false
    | .command text => readNamed (← textOf (← eval load n d text)) true

def outletOf (load : Loader) : Nat → (d : Nat) → Outlet → Run (Option (String × Bool × Bool))
  | 0, _, _ => throw (.status 2)
  | n + 1, d, o => do
    match o with
    | .output => return none
    | .file path append => return some (← textOf (← eval load n d path), false, append)
    | .command text => return some (← textOf (← eval load n d text), true, false)

def exec (load : Loader) : Nat → (d : Nat) → Statement → Run Unit
  | 0, _, _ => throw (.status 2)
  | n + 1, d, s => do
    tick
    match s with
    | .evaluate e => let _ ← eval load n d e
    | .print items outlet =>
      let values ← if items.isEmpty then pure [← Run.field 0] else evalAll load n d items
      let place ← outletOf load n (d + items.length) outlet
      let pattern ← settingText "OFMT"
      let between ← settingText "OFS"
      let after ← settingText "ORS"
      deliver load place (between.intercalate (values.map (Value.toText pattern)) ++ after)
    | .format items outlet =>
      match ← evalAll load n d items with
      | [] => return
      | first :: values =>
        let place ← outletOf load n (d + items.length) outlet
        let pattern ← textOf first
        let convert ← settingText "CONVFMT"
        let made := format (Value.toText convert) "printf" pattern (pattern.length + 1) 1
          pattern.toList values []
        deliver load place made.text
        if let some complaint := made.complaint then fault complaint
    | .block body => execAll load n d body
    | .branch condition first second =>
      if (← eval load n d condition).isTrue then exec load n d first
      else
        match second with
        | some second => exec load n d second
        | none => return
    | .loop condition body => loop load n d (some condition) none body
    | .loopUntil body condition =>
      unless ← round load n d body do loop load n d (some condition) none body
    | .count start condition next body =>
      if let some start := start then exec load n d start
      loop load n d condition next body
    | .forEach key table body =>
      let id ← tableOf table
      let keys ← withTable id Table.keys []
      each load n d key keys body
    | .delete table subscripts =>
      let key ← subscript load n d subscripts
      let id ← tableOf table
      withTable id (fun t ↦ (t.erase key, ())) ()
    | .clear table => withTable (← tableOf table) (fun _ ↦ ({}, ())) ()
    | .nextRecord => throw .nextRecord
    | .nextFile => throw .nextFile
    | .exit status =>
      if let some e := status then
        let x := (← eval load n d e).toNumber
        modify ({ · with status := (narrow x % 256).toNat })
      throw .exit
    | .giveBack none => throw (.giveBack .unset)
    | .giveBack (some e) => throw (.giveBack (← eval load n d e))
    | .leave => throw .leave
    | .again => throw .again

def execAll (load : Loader) : Nat → (d : Nat) → List Statement → Run Unit
  | 0, _, _ => throw (.status 2)
  | _ + 1, _, [] => return
  | n + 1, d, s :: rest => do
    exec load n d s
    execAll load n d rest

/-- One round of a loop, and whether it has left the loop. -/
def round (load : Loader) : Nat → (d : Nat) → Statement → Run Bool
  | 0, _, _ => throw (.status 2)
  | n + 1, d, body => do
    tick
    match ← Strand.attempt (exec load n d body) with
    | .ok () | .error .again => return false
    | .error .leave => return true
    | .error other => throw other

def loop (load : Loader) : Nat → (d : Nat) → Option Expr → Option Statement → Statement → Run Unit
  | 0, _, _, _, _ => throw (.status 2)
  | n + 1, d, condition, next, body => do
    let holds ← match condition with
      | none => pure true
      | some e => pure (← eval load n d e).isTrue
    if holds then
      unless ← round load n d body do
        if let some next := next then exec load n d next
        loop load n d condition next body

def each (load : Loader) : Nat → (d : Nat) → Expr → List String → Statement → Run Unit
  | 0, _, _, _, _ => throw (.status 2)
  | _ + 1, _, _, [], _ => return
  | n + 1, d, target, key :: keys, body => do
    (← placeOf load n d target).store (.text key)
    unless ← round load n d body do each load n d target keys body

end

def fuel : Nat := Strand.partLimit

def holds (load : Loader) (c : Condition) : Run Bool := do
  match c with
  | .always => return true
  | .holds e => return (← eval load fuel 0 e).isTrue
  | .range number first last =>
    let active := ((← get).active[number]?).getD false
    let inside ← if active then pure true else pure (← eval load fuel 0 first).isTrue
    if inside then
      let ends := (← eval load fuel 0 last).isTrue
      modify fun m ↦ { m with active := m.active.setIfInBounds number (!ends) }
    return inside

def applyRules (load : Loader) : List Rule → Run Unit
  | [] => return
  | r :: rest => do
    if ← holds load r.condition then exec load fuel 0 r.action
    applyRules load rest

def records (load : Loader) (rules : List Rule) : Nat → Run Unit
  | 0 => return
  | n + 1 => do
    Strand.pause
    match ← nextOfAll Strand.partLimit with
    | none => return
    | some text =>
      setRecord text
      match ← Strand.attempt (applyRules load rules) with
      | .ok () | .error .nextRecord => records load rules n
      | .error .nextFile =>
        skipFile
        records load rules n
      | .error other => throw other

/-- Runs the rules: those before the input, for each record, and after it. -/
def runAll (load : Loader) : Run Nat := do
  let p := (← get).program
  let main : Run Unit := do
    execAll load fuel 0 p.start
    unless p.rules.isEmpty && p.finish.isEmpty do records load p.rules Strand.partLimit
  let ended ← match ← Strand.attempt main with
    | .ok () | .error .exit => Strand.attempt (execAll load fuel 0 p.finish)
    | .error other => pure (.error other)
  closeAll
  match ended with
  | .error (.status n) => return n
  | _ => return (← get).status

structure Setup where
  files : List String := []
  settings : List (String × String) := []
  fs : Option String := none
  operands : List String := []

def usage : String :=
  "Usage: mawk [Options] [Program] [file ...]\n\nProgram:\n" ++
  "    The -f option value is the name of a file containing program text.\n" ++
  "    If no -f option is given, a \"--\" ends option processing; the following\n" ++
  "    parameters are the program text.\n\nOptions:\n" ++
  "    -f program-file  Program  text is read from file instead of from the\n" ++
  "                     command-line.  Multiple -f options are accepted.\n" ++
  "    -F value         sets the field separator, FS, to value.\n" ++
  "    -v var=value     assigns value to program variable var.\n" ++
  "    --               unambiguous end of options.\n\n" ++
  "    Implementation-specific options are prefixed with \"-W\".  They can be\n" ++
  "    abbreviated:\n\n" ++
  "    -W version       show version information and exit.\n" ++
  "    -W compat        pre-POSIX 2001.\n" ++
  "    -W dump          show assembler-like listing of program and exit.\n" ++
  "    -W help          show this message and exit.\n" ++
  "    -W interactive   set unbuffered output, line-buffered input.\n" ++
  "    -W exec file     use file as program as well as last option.\n" ++
  "    -W posix         stricter POSIX checking.\n" ++
  "    -W random=number set initial random seed.\n" ++
  "    -W sprintf=number adjust size of sprintf buffer.\n" ++
  "    -W usage         show this message and exit.\n"

def unescaped (text : String) : String :=
  String.ofList (unescape (text.length + 1) text.toList)

def options : List String → Setup → Tool Setup
  | [], s => return s
  | arg :: rest, s => do
    match arg.toList with
    | ['-', '-'] => return { s with operands := rest }
    | '-' :: '-' :: word =>
      if word = "version".toList then
        sayLine "mawk 1.3.4 20240123"
        throw 0
      else if word = "help".toList || word = "usage".toList then
        report usage
        throw 0
      else fail 2 ("not an option: " ++ arg)
    | '-' :: letter :: given =>
      let apply (value : String) (s : Setup) : Tool Setup := do
        match letter with
        | 'f' => return { s with files := s.files ++ [value] }
        | 'F' => return { s with fs := some (unescaped value) }
        | 'v' =>
          match Run.assignment? value with
          | some setting => return { s with settings := s.settings ++ [setting] }
          | none => fail 2 ("improper assignment: -v " ++ value)
        | _ =>
          if value = "version" then
            sayLine "mawk 1.3.4 20240123"
            throw 0
          else if value = "help" || value = "usage" then
            report usage
            throw 0
          else
            unless ["compat", "dump", "interactive", "posix"].contains value do
              complain ("vacuous option: -W \"" ++ value ++ "\"")
            return s
      if letter = 'f' || letter = 'F' || letter = 'v' || letter = 'W' then
        if !given.isEmpty then options rest (← apply (String.ofList given) s)
        else
          match rest with
          | [] => fail 2 ("option " ++ arg ++ " lacks argument")
          | value :: more => options more (← apply value s)
      else fail 2 ("not an option: " ++ arg)
    | _ => return { s with operands := arg :: rest }

def startingNames : List (String × Value) :=
  [("FS", .text " "), ("OFS", .text " "), ("ORS", .text "\n"), ("RS", .text "\n"),
    ("SUBSEP", .text "\x1c"), ("CONVFMT", .text "%.6g"), ("OFMT", .text "%.6g"), ("NR", .number 0),
    ("FNR", .number 0), ("FILENAME", .text ""), ("RSTART", .number 0), ("RLENGTH", .number (-1))]

def programText (s : Setup) : Tool (String × Option String × List String) := do
  match s.files, s.operands with
  | [], [] =>
    report usage
    throw 0
  | [], text :: operands => return (text, none, operands)
  | files, operands =>
    let mut texts := #[]
    for file in files do
      match ← contentsOf file with
      | .ok bytes => texts := texts.push (Octet.ofBytes bytes)
      | .error reason => fail 2 ("cannot open \"" ++ file ++ "\" (" ++ reason.describe ++ ")")
    return ("\n".intercalate texts.toList, files.getLast?, operands)

def main (load : Loader) (args : List String) : Tool Nat := do
  let setup ← options args {}
  let (text, file, operands) ← programText setup
  match parse text with
  | .error complaints =>
    let place := match file with
      | some file => file ++ ": "
      | none => ""
    for c in complaints do
      complain (place ++ (if c.short then "" else "line ") ++ toString c.line ++ ": " ++ c.message)
    return 2
  | .ok program =>
    let tool ← get
    let names := startingNames.map fun (name, v) ↦ (name, Binding.value v)
    let arguments := (tool.name :: operands).zipIdx
    let argv : Table Value := arguments.foldl (fun t (a, i) ↦
      t.set (.number i) (.ofReading a)) {}
    let environ : Table Value := tool.environment.foldl (fun t (name, value) ↦
      t.set (.text name) (.ofReading value)) {}
    let machine : Machine :=
      { tool, program
        functions := Std.HashMap.ofList program.functions
        names := Std.HashMap.ofList (names ++
          [("ARGV", .table 0), ("ENVIRON", .table 1), ("ARGC", .value (.ofNat arguments.length))])
        tables := #[argv, environ]
        active := Array.replicate program.ranges false }
    let whole : Run Nat := do
      for (name, value) in setup.settings do store (.everywhere name) (.ofReading value)
      if let some fs := setup.fs then setSetting "FS" (.text fs)
      runAll load
    fun _ k ↦ whole machine fun m result ↦ k m.tool (match result with
      | .ok n => .ok n
      | .error (.status n) => .error n
      | .error _ => .ok m.status)

end RegisterLang.Tool.Record
