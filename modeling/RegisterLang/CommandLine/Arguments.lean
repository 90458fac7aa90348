import RegisterLang.Text.Decimal

namespace RegisterLang.CommandLine

/-- What a command line can name. `file` stands for the argument without a dash. -/
inductive Parameter where
  | version
  | help
  | file
  | readConsole
  | output
  | emitConsole
  | runAndDelete
  | keepIntermediate
  | target
  | interpret
  | stepLimit
  | tokens
  | listing
  deriving DecidableEq, Repr

/-- Why a command line is not carried out. Asking for help or the version is one reason. -/
inductive Refusal where
  | unknownArgument
  | invalidValue
  | invalidNumber
  | conflict
  | missingArgument
  | unexpectedValue
  | helpWanted
  | versionWanted
  deriving DecidableEq, Repr

namespace Parameter

def takesValue : Parameter → Bool
  | file | output | target | stepLimit => true
  | _ => false

def short? : Char → Option Parameter
  | 'v' => some version
  | 'h' => some help
  | 'c' => some readConsole
  | 'o' => some output
  | 'e' => some emitConsole
  | 'r' => some runAndDelete
  | 'i' => some keepIntermediate
  | 't' => some target
  | _ => none

def long? : String → Option Parameter
  | "version" => some version
  | "help" => some help
  | "read-cli" => some readConsole
  | "output" => some output
  | "emit-cli" => some emitConsole
  | "run-delete" => some runAndDelete
  | "retain-intermediate" => some keepIntermediate
  | "target" => some target
  | "interpret" => some interpret
  | "step-limit" => some stepLimit
  | "tokens" => some tokens
  | "listing" => some listing
  | _ => none

def targetNames : List String := ["rust", "swift"]

def checkValue (p : Parameter) (value : String) : Except Refusal Unit :=
  match p with
  | file => if value.isEmpty then .error .invalidValue else .ok ()
  | target => if targetNames.contains value then .ok () else .error .invalidValue
  | stepLimit =>
    if (Decimal.readCount? value.toList).isSome then .ok () else .error .invalidNumber
  | _ => .ok ()

def excludes (p q : Parameter) : Bool :=
  [(interpret, emitConsole), (interpret, tokens), (interpret, listing), (tokens, listing)].any
    fun pair ↦ pair = (p, q) || pair = (q, p)

end Parameter

open Parameter

/-- What has been read: the parameters given, each with its value, and the one that waits for its
value to be taken in. -/
structure Reading where
  given : List (Parameter × String) := []
  waiting : Option (Parameter × Option String) := none

namespace Reading

def has (r : Reading) (p : Parameter) : Bool := r.given.any (·.1 = p)

def value? (r : Reading) (p : Parameter) : Option String := r.given.lookup p

def accept (r : Reading) (p : Parameter) (value : Option String) : Except Refusal Reading :=
  match p with
  | .help => .error .helpWanted
  | .version => .error .versionWanted
  | _ =>
    if p.takesValue && value.isNone then .error .invalidValue
    else if r.has p then .error .conflict
    else do
      p.checkValue (value.getD "")
      return { r with given := r.given ++ [(p, value.getD "")] }

def settle (r : Reading) : Except Refusal Reading :=
  match r.waiting with
  | none => .ok r
  | some (p, value) => { r with waiting := none }.accept p value

def take (r : Reading) (p : Parameter) (value : Option String) : Except Refusal Reading := do
  (← r.settle).accept p value

def await (r : Reading) (p : Parameter) (value : Option String) : Except Refusal Reading := do
  return { ← r.settle with waiting := some (p, value) }

/-- An option with two dashes: its name and the text behind an equals sign. -/
def takeLong (r : Reading) (name : String) (value : Option String) : Except Refusal Reading :=
  match long? name with
  | none => .error .unknownArgument
  | some p =>
    if p.takesValue then
      match value with
      | some _ => r.take p value
      | none => r.await p none
    else if value.isSome then .error .unexpectedValue
    else r.take p none

/-- Options behind one dash. One that takes a value takes all that follows, without a leading
equals sign. -/
def takeShort (r : Reading) : List Char → Except Refusal Reading
  | [] => .ok r
  | c :: rest =>
    match short? c with
    | none => .error .unknownArgument
    | some p =>
      if p.takesValue then
        match rest with
        | [] => r.await p none
        | '=' :: value => r.take p (some (String.ofList value))
        | value => r.take p (some (String.ofList value))
      else do takeShort (← r.take p none) rest

def takePlain (r : Reading) (text : String) : Except Refusal Reading :=
  let named := r.has .file || r.waiting.any (·.1 = .file)
  if named then .error .unknownArgument else r.await .file (some text)

def splitValue (text : List Char) : String × Option String :=
  match text.dropWhile (· ≠ '=') with
  | [] => (String.ofList text, none)
  | _ :: value => (String.ofList (text.takeWhile (· ≠ '=')), some (String.ofList value))

/-- Reads the arguments one after the other. Two dashes alone end the options. The value of an
option that does not stand in the same argument is looked at only when the next option is taken, or
at the end. -/
def readAll (r : Reading) : List String → Except Refusal Reading
  | [] => r.settle
  | arg :: args =>
    match arg.toList with
    | ['-', '-'] => do (← args.foldlM takePlain r).settle
    | '-' :: '-' :: text => do
      let (name, value) := splitValue text
      readAll (← r.takeLong name value) args
    | '-' :: c :: rest => do readAll (← r.takeShort (c :: rest)) args
    | _ =>
      match r.waiting with
      | some (p, none) => readAll { r with waiting := some (p, some arg) } args
      | _ => do readAll (← r.takePlain arg) args

/-- Checks the parameters against each other. A limit on steps asks for the interpreter, unless
the interpreter is excluded by what was given. -/
def check (r : Reading) : Except Refusal Unit :=
  let names := r.given.map (·.1)
  if names.any fun p ↦ names.any p.excludes then .error .conflict
  else if r.has .stepLimit && !r.has .interpret && !names.any (excludes .interpret) then
    .error .missingArgument
  else .ok ()

end Reading

/-- What makes a reading of the arguments, or refuses them. -/
abbrev Reader := List String → Except Refusal Reading

def read : Reader := fun args ↦ do
  let r ← ({} : Reading).readAll args
  r.check
  return r

end RegisterLang.CommandLine
