import RegisterLang.Build.Plan
import RegisterLang.CommandLine.Settings
import RegisterLang.Dialect.Target
import RegisterLang.Input
import RegisterLang.Machine.Basic
import RegisterLang.Toolchain

namespace RegisterLang.CommandLine

def versionText : String := "bitsy 0.1.0\n"

def helpText : String := Dialect.lines
  [ "Compiler for the Bitsy language",
    "",
    "Usage: bitsy [OPTIONS] [FILE]",
    "",
    "Arguments:",
    "  [FILE]  Bitsy source file, must end in `.bitsy`",
    "",
    "Options:",
    "  -v, --version              Print version",
    "  -c, --read-cli             Read Bitsy code from the command line, terminated by a '.'",
    "  -o, --output <PATH>        Name of the binary output",
    "  -e, --emit-cli             Emit intermediate compilation to the command line",
    "  -r, --run-delete           Immediately run and delete the compiled binary",
    "  -i, --retain-intermediate  Retain the intermediate source after building",
    "  -t, --target <TARGET>      Language of the intermediate source " ++
      "[default: rust] [possible values: rust, swift]",
    "      --interpret            Compile to bytecode and run it in process",
    "      --step-limit <STEPS>   Give up interpreting after this many instructions",
    "      --tokens               Print the token table and exit",
    "      --listing              Print the bytecode listing and exit",
    "  -h, --help                 Print help" ]

namespace Refusal

def message : Refusal → String
  | unknownArgument => "unexpected argument found"
  | invalidValue => "a value is required or is not one of the possible values"
  | invalidNumber => "invalid value: not a number of steps"
  | conflict => "arguments cannot be used together or more than once"
  | missingArgument => "required arguments were not provided"
  | unexpectedValue => "unexpected value for an argument that takes none"
  | helpWanted => helpText
  | versionWanted => versionText

end Refusal

def Language.dialect : Language → Dialect
  | rust => .rust
  | swift => .swift

def blockSize : Nat := 8192

/-- Standard input as the program sees it: what it has taken but not yet used, and the rest, which
is all that other programs get to see. -/
structure Console where
  buffer : List UInt8
  rest : List UInt8

namespace Console

/-- After a number of bytes have been used, whole blocks have been taken. -/
def afterUsing (input : List UInt8) (used : Nat) : Console :=
  let taken := (used + (blockSize - 1)) / blockSize * blockSize
  ⟨(input.take taken).drop used, input.drop taken⟩

end Console

def readSource (origin : Origin) (w : World) : Except Failure String × Console :=
  match origin with
  | .file path =>
    match Input.ofFile w.disk path with
    | .ok source => (.ok source, ⟨[], w.input⟩)
    | .error fault => (.error (.input fault), ⟨[], w.input⟩)
  | .console =>
    let (text, rest) := Input.ofStream w.input
    let console := Console.afterUsing w.input (w.input.length - rest.length)
    match text with
    | .ok text => (.ok (String.ofList text), console)
    | .error fault => (.error (.system fault), console)

def tableHeader : String := " offset:len token        fragment\n"

def tableRow (source : List Char) (t : Token) : String :=
  let fragment := (t.span.fragment? source).getD []
  Text.padLeft 7 ' ' (toString t.span.index) ++ ":" ++
    Text.padRight 3 ' ' (toString t.span.size) ++ " " ++ Text.padRight 12 ' ' t.kind.name ++
      " \"" ++ String.join (fragment.map Text.escapeVisible) ++ "\"\n"

def tokenTable (source : String) : String × Except Failure Unit :=
  let read := Tokens.ofSource source
  match read.tokens, read.error with
  | [], some e => ("", .error (.source (.lexical e)))
  | tokens, error =>
    let table := tableHeader ++ String.join (tokens.map (tableRow source.toList))
    match error with
    | some e => (table, .error (.source (.lexical e)))
    | none => (table, .ok ())

/-- Runs a source text on the machine; `none` if it has not ended when the fuel has. -/
def interpret (source : String) (limit : Option Nat) (fuel : Nat) (input : List UInt8) (w : World) :
    Option (World × Except Failure Unit) :=
  match assemble source with
  | .error failure => some (w, .error failure)
  | .ok program =>
    (Machine.execute program limit fuel { input }).map fun (result, m) ↦
      let w := w.print m.output.text
      match result with
      | .ok () => (w, .ok ())
      | .error fault => (w, .error (.ofMachine fault))

/-- Does what is asked for with a source text. Only a run on the machine takes fuel. -/
def perform (s : Settings) (exec : Executor) (fuel : Nat) (source : String) (console : Console)
    (w : World) : Option (World × Except Failure Unit) :=
  match s.task with
  | .tokens =>
    let (table, result) := tokenTable source
    some (w.print table, result)
  | .listing =>
    match assemble source with
    | .ok program => some (w.print program.listing, .ok ())
    | .error failure => some (w, .error failure)
  | .interpret limit => interpret source limit fuel (console.buffer ++ console.rest) w
  | .display =>
    match renderIn s.language.dialect source with
    | (code, .ok ()) => some (w.print code, .ok ())
    | (code, .error e) => some (w.print code, .error (.source e))
  | .build path keepIntermediate runAndDelete =>
    match renderIn s.language.dialect source with
    | (_, .error e) => some (w, .error (.source e))
    | (code, .ok ()) =>
      some (Plan.carryOut ⟨path, keepIntermediate, runAndDelete⟩ s.language.dialect.recipe exec code
        { w with input := console.rest })

def refuse (failure : Failure) (w : World) : Nat × World :=
  (failure.exitCode, w.printError ("error: " ++ failure.message ++ "\n"))

def report (failure : Failure) (source : String) (w : World) : Nat × World :=
  (failure.exitCode, w.printError ((failure.report? source.toList).getD ""))

/-- Runs the program with its arguments. The result is the exit code and the world it leaves;
`none` if a run on the machine has not ended when the fuel has. Reading the arguments and executing
commands are left to others. -/
def run (reader : Reader) (args : List String) (exec : Executor) (fuel : Nat) (w : World) :
    Option (Nat × World) :=
  match reader args with
  | .error .helpWanted => some (0, w.print helpText)
  | .error .versionWanted => some (0, w.print versionText)
  | .error refusal => some (refuse (.usage refusal.message) w)
  | .ok reading =>
    match reading.settings with
    | .error fault => some (refuse (.input fault) w)
    | .ok settings =>
      match readSource settings.origin w with
      | (.error failure, _) => some (refuse failure w)
      | (.ok source, console) =>
        (perform settings exec fuel source console w).map fun (w, result) ↦
          match result with
          | .ok () => (0, w)
          | .error failure => report failure source w

end RegisterLang.CommandLine
