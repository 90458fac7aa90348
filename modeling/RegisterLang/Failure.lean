import RegisterLang.Bytecode.Assembler
import RegisterLang.Grammar.Drive
import RegisterLang.Text.Escape

namespace RegisterLang

inductive RuntimeFault where
  | divisionByZero
  | stackUnderflow
  | stepLimit (steps : Nat)
  deriving DecidableEq, Repr

inductive SystemFault where
  | noSuchFile
  | notPermitted
  | fileExists
  | notDirectory
  | isDirectory
  | notEmpty
  | nameTooLong
  | tooManyLinks
  | notOwner
  | badDescriptor
  | brokenPipe
  | invalidArgument
  | illegalSeek
  | noSpace
  | noDevice
  | busy
  | interrupted
  | noProcess
  | notExecutable
  | argumentsTooLong
  | nulInPath
  | nulInCommand
  | invalidText
  | other (text : String)
  deriving DecidableEq, Repr

inductive InputFault where
  | notGiven
  | wrongName (path : String)
  | unreadable (path : String) (fault : SystemFault)
  | other (text : String)
  deriving DecidableEq, Repr

/-- Why a command of the program ends with an error; wording and exit codes come only with `message`
and `exitCode`. A missing status stands for a signal. -/
inductive Failure where
  | source (error : SourceError)
  | assembly (fault : AssemblyFault)
  | runtime (fault : RuntimeFault)
  | build (command : String) (status : Option Int)
  | run (command : String) (status : Option Int)
  | input (fault : InputFault)
  | usage (text : String)
  | system (fault : SystemFault)
  deriving DecidableEq, Repr

namespace LexicalError

def message (e : LexicalError) : String :=
  match e.fault with
  | .illegalCharacter c => "illegal character \"" ++ Text.escapeAscii c ++ "\""
  | .illegalOperator text => "illegal operator \"" ++ text ++ "\""
  | .unterminatedComment => "unterminated comment, expected \"\x7d\" before end of input"
  | .sourceTooLarge bytes =>
    "source of " ++ toString bytes ++ " bytes exceeds the " ++ toString sourceLimit ++
      " byte limit"

end LexicalError

namespace Mismatch

def message (e : Mismatch) : String :=
  match e.found with
  | some token =>
    "expecting `" ++ e.expected.describe ++ "` but received `" ++ token.text ++ "`"
  | none => "expecting `" ++ e.expected.describe ++ "` but reached end of input"

end Mismatch

namespace SourceError

def message : SourceError → String
  | lexical error => "lexical error: " ++ error.message
  | mismatch error => "syntax error: " ++ error.message
  | nesting limit _ => "syntax error: nesting deeper than " ++ toString limit ++ " levels"

def span : SourceError → Span
  | lexical error => error.span
  | mismatch error => error.span
  | nesting _ span => span

end SourceError

namespace Imbalance

def message : Imbalance → String
  | otherwiseWithoutBranch => "else without conditional"
  | branchEndWithoutStart => "end of conditional without start"
  | loopEndWithoutStart => "end of loop without start"
  | branchLeftOpen => "conditional left open"
  | loopLeftOpen => "loop left open"

end Imbalance

namespace AssemblyFault

def message : AssemblyFault → String
  | integerOverflow text => "integer literal " ++ text ++ " is out of range"
  | exitOutsideLoop => "BREAK outside of a LOOP"
  | unbalanced imbalance => "unbalanced block: " ++ imbalance.message

end AssemblyFault

namespace RuntimeFault

def message : RuntimeFault → String
  | divisionByZero => "division by zero"
  | stackUnderflow => "operand stack underflow"
  | stepLimit steps => "program did not halt within " ++ toString steps ++ " steps"

end RuntimeFault

namespace SystemFault

def describe : SystemFault → String
  | noSuchFile => "No such file or directory"
  | notPermitted => "Permission denied"
  | fileExists => "File exists"
  | notDirectory => "Not a directory"
  | isDirectory => "Is a directory"
  | notEmpty => "Directory not empty"
  | nameTooLong => "File name too long"
  | tooManyLinks => "Too many levels of symbolic links"
  | notOwner => "Operation not permitted"
  | badDescriptor => "Bad file descriptor"
  | brokenPipe => "Broken pipe"
  | invalidArgument => "Invalid argument"
  | illegalSeek => "Illegal seek"
  | noSpace => "No space left on device"
  | noDevice => "No such device or address"
  | busy => "Device or resource busy"
  | interrupted => "Interrupted system call"
  | noProcess => "No such process"
  | notExecutable => "Exec format error"
  | argumentsTooLong => "Argument list too long"
  | nulInPath => "file name contained an unexpected NUL byte"
  | nulInCommand => "nul byte found in provided data"
  | invalidText => "stream did not contain valid UTF-8"
  | other text => text

def number? : SystemFault → Option Nat
  | notOwner => some 1
  | noSuchFile => some 2
  | noProcess => some 3
  | interrupted => some 4
  | noDevice => some 6
  | argumentsTooLong => some 7
  | notExecutable => some 8
  | badDescriptor => some 9
  | notPermitted => some 13
  | busy => some 16
  | fileExists => some 17
  | notDirectory => some 20
  | isDirectory => some 21
  | invalidArgument => some 22
  | noSpace => some 28
  | illegalSeek => some 29
  | brokenPipe => some 32
  | nameTooLong => some 36
  | notEmpty => some 39
  | tooManyLinks => some 40
  | _ => none

def message (f : SystemFault) : String :=
  match f.number? with
  | some n => f.describe ++ " (os error " ++ toString n ++ ")"
  | none => f.describe

end SystemFault

namespace InputFault

def message : InputFault → String
  | notGiven => "please provide a valid .bitsy file for compilation; run -h for more info"
  | wrongName path => "please provide a valid .bitsy file, \"" ++ path ++ "\" is not one"
  | unreadable path fault =>
    "path to bitsy code was not valid (" ++ path ++ ": " ++ fault.message ++ ")"
  | other text => text

end InputFault

namespace Failure

def endingText : Option Int → String
  | some code => "exited with status " ++ toString code
  | none => "was terminated by a signal"

def message : Failure → String
  | source error => error.message
  | assembly fault => "code generation error: " ++ fault.message
  | runtime fault => "runtime error: " ++ fault.message
  | build command status => "build command `" ++ command ++ "` " ++ endingText status
  | run command status => "program `" ++ command ++ "` " ++ endingText status
  | input fault => fault.message
  | usage text => text
  | system fault => fault.message

/-- Exit codes after the convention of `sysexits`. -/
def exitCode : Failure → Nat
  | usage _ => 64
  | source _ | assembly _ => 65
  | input _ => 66
  | runtime _ | build _ _ | run _ _ => 70
  | system _ => 74

/-- The place in the source text that is to blame, if there is one. -/
def span? : Failure → Option Span
  | source error => some error.span
  | _ => none

/-- Carets under the part of the span that lies on its first line, at least one. -/
def caretCount? (span line : Span) (text : List Char) : Option Nat :=
  let visible := min span.size (line.stop - span.index)
  (Span.fragment? ⟨span.index, visible⟩ text).map fun cs ↦ max cs.length 1

/-- The quoted source line with its number and carets under the span. -/
def quote? (span : Span) (text : List Char) : Option String := do
  let (line, column) ← span.lineColumn? text
  let (quoted, place) ← span.surroundingLine? text
  let width ← caretCount? span place text
  let number := toString line
  let gutter := Text.repeated number.length ' '
  return gutter ++ "--> " ++ number ++ ":" ++ toString column ++ "\n" ++
    gutter ++ " |\n" ++
    number ++ " | " ++ String.ofList quoted ++ "\n" ++
    gutter ++ " | " ++ Text.repeated (column - 1) ' ' ++ Text.repeated width '^' ++ "\n"

/-- The message with the place it speaks of; `none` if that place is not in the text. -/
def report? (f : Failure) (text : List Char) : Option String :=
  let first := "error: " ++ f.message ++ "\n"
  match f.span? with
  | none => some first
  | some span => (quote? span text).map (first ++ ·)

end Failure

end RegisterLang
