import RegisterLang.Host.System.Call
import RegisterLang.Host.Text.Octet

namespace RegisterLang

abbrev Executable := List String → List (String × String) → Task

/-- Lets a process go on with the program in a file: what the process does from then on, or why that
cannot be done. -/
abbrev Loader :=
  String → List String → List (String × String) → Nat → System → Except SystemFault (System × Task)

namespace Loader

def headSize : Nat := 256

def isBlank (c : Char) : Bool := c = ' ' || c = '\t'

/-- The interpreter that the first line of a script names. -/
def interpreter? (bytes : ByteArray) : Option (String × List String) :=
  match (Octet.ofBytes (bytes.extract 0 headSize)).toList with
  | '#' :: '!' :: head =>
    let line := head.takeWhile fun c ↦ c ≠ '\n' && c ≠ '\x00'
    let isWhole := line.length < head.length || bytes.size < headSize
    let name := (line.dropWhile isBlank).takeWhile (!isBlank ·)
    let shown := if isWhole then line else line.dropLast
    let argument := ((shown.dropWhile isBlank).dropWhile (!isBlank ·)).dropWhile isBlank
    -- At the end of the file, blanks belong to the argument.
    let argument := if line.length = head.length && isWhole then argument
      else (argument.reverse.dropWhile isBlank).reverse
    if name.isEmpty || (!isWhole && name.length = (line.dropWhile isBlank).length) then none
    else
      some (String.ofList name, if argument.isEmpty then [] else [String.ofList argument])
  | _ => none

def chainLimit : Nat := 6

def resolve (s : System) (id : Nat) :
    Nat → String → List String → Except SystemFault (String × List String)
  | 0, _, _ => .error .tooManyLinks
  | n + 1, path, arguments => do
    let (_, node, _) ← s.target id (Octet.toText path)
    match node.content with
    | .file bytes =>
      if !node.allows .execute then .error .notPermitted
      else
        match Node.program? bytes with
        | some name => .ok (name, arguments)
        | none =>
          match interpreter? bytes with
          | some (name, extra) => resolve s id n name (name :: extra ++ path :: arguments.drop 1)
          | none => .error .notExecutable
    | _ => .error .notPermitted

def argumentLimit : Nat := 131073

def totalLimit : Nat := 2097152

def fits (arguments : List String) (environment : List (String × String)) : Bool :=
  let sizes := arguments.map (fun a ↦ a.length + 1) ++
    environment.map fun (name, value) ↦ name.length + value.length + 2
  sizes.all (· < argumentLimit) && sizes.foldl (fun n size ↦ n + size + 8) 0 ≤ totalLimit

def ofPrograms (programs : String → Option Executable) : Loader :=
  fun path arguments environment id s ↦ do
    let (name, arguments) ← resolve s id chainLimit path arguments
    if !fits arguments environment then .error .argumentsTooLong
    else
      match programs name with
      | none => .error .notExecutable
      | some program =>
        let s := s.modifyResident id fun r ↦
          { r with
            descriptors := r.descriptors.filter (!·.transient), caught := []
            clock := max r.clock s.now + System.loadTime }
        .ok (s.stir, program arguments environment)

end Loader

namespace Strand

variable {σ ε : Type}

def exec (load : Loader) (path : String) (arguments : List String)
    (environment : List (String × String)) : Strand σ ε SystemFault := fun state k ↦
  .step fun id s ↦
    match load path arguments environment id s with
    | .ok (s, task) => .go s task
    | .error fault => .go s (k state (.ok fault))

def execScript (load : Loader) (path : String) (arguments : List String)
    (environment : List (String × String)) : Strand σ ε SystemFault := do
  match ← exec load path arguments environment with
  | .notExecutable =>
    exec load "/bin/sh" ("/bin/sh" :: path :: arguments.drop 1) environment
  | fault => return fault

def candidates (directories : List String) (name : String) : List String :=
  if name.toList.contains '/' then [name]
  else directories.map fun d ↦ if d.isEmpty then name else d ++ "/" ++ name

def standardPath : List String := ["/bin", "/usr/bin"]

def execFirst (load : Loader) (arguments : List String) (environment : List (String × String)) :
    List String → SystemFault → Strand σ ε SystemFault
  | [], reason => return reason
  | path :: rest, reason => do
    match ← execScript load path arguments environment with
    | .noSuchFile | .notDirectory => execFirst load arguments environment rest reason
    | .notPermitted => execFirst load arguments environment rest .notPermitted
    | fault => return fault

def execNamed (load : Loader) (arguments : List String) (environment : List (String × String)) :
    Strand σ ε SystemFault :=
  let name := arguments.headD ""
  let directories := match environment.lookup "PATH" with
    | some path => path.splitOn ":"
    | none => standardPath
  if name.isEmpty then return .noSuchFile
  else execFirst load arguments environment (candidates directories name) .noSuchFile

end Strand

end RegisterLang
