import RegisterLang.Host.System.Schedule
import RegisterLang.Host.Tool.Table

namespace RegisterLang.Shell

def firstId : Nat := 2000

def start (w : World) : System :=
  let pipe (bytes : ByteArray) : Pipe := { bytes, limit := none }
  let resident : Resident :=
    { parent := 0, group := firstId, here := w.disk.here
      descriptors := [⟨0, 0, false⟩, ⟨1, 1, false⟩, ⟨2, 2, false⟩] }
  { disk := w.disk
    pipes := #[{ bytes := ⟨w.input.toArray⟩ }, pipe .empty, pipe .empty]
    files := #[{ channel := .pipe 0, readable := true, writable := false },
      { channel := .pipe 1, readable := false, writable := true },
      { channel := .pipe 2, readable := false, writable := true }]
    residents := [(firstId, resident)]
    nextId := firstId + 1 }

def isOver (s : System) : Bool :=
  (s.resident? firstId).all (·.ending.isSome) && !s.hasWriter 1

def leave (w : World) (s : System) : World :=
  let bytesOf (n : Nat) : List UInt8 := ((s.pipes[n]?).map (·.bytes.toList)).getD []
  { w with
    disk := { s.disk with here := w.disk.here, now := s.disk.now + s.now }
    input := bytesOf 0
    output := w.output ++ String.ofList (Utf8.decodeLossy (bytesOf 1))
    errors := w.errors ++ bytesOf 2 }

def loadFirst (paths : List String) (arguments : List String) (environment : List (String × String))
    (s : System) : Except SystemFault (System × Task) :=
  match paths with
  | [] => .error .noSuchFile
  | path :: rest =>
    match Tool.load path arguments environment firstId s with
    | .error .noSuchFile | .error .notDirectory => loadFirst rest arguments environment s
    | .error .notPermitted =>
      match loadFirst rest arguments environment s with
      | .error .noSuchFile => .error .notPermitted
      | result => result
    | result => result

/-- Runs a command line as `sh -c` does, on a system that holds only what `Tool.load` starts. What
goes to standard output is passed on as text. The theory takes any executor; of this one it knows
how the shell reads a line, not what the programs do. -/
def exec (command : String) (w : World) : World × Except SystemFault Ending :=
  if command.toList.contains '\x00' then (w, .error .nulInCommand)
  else
    let arguments := ["sh", "-c", Octet.ofText command]
    let path := w.searchPath.map Octet.ofText
    let environment := [("PATH", ":".intercalate path)]
    match loadFirst (Strand.candidates path "sh") arguments environment (start w) with
    | .error fault => (w, .error fault)
    | .ok (s, task) =>
      let s := Schedule.run isOver Schedule.stepLimit s [{ id := firstId, task }]
      let ending := ((s.resident? firstId).bind Resident.ending).getD (.signaled 9)
      (leave w s, .ok ending)

end RegisterLang.Shell
