import RegisterLang.Dialect.Basic
import RegisterLang.World.Basic

namespace RegisterLang

/-- Executes a command line; the fault is that of a command that could not be started. It is a
parameter of all that builds and runs, so nothing here depends on what commands do. -/
abbrev Executor := String → World → World × Except SystemFault Ending

namespace World

def write (w : World) (path : String) (bytes : List UInt8) : World × Except SystemFault Unit :=
  match w.disk.write path bytes with
  | .ok disk => ({ w with disk }, .ok ())
  | .error fault => (w, .error fault)

def remove (w : World) (path : String) : World × Except SystemFault Unit :=
  match w.disk.remove path with
  | .ok disk => ({ w with disk }, .ok ())
  | .error fault => (w, .error fault)

end World

/-- Where a program goes and what happens to it and to its text. -/
structure Plan where
  path : String
  keepIntermediate : Bool := false
  runAndDelete : Bool := false

namespace Plan

/-- The command that runs the program. A bare name would be looked up elsewhere. -/
def runCommand (p : Plan) : String :=
  if p.path.toList.contains '/' then p.path else "./" ++ p.path

/-- Runs the program and removes it, whether or not it ran well. -/
def run (p : Plan) (exec : Executor) (w : World) : World × Except Failure Unit :=
  let (w, ending) := exec p.runCommand w
  let (w, removed) := w.remove p.path
  match ending with
  | .error fault => (w, .error (.system fault))
  | .ok ending =>
    if ending.isSuccess then
      match removed with
      | .ok () => (w, .ok ())
      | .error fault => (w, .error (.system fault))
    else (w, .error (.run p.runCommand ending.code?))

/-- Removes the intermediate text, unless it is to be kept. That it cannot be removed, or is gone
already, does no harm: a warning is logged, and the log is no part of a world. -/
def cleanUp (p : Plan) (recipe : Recipe) (w : World) : World :=
  if p.keepIntermediate then w else (w.remove (recipe.intermediatePath p.path)).1

/-- Builds the program from its text, and runs it if that is wanted. -/
def carryOut (p : Plan) (recipe : Recipe) (exec : Executor) (code : String) (w : World) :
    World × Except Failure Unit :=
  match w.write (recipe.intermediatePath p.path) (Utf8.encode code) with
  | (w, .error fault) => (w, .error (.system fault))
  | (w, .ok ()) =>
    let (w, ending) := exec (recipe.buildCommand p.path) w
    let w := p.cleanUp recipe w
    match ending with
    | .error fault => (w, .error (.system fault))
    | .ok ending =>
      if !ending.isSuccess then (w, .error (.build (recipe.buildCommand p.path) ending.code?))
      else if p.runAndDelete then p.run exec w
      else (w, .ok ())

end Plan

end RegisterLang
