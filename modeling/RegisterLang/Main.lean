import RegisterLang.CommandLine.Program
import RegisterLang.Host.Shell.Run

namespace RegisterLang.Main

partial def readAll (stream : IO.FS.Stream) (sofar : ByteArray := .empty) : IO ByteArray := do
  let chunk ← stream.read 65536
  if chunk.isEmpty then return sofar else readAll stream (sofar ++ chunk)

def home : Place := ["home", "work"]

def wantsInput (s : CommandLine.Settings) : Bool :=
  match s.origin, s.task with
  | .console, _ | _, .interpret _ | _, .build _ _ true => true
  | _, _ => false

def surroundings (s : CommandLine.Settings) : IO World := do
  let w := World.empty home
  let disk ← match s.origin with
    | .console => pure w.disk
    | .file path =>
      try
        let bytes ← IO.FS.readBinFile path
        pure (w.disk.addFile (home ++ Disk.names path) bytes.toList false)
      catch _ => pure w.disk
  let input ← if wantsInput s then readAll (← IO.getStdin) else pure .empty
  return { w with disk, input := input.toList }

def publish (before after : World) : IO Unit := do
  let old := before.disk.filesBelow home
  for (path, bytes) in after.disk.filesBelow home do
    unless old.contains (path, bytes) do
      IO.FS.writeBinFile path (ByteArray.mk bytes.toArray)

partial def withEnoughFuel {α : Type} (attempt : Nat → Option α) (fuel : Nat := 4096) : IO α :=
  match attempt fuel with
  | some result => return result
  | none => withEnoughFuel attempt (2 * fuel)

end RegisterLang.Main

open RegisterLang in
def main (args : List String) : IO UInt32 := do
  let settings := do
    let reading ← (CommandLine.read args).toOption
    reading.settings.toOption
  let before ← match settings with
    | some s => Main.surroundings s
    | none => pure (World.empty Main.home)
  let run := CommandLine.run CommandLine.read args Shell.exec
  let (code, after) ← Main.withEnoughFuel (run · before)
  let stdout ← IO.getStdout
  stdout.putStr after.output
  stdout.flush
  (← IO.getStderr).write (ByteArray.mk after.errors.toArray)
  Main.publish before after
  return UInt32.ofNat code
