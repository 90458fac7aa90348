import RegisterLang.Host.Tool.Extent
import RegisterLang.Host.Tool.Shuffle

namespace RegisterLang.Tool.Overwrite

def table : OptionTable :=
  { short := "fn:s:uvxz"
    long := OptionTable.plain
      [("force", "f"), ("verbose", "v"), ("exact", "x"), ("zero", "z")] ++
      OptionTable.valued
        [("iterations", "n"), ("size", "s"), ("random-source", "random-source")] ++
      [{ name := "remove", key := "u", need := .maybe }] }

structure Request where
  passes : Nat := 3
  size : Option Nat := none
  exact : Bool := false
  force : Bool := false
  remove : Bool := false
  verbose : Bool := false
  zero : Bool := false

def Request.extent (r : Request) (length : Nat) : Nat :=
  r.size.getD (if r.exact then length
    else (length + Extent.blockLength - 1) / Extent.blockLength * Extent.blockLength)

def noise (count seed : Nat) : ByteArray :=
  (count.fold (fun _ _ (bytes, seed) ↦
    (bytes.push (Shuffle.below 256 seed).toUInt8, Shuffle.next seed))
    (ByteArray.empty, Shuffle.next seed)).1

def shorterNames (path : String) : List String :=
  let count := (baseName path).length
  let directory := dirName path
  let place (name : String) : String :=
    if path.toList.contains '/' then below directory name else name
  (List.range count).map fun i ↦ place ("".pushn '0' (count - i))

def vanish (r : Request) (path : String) : Tool Unit := do
  if r.verbose then complain (path ++ ": removing")
  let mut present := path
  for name in shorterNames path do
    if !(← occupied name) then
      let renamed ← Strand.changeDisk (·.rename (Octet.toText present) (Octet.toText name))
      if renamed.toOption.isSome then
        if r.verbose then complain (present ++ ": renamed to " ++ name)
        present := name
  let _ ← Strand.changeDisk (·.remove (Octet.toText present))
  if r.verbose then complain (path ++ ": removed")

/-- Writes over the bytes of a file. -/
def pass (path : String) (bytes : ByteArray) : Tool (Except SystemFault Unit) := do
  match ← Strand.openAt (Octet.toText path) { write := true } with
  | .error fault => return .error fault
  | .ok descriptor =>
    let result ← Strand.writeAt descriptor bytes
    Strand.closeAt descriptor
    return result

def file (r : Request) (path : String) : Tool Bool := do
  if r.force then
    let _ ← Strand.changeDisk fun d ↦ do
      let (_, node) ← d.look (Octet.toText path)
      d.setMode (Octet.toText path) (node.mode ||| 128)
  match ← pass path ByteArray.empty with
  | .error fault =>
    complain (path ++ ": failed to open for writing: " ++ fault.describe)
    return false
  | .ok () =>
    let length := ((← look path).toOption.map (Extent.lengthOf ·.2)).getD 0
    let extent := r.extent length
    let total := r.passes + if r.zero then 1 else 0
    for i in List.range total do
      let blank := r.zero && i + 1 = total
      if r.verbose then
        complain (path ++ ": pass " ++ toString (i + 1) ++ "/" ++ toString total ++ " (" ++
          (if blank then "000000" else "random") ++ ")...")
      let seed : Nat ← Strand.ask fun _ s ↦ s.disk.now + s.now
      let bytes := if blank then ⟨(List.replicate extent 0).toArray⟩ else noise extent (seed + i)
      let _ ← pass path bytes
    if r.remove then vanish r path
    return true

def main (args : List String) : Tool Nat := do
  let (found, operands) ← options table args
  if operands.isEmpty then failWithHelp 1 "missing file operand"
  let mut r : Request :=
    { exact := found.has "x", force := found.has "f", remove := found.has "u"
      verbose := found.has "v", zero := found.has "z" }
  for (key, value) in found do
    let text := value.getD ""
    if key = "n" then r := { r with passes := ← amount "" "invalid number of passes" text }
    if key = "s" then
      r := { r with size := some (← amount "cbBkKMGTPEZYRQ0" "invalid file size" text) }
  forAll operands (file r)

end RegisterLang.Tool.Overwrite
