import RegisterLang.Host.Tool.Shuffle

namespace RegisterLang.Tool.Temporary

def letters : List Char := "abcdefghijklmnopqrstuvwxyzABCDEFGHIJKLMNOPQRSTUVWXYZ0123456789".toList

def pick : Nat → Nat → List Char
  | 0, _ => []
  | n + 1, seed =>
    let seed := Shuffle.next seed
    letters.getD (Shuffle.below letters.length seed) 'a' :: pick n seed

/-- A name with a number of letters to be chosen. -/
structure Template where
  head : String
  count : Nat
  tail : String

def split (text : String) : Template :=
  let reversed := text.toList.reverse
  let tail := reversed.takeWhile (· ≠ 'X')
  let rest := reversed.drop tail.length
  let group := rest.takeWhile (· = 'X')
  { head := String.ofList (rest.drop group.length).reverse, count := group.length
    tail := String.ofList tail.reverse }

def leastCount : Nat := 3

def table : OptionTable :=
  { short := "dp:qtuV"
    long := OptionTable.plain [("directory", "d"), ("quiet", "q"), ("dry-run", "u")] ++
      OptionTable.valued [("suffix", "suffix")] ++
      [{ name := "tmpdir", key := "p", need := .maybe }] }

def make (directory dryRun : Bool) (template : Template) :
    Nat → Nat → Tool (Except SystemFault String)
  | 0, _ => return .error .fileExists
  | n + 1, seed => do
    let name := template.head ++ String.ofList (pick template.count seed) ++ template.tail
    let path := Octet.toText name
    let result : Except SystemFault Unit ←
      if dryRun then
        match ← look name false with
        | .ok _ => pure (.error .fileExists)
        | .error fault => pure (if fault = .noSuchFile then .ok () else .error fault)
      else if directory then Strand.changeDisk (·.makeDirectory path 448)
      else
        match ← Strand.openAt path
          { write := true, create := true, fresh := true, mode := 384 } with
        | .ok descriptor =>
          Strand.closeAt descriptor
          pure (.ok ())
        | .error fault => pure (.error fault)
    match result with
    | .ok () => return .ok name
    | .error fault =>
      if fault = .fileExists then make directory dryRun template n (seed + 1)
      else return .error fault

def main (args : List String) : Tool Nat := do
  let (found, operands) ← options table args
  if found.has "V" then return 0
  let text ← match operands with
    | [] => pure "tmp.XXXXXXXXXX"
    | [text] => pure text
    | _ => failWithHelp 1 "too many templates"
  let suffix := found.value? "suffix"
  let whole := text ++ suffix.getD ""
  let template : Template ← match suffix with
    | none => pure (split text)
    | some suffix =>
      if text.toList.getLast? ≠ some 'X' then
        fail 1 ("with --suffix, template " ++ cited text ++ " must end in X")
      let t := split text
      pure { t with tail := suffix }
  if template.tail.toList.contains '/' then
    fail 1 ("invalid suffix " ++ cited template.tail ++ ", contains directory separator")
  if template.count < leastCount then fail 1 ("too few X's in template " ++ cited whole)
  let fromEnvironment : Tool String := do
    match ← setting? "TMPDIR" with
    | some path => return if path.isEmpty then "/tmp" else path
    | none => return "/tmp"
  let inDirectory := operands.isEmpty || found.has "p" || found.has "t"
  let head ← if !inDirectory then pure "" else do
    if found.has "t" then
      if text.toList.contains '/' then
        fail 1 ("invalid template, " ++ cited text ++ ", contains directory separator")
    else if text.startsWith "/" then
      fail 1 ("invalid template, " ++ cited text ++ "; with --tmpdir, it may not be absolute")
    let given := found.value? "p"
    let path ← match given, found.has "t" with
      | some path, false => if path.isEmpty then fromEnvironment else pure path
      | some path, true =>
        match ← setting? "TMPDIR" with
        | some own => pure (if own.isEmpty then path else own)
        | none => pure path
      | none, _ => fromEnvironment
    pure (below path "")
  let seed : Nat ← Strand.ask fun id s ↦ s.disk.now + s.now + id
  match ← make (found.has "d") (found.has "u") { template with head := head ++ template.head } 1000
    seed with
  | .ok name =>
    sayLine name
    return 0
  | .error fault =>
    unless found.has "q" do
      complain ("failed to create " ++ (if found.has "d" then "directory" else "file") ++
        " via template " ++ cited (head ++ whole) ++ ": " ++ fault.describe)
    return 1

end RegisterLang.Tool.Temporary
