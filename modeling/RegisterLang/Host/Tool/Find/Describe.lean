import RegisterLang.Text.Blank
import RegisterLang.Host.Tool.Find.Basic
import RegisterLang.Host.Tool.Permission

namespace RegisterLang.Tool.Find

def padded (flags : String) (width : Nat) (isNumber : Bool) (text : String) : String :=
  if flags.toList.contains '-' then Text.padRight width ' ' text
  else if isNumber && flags.toList.contains '0' then Text.padLeft width '0' text
  else Text.padLeft width ' ' text

def nanosOf (time : Int) : String := Text.padLeft 9 '0' (toString (time % 1000000000)) ++ "0"

def secondsOf (time : Int) : String := toString (time / 1000000000)

def momentText (time : Int) (letter : Char) : String :=
  match letter with
  | '@' => secondsOf time ++ "." ++ nanosOf time
  | '+' => Moment.format time "%F+%T." ++ nanosOf time
  | 'S' | 'T' | 'X' => Moment.format time ("%" ++ letter.toString) ++ "." ++ nanosOf time
  | 'N' | 'L' | 'E' | 'O' | 'q' => "%" ++ letter.toString
  | _ => Moment.format time ("%" ++ letter.toString)

def fullMoment (time : Int) : String :=
  Moment.format time "%a %b %e %H:%M:%S." ++ nanosOf time ++ Moment.format time " %Y"

def nameWithSlash (path : String) : String :=
  let cs := path.toList.reverse
  let slashes := cs.takeWhile (· = '/')
  let rest := cs.dropWhile (· = '/')
  if rest.isEmpty then if slashes.isEmpty then "" else "/"
  else
    String.ofList (rest.takeWhile (· ≠ '/')).reverse ++ if slashes.isEmpty then "" else "/"

def leading (path : String) : String :=
  if path.toList.contains '/' then
    String.ofList ((path.toList.reverse.dropWhile (· ≠ '/')).drop 1).reverse
  else "."

def relative (v : Visit) : String :=
  let rest := v.path.toList.drop v.start.length
  String.ofList (if rest.head? = some '/' then rest.drop 1 else rest)

def density (node : Node) : String :=
  let size := Listing.sizeOf node
  let space := Listing.kilobytes node * 1024
  if size = 0 then "1"
  else Real.generalDigits space size 6 false 'e'

/-- What a letter shows of a file, and whether it is a number. -/
def fieldText (d : Disk) (v : Visit) (letter : Char) : String × Bool :=
  match letter with
  | 'a' => (fullMoment v.node.accessed, false)
  | 'b' => (toString (2 * Listing.kilobytes v.node), false)
  | 'c' | 't' => (fullMoment v.node.modified, false)
  | 'd' => (toString v.depth, true)
  | 'D' => ("2049", false)
  | 'f' => (nameWithSlash v.path, false)
  | 'F' => ("overlay", false)
  | 'g' | 'u' => (Listing.ownerName false v.node, false)
  | 'G' | 'U' => (Listing.ownerName true v.node, false)
  | 'h' => (leading v.path, false)
  | 'H' => (v.start, false)
  | 'i' => (toString (Listing.numberOf (d.ref? v.place)), false)
  | 'k' => (toString (Listing.kilobytes v.node), false)
  | 'l' => ((linkText v.node).getD "", false)
  | 'm' => (octalDigits 1 (v.node.mode % 4096), true)
  | 'M' =>
    let letter := Listing.kindLetter v.node
    (letter ++ modeLetters v.node.mode, false)
  | 'n' => (toString (d.nameCount v.place v.node), false)
  | 'p' => (v.path, false)
  | 'P' => (relative v, false)
  | 's' => (toString (Listing.sizeOf v.node), false)
  | 'S' => (density v.node, true)
  | 'y' => ((letterOf v.node).toString, false)
  | 'Y' =>
    (if v.node.isLink then
      match v.other with
      | .ok node => (letterOf node).toString
      | .error .tooManyLinks => "L"
      | .error .noSuchFile | .error .notDirectory => "N"
      | .error _ => "?"
    else (letterOf v.node).toString, false)
  | _ => ("", false)

def fieldLetters : List Char := "abcdDfFgGhHiklmMnpPsStuUyYZ".toList

def described (d : Disk) (v : Visit) : List Piece → String × Bool
  | [] => ("", false)
  | .text octets :: rest =>
    let (more, stops) := described d v rest
    (octets ++ more, stops)
  | .field flags width precision letter :: rest =>
    let (text, isNumber) := fieldText d v letter
    let text := match precision with
      | some n => if isNumber then Text.padLeft n '0' text else (text.take n).toString
      | none => text
    let (more, stops) := described d v rest
    (padded flags width isNumber text ++ more, stops)
  | .time flags width stamp letter :: rest =>
    let (more, stops) := described d v rest
    (padded flags width false (momentText (timeOf stamp v.node) letter) ++ more, stops)
  | .stop :: _ => ("", true)

/-- A file as a long listing shows it. -/
def longLine (d : Disk) (now : Int) (v : Visit) : String :=
  let node := v.node
  Text.padLeft 9 ' ' (toString (Listing.numberOf (d.ref? v.place))) ++ " " ++
    Text.padLeft 6 ' ' (toString (Listing.kilobytes node)) ++ " " ++
    Listing.kindLetter node ++ modeLetters node.mode ++ " " ++
    Text.padLeft 3 ' ' (toString (d.nameCount v.place node)) ++ " " ++
    Text.padRight 8 ' ' (Listing.ownerName false node) ++ " " ++
    Text.padRight 8 ' ' (Listing.ownerName false node) ++ " " ++
    Text.padLeft 8 ' ' (toString (Listing.sizeOf node)) ++ " " ++
    Listing.timeText {} now.toNat node ++ " " ++ v.path ++
    match linkText node with
    | some target => " -> " ++ target
    | none => ""

end RegisterLang.Tool.Find
