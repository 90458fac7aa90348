import RegisterLang.Host.Text.Real
import RegisterLang.Host.Tool.Basic

namespace RegisterLang.Tool

inductive Need where
  | nothing
  | value
  | maybe
  deriving DecidableEq, Repr

structure LongOption where
  name : String
  key : String
  need : Need := .nothing

/-- The options of a program: letters after one dash, words after two. -/
structure OptionTable where
  short : String := ""
  long : List LongOption := []
  ordered : Bool := false
  failure : Nat := 1

abbrev OptionList := List (String × Option String)

namespace OptionTable

def plain (pairs : List (String × String)) : List LongOption :=
  pairs.map fun (name, key) ↦ { name, key }

def valued (pairs : List (String × String)) : List LongOption :=
  pairs.map fun (name, key) ↦ { name, key, need := .value }

def letter? (c : Char) : List Char → Option Need
  | [] => none
  | k :: rest =>
    if k = c && c ≠ ':' then
      some (match rest with
        | ':' :: ':' :: _ => .maybe
        | ':' :: _ => .value
        | _ => .nothing)
    else letter? c rest

/-- The option that a word names, which may be shortened as long as it is clear. -/
def word? (t : OptionTable) (word : String) : Except String LongOption :=
  match t.long.find? (·.name = word) with
  | some option => .ok option
  | none =>
    match t.long.filter fun o ↦ word.toList.isPrefixOf o.name.toList with
    | [] => .error ("unrecognized option '--" ++ word ++ "'")
    | option :: more =>
      if more.all fun o ↦ o.key = option.key && o.need = option.need then .ok option
      else
        .error ("option '--" ++ word ++ "' is ambiguous; possibilities:" ++
          String.join ((option :: more).map fun o ↦ " '--" ++ o.name ++ "'"))

def readGroup (t : OptionTable) (next : Option String) :
    List Char → Except String (OptionList × Bool)
  | [] => .ok ([], false)
  | c :: cs =>
    match letter? c t.short.toList with
    | none => .error ("invalid option -- '" ++ c.toString ++ "'")
    | some .nothing => do
      let (options, taken) ← readGroup t next cs
      return ((c.toString, none) :: options, taken)
    | some .maybe =>
      .ok ([(c.toString, if cs.isEmpty then none else some (String.ofList cs))], false)
    | some .value =>
      if cs.isEmpty then
        match next with
        | some value => .ok ([(c.toString, some value)], true)
        | none => .error ("option requires an argument -- '" ++ c.toString ++ "'")
      else .ok ([(c.toString, some (String.ofList cs))], false)

def readWord (t : OptionTable) (next : Option String) (text : List Char) :
    Except String (OptionList × Bool) := do
  let name := String.ofList (text.takeWhile (· ≠ '='))
  let attached := match text.dropWhile (· ≠ '=') with
    | _ :: value => some (String.ofList value)
    | [] => none
  let option ← t.word? name
  match option.need, attached, next with
  | .nothing, some _, _ => .error ("option '--" ++ option.name ++ "' doesn't allow an argument")
  | .value, none, none => .error ("option '--" ++ option.name ++ "' requires an argument")
  | .value, none, some value => return ([(option.key, some value)], true)
  | _, _, _ => return ([(option.key, attached)], false)

def read (t : OptionTable) : Nat → List String → Except String (OptionList × List String)
  | 0, args => .ok ([], args)
  | _ + 1, [] => .ok ([], [])
  | n + 1, arg :: rest => do
    let go (found : OptionList × Bool) : Except String (OptionList × List String) := do
      let (more, operands) ← t.read n (if found.2 then rest.tail else rest)
      return (found.1 ++ more, operands)
    match arg.toList with
    | ['-', '-'] => return ([], rest)
    | '-' :: '-' :: word => go (← t.readWord rest.head? word)
    | '-' :: c :: cs => go (← t.readGroup rest.head? (c :: cs))
    | _ =>
      if t.ordered then return ([], arg :: rest)
      else
        let (options, operands) ← t.read n rest
        return (options, arg :: operands)

def withHelp (t : OptionTable) : OptionTable :=
  { t with long := t.long ++ plain [("help", "--help"), ("version", "--version")] }

end OptionTable

/-- Takes options and operands apart, or refuses what no option is. -/
def options (t : OptionTable) (args : List String) : Tool (OptionList × List String) := do
  match t.withHelp.read (args.length + 1) args with
  | .ok (found, operands) =>
    if found.any fun o ↦ o.1 = "--help" || o.1 = "--version" then throw 0
    return (found, operands)
  | .error message => failWithHelp t.failure message

namespace OptionList

def has (options : OptionList) (key : String) : Bool := options.any (·.1 = key)

def value? (options : OptionList) (key : String) : Option String :=
  (options.reverse.lookup key).join

def last? (options : OptionList) (keys : List String) : Option String :=
  (options.reverse.find? fun o ↦ keys.contains o.1).map (·.1)

end OptionList

def missingOperand {α : Type} (status : Nat := 1) : Tool α := failWithHelp status "missing operand"

def extraOperand {α : Type} (operand : String) (status : Nat := 1) : Tool α :=
  failWithHelp status ("extra operand " ++ cited operand)

def suffixes : List Char := ['K', 'M', 'G', 'T', 'P', 'E', 'Z', 'Y', 'R', 'Q']

def multiplier? (allowed : String) (suffix : String) : Option Nat :=
  match suffix.toList with
  | [] => some 1
  | c :: rest =>
    let upper := if c = 'k' || c = 'm' then c.toUpper else c
    if !allowed.toList.contains c then none
    else if c = 'b' then if rest.isEmpty then some 512 else none
    else if c = 'c' then if rest.isEmpty then some 1 else none
    else if c = 'w' then if rest.isEmpty then some 2 else none
    else if c = 'B' then if rest.isEmpty then some 1024 else none
    else
      let i := suffixes.findIdx (· = upper)
      if i < suffixes.length then
        if rest.isEmpty then some (Real.power 1024 (i + 1))
        else if !allowed.toList.contains '0' then none
        else if rest = ['i', 'B'] then some (Real.power 1024 (i + 1))
        else if rest = ['B'] || rest = ['D'] then some (Real.power 1000 (i + 1))
        else none
      else none

def countLimit : Nat := 18446744073709551615

inductive CountFault where
  | invalid
  | tooLarge
  deriving DecidableEq, Repr

/-- Reads a number with a suffix that multiplies it. -/
def readCount (allowed : String) (text : String) : Except CountFault Nat :=
  let blank (c : Char) : Bool := c = ' ' || ('\t' ≤ c && c ≤ '\r')
  let cs := text.toList.dropWhile blank
  let signless := match cs with
    | '+' :: rest => rest
    | _ => cs
  let digits := signless.takeWhile Char.isDigit
  let number? : Option (Nat × List Char) :=
    match (String.ofList digits).toNat? with
    | some n => some (n, signless.dropWhile Char.isDigit)
    | none =>
      match text.toList with
      | c :: _ => if allowed.toList.contains c then some (1, text.toList) else none
      | [] => none
  match number? with
  | none => .error .invalid
  | some (n, suffix) =>
    match multiplier? allowed (String.ofList suffix) with
    | none => .error .invalid
    | some factor => if countLimit < n * factor then .error .tooLarge else .ok (n * factor)

def usualSuffixes : String := "bkKmMGTPEZYRQ0"

def amount (allowed : String) (what text : String) (status : Nat := 1) : Tool Nat := do
  match readCount allowed text with
  | .ok n => return n
  | .error .invalid => fail status (what ++ ": " ++ cited text)
  | .error .tooLarge =>
    fail status (what ++ ": " ++ cited text ++ ": Value too large for defined data type")

def chooseWord (option : String) (groups : List (List String)) (text : String) (status : Nat := 1) :
    Tool String := do
  let fits := groups.filter fun group ↦ group.any fun word ↦ text.toList.isPrefixOf word.toList
  let exact := groups.find? fun group ↦ group.contains text
  match exact, fits with
  | some group, _ => return group.headD ""
  | none, [group] => return group.headD ""
  | none, fits =>
    let kind := if fits.isEmpty then "invalid" else "ambiguous"
    failWithHelp status (kind ++ " argument " ++ cited text ++ " for '" ++ option ++ "'\n" ++
      "Valid arguments are:" ++ String.join (groups.map fun group ↦
        "\n  - " ++ ", ".intercalate (group.map fun word ↦ "'" ++ word ++ "'")))

end RegisterLang.Tool
