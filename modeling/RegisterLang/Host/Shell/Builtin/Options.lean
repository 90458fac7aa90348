import RegisterLang.Host.Shell.Test

namespace RegisterLang.Shell.Builtin

def option? (known : List Char) (c : Char) : Option Bool :=
  match known with
  | [] => none
  | k :: rest => if k = c && c ≠ ':' then some (rest.head? = some ':') else option? rest c

/-- The options that the letters of one argument give. One that takes a value takes the rest of the
argument, or else the next one, and then the second part of the result is true. -/
def letters (known : List Char) (next : Option String) :
    List Char → Run (List (Char × String) × Bool)
  | [] => return ([], false)
  | c :: cs => do
    match option? known c with
    | none => refuse ("Illegal option -" ++ c.toString)
    | some false =>
      let (options, taken) ← letters known next cs
      return ((c, "") :: options, taken)
    | some true =>
      match cs, next with
      | [], none => refuse ("No arg for -" ++ c.toString ++ " option")
      | [], some value => return ([(c, value)], true)
      | _, _ => return ([(c, String.ofList cs)], false)

def options (known : String) : List String → Run (List (Char × String) × List String)
  | [] => return ([], [])
  | "--" :: rest => return ([], rest)
  | arg :: rest => do
    match arg.toList with
    | '-' :: c :: cs =>
      let (found, taken) ← letters known.toList rest.head? (c :: cs)
      match taken, rest with
      | true, _ :: rest =>
        let (more, operands) ← options known rest
        return (found ++ more, operands)
      | _, rest =>
        let (more, operands) ← options known rest
        return (found ++ more, operands)
    | _ => return ([], arg :: rest)

def count (text : String) : Run Nat := do
  let n ← Test.number text
  if n < 0 || 2147483647 < n then refuse ("Illegal number: " ++ text) else return n.toNat

def quote (text : String) : String :=
  "'" ++ String.join (text.toList.map fun c ↦ if c = '\x27' then "'\"'\"'" else c.toString) ++ "'"

end RegisterLang.Shell.Builtin
