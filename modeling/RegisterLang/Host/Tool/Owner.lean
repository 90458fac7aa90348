import RegisterLang.Host.Tool.Options

namespace RegisterLang.Tool.Owner

def users : List (String × Nat) :=
  [("root", 0), ("daemon", 1), ("bin", 2), ("sys", 3), ("mail", 8), ("nobody", 65534),
    (userName, 1000)]

def groups : List (String × Nat) :=
  [("root", 0), ("daemon", 1), ("bin", 2), ("sys", 3), ("adm", 4), ("tty", 5), ("disk", 6),
    ("mail", 8), ("users", 100), ("nogroup", 65534), (userName, 1000)]

def numberLimit : Nat := 4294967294

def find? (known : List (String × Nat)) (text : String) : Option Nat :=
  match known.lookup text with
  | some n => some n
  | none =>
    let digits := match text.toList with
      | '+' :: rest => rest
      | cs => cs
    if digits.isEmpty || !digits.all Char.isDigit then none
    else
      let n := Real.readDigits 10 digits
      if n ≤ numberLimit then some n else none

def nameOf (known : List (String × Nat)) (n : Nat) : String :=
  ((known.find? (·.2 = n)).map (·.1)).getD (toString n)

/-- Who is to be owner, in numbers and as it was said. -/
structure Request where
  user : Option Nat := none
  group : Option Nat := none
  userText : Option String := none
  groupText : Option String := none

def readSpec (text : String) : Tool Request := do
  let part (mark : Char) : Option (String × String) :=
    let cs := text.toList
    if cs.contains mark then
      some (String.ofList (cs.takeWhile (· ≠ mark)),
        String.ofList ((cs.dropWhile (· ≠ mark)).drop 1))
    else none
  let read (user group : String) (colon : Bool) : Except String Request := do
    let u ← if user.isEmpty then pure none
      else match find? users user with
        | some n => pure (some n)
        | none => .error "invalid user"
    let g ← if group.isEmpty then
        -- A user who has a name has a group as well.
        if colon && u.isSome then
          if (users.lookup user).isSome then pure u else .error "invalid spec"
        else pure none
      else match find? groups group with
        | some n => pure (some n)
        | none => .error "invalid group"
    let text (given : String) : Option String := if given.isEmpty then none else some given
    return { user := u, group := g, userText := text user, groupText := text group }
  match part ':' with
  | some (user, group) =>
    match read user group true with
    | .ok r => return r
    | .error reason => fail 1 (reason ++ ": " ++ cited text)
  | none =>
    match read text "" false, part '.' with
    | .ok r, _ => return r
    | .error reason, some (user, group) =>
      match read user group true with
      | .ok r =>
        complain ("warning: '.' should be ':': " ++ cited text)
        return r
      | .error _ => fail 1 (reason ++ ": " ++ cited text)
    | .error reason, none => fail 1 (reason ++ ": " ++ cited text)

structure Setup where
  request : Request
  onlyGroup : Bool := false
  recursive : Bool := false
  silent : Bool := false
  verbose : Bool := false
  follow : Bool := true

def paired (user group : Option String) : String :=
  match user, group with
  | some u, some g => u ++ ":" ++ g
  | some u, none => u
  | none, some g => g
  | none, none => ""

/-- Changes the owner of a file, and of what it holds if that is wanted. -/
def apply (s : Setup) : Nat → (top : Bool) → String → Tool Bool
  | 0, _, _ => return true
  | n + 1, top, path => do
    match ← look path false with
    | .error fault =>
      unless s.silent do complain ("cannot access " ++ quoted path ++ ": " ++ fault.describe)
      return false
    | .ok (place, link) =>
      let follow := s.follow && (top || !s.recursive)
      match ← look path follow with
      | .error fault =>
        unless s.silent do complain ("cannot dereference " ++ quoted path ++ ": " ++ fault.describe)
        return false
      | .ok (_, node) =>
        let mut good := true
        if s.recursive && link.isDirectory then
          for name in (← Strand.disk).children place do
            unless ← apply s n false (Tool.below path (Octet.ofText name)) do good := false
        let r := s.request
        let own := if node.owned then 1000 else 0
        let what :=
          if r.user.isNone && (r.group.isSome || s.onlyGroup) then "group" else "ownership"
        let user := r.user.map fun _ ↦ nameOf users own
        let group := r.group.map fun _ ↦ nameOf groups own
        let allowed := (r.user.isNone && r.group.isNone) ||
          (node.owned && r.user.all (· = 1000) && r.group.all (· = 1000))
        if allowed then
          if s.verbose then
            let names := paired user group
            sayLine (what ++ " of " ++ quoted path ++ " retained" ++
              (if names.isEmpty then "" else " as " ++ names))
          return good
        else
          unless s.silent do
            complain ("changing " ++ what ++ " of " ++ quoted path ++ ": Operation not permitted")
          if s.verbose then
            sayLine ("failed to change " ++ what ++ " of " ++ quoted path ++ " from " ++
              paired user group ++ " to " ++ paired r.userText r.groupText)
          return false

def table : OptionTable :=
  { short := "RHLPcfhv"
    long := OptionTable.plain
      [("recursive", "R"), ("changes", "c"), ("dereference", "dereference"),
        ("no-dereference", "h"), ("preserve-root", "preserve-root"),
        ("no-preserve-root", "no-preserve-root"), ("quiet", "f"), ("silent", "f"),
        ("verbose", "v")] ++
      OptionTable.valued [("reference", "reference"), ("from", "from")] }

def mainWith (onlyGroup : Bool) (args : List String) : Tool Nat := do
  let (found, operands) ← options table args
  let (spec, operands) := if (found.value? "reference").isSome then (none, operands)
    else (operands.head?, operands.tail)
  if operands.isEmpty then
    match spec with
    | some text => failWithHelp 1 ("missing operand after " ++ cited text)
    | none => missingOperand
  let request ← match found.value? "reference", spec with
    | some path, _ =>
      match ← look path with
      | .error fault =>
        fail 1 ("failed to get attributes of " ++ quoted path ++ ": " ++ fault.describe)
      | .ok (_, node) =>
        let n := if node.owned then 1000 else 0
        let group : Request := { group := some n, groupText := some (nameOf groups n) }
        pure (if onlyGroup then group
          else { group with user := some n, userText := some (nameOf users n) })
    | none, text =>
      let text := text.getD ""
      if onlyGroup then
        if text.isEmpty then pure {}
        else
          match find? groups text with
          | some n => pure { group := some n, groupText := some text }
          | none => fail 1 ("invalid group: " ++ cited text)
      else readSpec text
  let setup : Setup :=
    { request, onlyGroup, recursive := found.has "R", silent := found.has "f"
      verbose := found.last? ["c", "v"] = some "v"
      follow := found.last? ["h", "dereference"] ≠ some "h" }
  let bound := (← Strand.disk).entries.length + 2
  forAll operands (apply setup bound true)

end RegisterLang.Tool.Owner
