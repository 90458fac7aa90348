import RegisterLang.Host.Tool.Find.Describe

namespace RegisterLang.Tool.Find

inductive Joint where
  | comma
  | either
  | both
  deriving DecidableEq, Repr

def Joint.level : Joint → Nat
  | comma => 1
  | either => 2
  | both => 3

/-- The words of an expression, with primaries already read. -/
inductive Item where
  | primary (e : Expr)
  | opening
  | closing
  | negation (word : String)
  | joint (kind : Joint) (word : String)
  | finish

structure Before where
  word : String := "("
  isOperator : Bool := false

def join (kind : Joint) (a b : Expr) : Expr :=
  match kind with
  | .comma => .comma a b
  | .either => .either a b
  | .both => .both a b

mutual

/-- An expression whose operators bind at least as much as a level. -/
def tree : Nat → Nat → Before → List Item → Except String (Expr × List Item)
  | 0, _, _, _ => .error "invalid expression"
  | n + 1, level, before, items =>
    match items with
    | [] => .error "invalid expression"
    | .finish :: _ => .error ("expected an expression after '" ++ before.word ++ "'")
    | .closing :: _ =>
      .error (if before.isOperator then
        "expected an expression between '" ++ before.word ++ "' and ')'"
        else "invalid expression; you have too many ')'")
    | .joint _ word :: _ =>
      .error ("invalid expression; you have used a binary operator '" ++ word ++
        "' with nothing before it.")
    | .primary e :: rest => joined n level e rest
    | .negation word :: rest => do
      let (e, rest) ← tree n 4 { word, isOperator := true } rest
      joined n level (.not e) rest
    | .opening :: rest =>
      match rest with
      | [] | .finish :: _ =>
        .error ("invalid expression; expected to find a ')' but didn't see one. " ++
          "Perhaps you need an extra predicate after '('")
      | .closing :: _ => .error "invalid expression; empty parentheses are not allowed."
      | _ => do
        let (e, rest) ← tree n 0 {} rest
        match rest with
        | .closing :: rest => joined n level e rest
        | _ =>
          .error
            "invalid expression; I was expecting to find a ')' somewhere but did not see one."

def joined : Nat → Nat → Expr → List Item → Except String (Expr × List Item)
  | 0, _, e, items => .ok (e, items)
  | n + 1, level, e, items =>
    match items with
    | .joint kind word :: rest =>
      if level < kind.level then do
        let (other, rest) ← tree n kind.level { word, isOperator := true } rest
        joined n level (join kind e other) rest
      else .ok (e, items)
    | _ => .ok (e, items)

end

/-- The whole expression. If it shows nothing by itself, names are printed. -/
def wholeTree (items : List Item) (showsItself : Bool) : Except String Expr := do
  let shown : Expr := .action (.print .output "\n")
  if items.isEmpty then return shown
  let (e, rest) ←
    tree (4 * items.length + 8) 0 {} (if showsItself then items else items ++ [.finish])
  match rest with
  | [] => return e
  | [.finish] => return .both e shown
  | .closing :: _ => .error "you have too many ')'"
  | _ => .error "unexpected extra predicate"

def octalDigit (c : Char) : Bool := '0' ≤ c && c ≤ '7'

def pieces : Nat → List Char → Except String (List Piece × List String)
  | 0, _ => .ok ([], [])
  | _ + 1, [] => .ok ([], [])
  | n + 1, '\\' :: rest =>
    let text (octets : String) (rest : List Char) : Except String (List Piece × List String) := do
      let (more, warnings) ← pieces n rest
      return (.text octets :: more, warnings)
    match rest with
    | [] => .ok ([.text "\\"], ["escape \x60\\' followed by nothing at all"])
    | 'c' :: _ => .ok ([.stop], [])
    | 'a' :: rest => text "\x07" rest
    | 'b' :: rest => text "\x08" rest
    | 'f' :: rest => text "\x0c" rest
    | 'n' :: rest => text "\n" rest
    | 'r' :: rest => text "\r" rest
    | 't' :: rest => text "\t" rest
    | 'v' :: rest => text "\x0b" rest
    | '\\' :: rest => text "\\" rest
    | c :: _ =>
      let digits := (rest.take 3).takeWhile octalDigit
      if digits.isEmpty then do
        let (more, warnings) ← pieces n (rest.drop 1)
        return (.text ("\\" ++ c.toString) :: more,
          ("unrecognized escape \x60\\" ++ c.toString ++ "'") :: warnings)
      else
        let value := digits.foldl (fun n c ↦ n * 8 + (c.toNat - '0'.toNat)) 0
        text (Char.ofNat (value % 256)).toString (rest.drop digits.length)
  | n + 1, '%' :: rest =>
    match rest with
    | [] => .error "% at end of format string"
    | '%' :: rest => do
      let (more, warnings) ← pieces n rest
      return (.text "%" :: more, warnings)
    | _ => do
      let isFlag (c : Char) : Bool := "-+ #0".toList.contains c
      let flags := rest.takeWhile isFlag
      let afterFlags := rest.drop flags.length
      let width := afterFlags.takeWhile Char.isDigit
      let afterWidth := afterFlags.drop width.length
      let (precision, afterAll) := match afterWidth with
        | '.' :: more =>
          let digits := more.takeWhile Char.isDigit
          (some ((String.ofList digits).toNat?.getD 0), more.drop digits.length)
        | _ => (none, afterWidth)
      let number := (String.ofList width).toNat?.getD 0
      let flagText := String.ofList flags
      let unknown (rest : List Char) : Except String (List Piece × List String) := do
        let (more, warnings) ← pieces n rest
        let given := "%" ++ flagText ++ String.ofList width
        match afterAll with
        | [] => .error "% at end of format string"
        | c :: _ =>
          return (.text (given ++ c.toString) :: more,
            ("unrecognized format directive \x60%" ++ c.toString ++ "'") :: warnings)
      match afterAll with
      | [] => .error "% at end of format string"
      | 'A' :: letter :: rest => do
        let (more, warnings) ← pieces n rest
        return (.time flagText number .accessed letter :: more, warnings)
      | 'C' :: letter :: rest => do
        let (more, warnings) ← pieces n rest
        return (.time flagText number .changed letter :: more, warnings)
      | 'T' :: letter :: rest => do
        let (more, warnings) ← pieces n rest
        return (.time flagText number .modified letter :: more, warnings)
      | c :: rest =>
        if fieldLetters.contains c then do
          let (more, warnings) ← pieces n rest
          return (.field flagText number precision c :: more, warnings)
        else unknown rest
  | n + 1, c :: rest => do
    let (more, warnings) ← pieces n rest
    return (.text c.toString :: more, warnings)

/-- The words read so far, with what they set for the whole search. -/
structure Parsing where
  setup : Setup := {}
  items : List Item := []
  showsItself : Bool := false
  many : Nat := 0
  files : List (String × Outlet) := []
  flavor : Regex.Flavor := { plainSigns := true, intervals := false, lastBracket := .unreadable }
  dayStart : Bool := false
  depthGiven : Bool := false
  deletes : Bool := false
  prunes : Bool := false
  last : String := ""

namespace Parsing

def add (p : Parsing) (item : Item) : Parsing :=
  let isOperand := match item with
    | .primary _ | .opening | .negation _ => true
    | _ => false
  let isAfterOperand := match p.items.getLast? with
    | some (.primary _) | some .closing => true
    | _ => false
  { p with
    items := p.items ++
      (if isOperand && isAfterOperand then [.joint .both "-a"] else []) ++ [item] }

def addCondition (p : Parsing) (c : Condition) : Parsing := p.add (.primary (.condition c))

def addAction (p : Parsing) (a : Action) (shows : Bool := true) : Parsing :=
  { p.add (.primary (.action a)) with showsItself := p.showsItself || shows }

end Parsing

def invalid {α : Type} (name text : String) : Tool α :=
  fail 1 ("invalid argument \x60" ++ text ++ "' to \x60" ++ name ++ "'")

def signed (text : String) : Ordering × String :=
  match text.toList with
  | '+' :: rest => (.gt, String.ofList rest)
  | '-' :: rest => (.lt, String.ofList rest)
  | _ => (.eq, text)

def amountOf? (text : String) : Option Amount :=
  let (order, digits) := signed text
  if digits.isEmpty || !digits.toList.all Char.isDigit then none
  else digits.toNat?.map fun value ↦ { order, value }

def amount (name text : String) : Tool Amount := do
  match amountOf? text with
  | some a => return a
  | none => invalid name text

def sizeCondition (text : String) : Tool Condition := do
  match text.toList.getLast? with
  | none => fail 1 "invalid null argument to -size"
  | some c =>
    let unit? := if c.isDigit then some 512
      else match c with
        | 'b' => some 512
        | 'c' => some 1
        | 'w' => some 2
        | 'k' => some 1024
        | 'M' => some 1048576
        | 'G' => some 1073741824
        | _ => none
    match unit? with
    | none => fail 1 ("invalid -size type \x60" ++ c.toString ++ "'")
    | some unit =>
      match amountOf? (if c.isDigit then text else (text.dropEnd 1).toString) with
      | some a => return .size a unit
      | none => fail 1 ("Invalid argument \x60" ++ text ++ "' to -size")

def kindCondition (name text : String) (through : Bool) : Tool Condition := do
  if text.isEmpty then fail 1 ("Arguments to " ++ name ++ " should contain at least one letter")
  let rec letters : List Char → List Char → Tool (List Char)
    | [], seen => return seen
    | c :: rest, seen => do
      if !"bcdflpsD".toList.contains c then
        fail 1 ("Unknown argument to " ++ name ++ ": " ++ c.toString)
      if seen.contains c then
        fail 1 ("Duplicate file type '" ++ c.toString ++ "' in the argument list to " ++
          name ++ ".")
      match rest with
      | [] => return seen ++ [c]
      | [','] =>
        fail 1 ("Last file type in list argument to " ++ name ++
          " is missing, i.e., list is ending on: ','")
      | ',' :: more => letters more (seen ++ [c])
      | _ => fail 1 ("Must separate multiple arguments to " ++ name ++ " using: ','")
  return .kind (← letters text.toList []) through

def permissionCondition (text : String) : Tool Condition := do
  let (how, modeText) := match text.toList with
    | '-' :: rest => (Permitted.all, String.ofList rest)
    | '/' :: rest => (Permitted.any, String.ofList rest)
    | _ => (Permitted.exactly, text)
  if text.startsWith "+" then fail 1 ("invalid mode " ++ cited text)
  match Mode.Change.parse? modeText with
  | some change => return .permission how (change.apply 0 false 0)
  | none => fail 1 ("invalid mode " ++ cited text)

/-- A length of time in units, with a fraction. -/
def span? (unit : Nat) (text : String) : Option Int :=
  match Real.read? text.toList with
  | some (.finite negative a b, []) =>
    let n : Nat := a * unit * 1000000000 / b
    some (if negative then -(n : Int) else n)
  | _ => none

def ageCondition (p : Parsing) (name : String) (stamp : Stamp) (unit : Nat) (text : String) :
    Tool Condition := do
  let (order, digits) := signed text
  let now ← Moment.now
  let day : Int := 86400000000000
  -- Days are counted from the end of today if that was asked for.
  let shift := if p.dayStart then day - now % day else 0
  match span? unit digits with
  | none => invalid name text
  | some n =>
    let length : Int := unit * 1000000000
    match order with
    | .lt => return .age stamp none (some (n - shift))
    | .gt => return .age stamp (some (n + length - shift)) none
    | .eq => return .age stamp (some (n - shift)) (some (n + length - shift))

def stampOf? : Char → Option Stamp
  | 'a' => some .accessed
  | 'c' => some .changed
  | 'm' => some .modified
  | _ => none

def referenceTime (p : Parsing) (stamp : Stamp) (path : String) : Tool Int := do
  match ← look path (p.setup.links ≠ .none) with
  | .ok (_, node) => return timeOf stamp node
  | .error fault => fail 1 (cited path ++ ": " ++ fault.describe)

def newerCondition (p : Parsing) (name : String) (text : String) : Tool Condition := do
  match name.toList.drop 6 with
  | [x, y] =>
    if x = 'B' || y = 'B' then
      complain "This system does not provide a way to find the birth time of a file."
    match stampOf? x, y with
    | some stamp, 't' =>
      match Moment.parse? (← Moment.now) text with
      | some time => return .newer stamp time
      | none =>
        fail 1 ("I cannot figure out how to interpret " ++ cited text ++ " as a date or time")
    | some stamp, y =>
      match stampOf? y with
      | some other => return .newer stamp (← referenceTime p other text)
      | none => fail 1 ("invalid predicate \x60" ++ name ++ "'")
    | none, _ => fail 1 ("invalid predicate \x60" ++ name ++ "'")
  | _ => fail 1 ("unknown predicate \x60" ++ name ++ "'")

def flavors : List (String × Regex.Flavor) :=
  let basic : Regex.Flavor := { lastBracket := .unreadable }
  let extended : Regex.Flavor := { extended := true, lastBracket := .unreadable }
  let emacs : Regex.Flavor :=
    { plainSigns := true, intervals := false, lastBracket := .unreadable }
  [("findutils-default", emacs), ("ed", basic), ("emacs", emacs), ("gnu-awk", extended),
    ("grep", basic), ("posix-awk", extended), ("awk", extended), ("posix-basic", basic),
    ("posix-egrep", extended), ("egrep", extended), ("posix-extended", extended),
    ("posix-minimal-basic", basic), ("sed", basic)]

def regexCondition (p : Parsing) (text : String) (fold : Bool) : Tool Condition := do
  match Regex.prepare p.flavor text fold with
  | .ok m => return .regex m
  | .error fault =>
    fail 1 ("failed to compile regular expression '" ++ text ++ "': " ++ fault.message)

def hasPlace (word : String) : Bool := 1 < (word.splitOn "\x7b\x7d").length

/-- The words of a command up to the one that ends it. -/
def commandWords (allowMany : Bool) :
    List String → List String → Option (List String × Bool × List String)
  | _, [] => none
  | words, word :: rest =>
    if word = ";" then some (words, false, rest)
    else if allowMany && word = "+" && words.getLast? = some "\x7b\x7d" then
      some (words, true, rest)
    else commandWords allowMany (words ++ [word]) rest

def runAction (p : Parsing) (name : String) (inFolder asks : Bool) (rest : List String) :
    Tool (Parsing × List String) := do
  match commandWords (!asks) [] rest with
  | none =>
    let pairs := rest.zip (rest.drop 1)
    match pairs.find? fun (a, b) ↦ b = "+" && hasPlace a with
    | some (word, _) =>
      if asks then fail 1 ("missing argument to \x60" ++ name ++ "'")
      fail 1 ("In '" ++ name ++
        " ... \x7b\x7d +' the '\x7b\x7d' must appear by itself, but you specified '" ++
        word ++ "'")
    | none => fail 1 ("missing argument to \x60" ++ name ++ "'")
  | some (words, isMany, after) =>
    if words.isEmpty then invalid name ";"
    if isMany then
      if 1 < (words.filter hasPlace).length then
        fail 1 ("Only one instance of \x7b\x7d is supported with " ++ name ++ " ... +")
      if words.length < 2 then invalid name "+"
      return ({ p.addAction (.runMany words.dropLast inFolder p.many) with many := p.many + 1 },
        after)
    return (p.addAction (.run words inFolder asks), after)

def outlet (p : Parsing) (path : String) : Tool (Parsing × Outlet) := do
  match p.files.lookup path with
  | some o => return (p, o)
  | none =>
    let o ← if path = "/dev/stdout" then pure Outlet.output
      else if path = "/dev/stderr" then pure Outlet.error
      else
        match ← Strand.openAt (Octet.toText path)
          { write := true, create := true, truncate := true } with
        | .ok n => pure (Outlet.file n)
        | .error fault => fail 1 (cited path ++ ": " ++ fault.describe)
    return ({ p with files := (path, o) :: p.files }, o)

def format (text : String) : Tool (List Piece) := do
  match pieces (text.length + 1) text.toList with
  | .error message => fail 1 ("error: " ++ message)
  | .ok (list, warnings) =>
    for warning in warnings do complain ("warning: " ++ warning)
    return list

def depthLimit (name text : String) : Tool Nat := do
  if text.isEmpty || !text.toList.all Char.isDigit then
    fail 1 ("Expected a positive decimal integer argument to " ++ name ++ ", but got " ++
      cited text)
  return text.toNat?.getD 0

def ownerCondition (text : String) : Option Condition :=
  if text = "root" then some (.owner ⟨.eq, 0⟩)
  else if text = userName then some (.owner ⟨.eq, userId.toNat?.getD 0⟩)
  else (amountOf? text).map Condition.owner

def plainWord (p : Parsing) (name : String) : Option Parsing :=
  let option (f : Setup → Setup) : Parsing := { p with setup := f p.setup }.addCondition .always
  match name with
  | "-true" => some (p.addCondition .always)
  | "-false" | "-nouser" | "-nogroup" => some (p.addCondition .never)
  | "-empty" => some (p.addCondition .empty)
  | "-readable" => some (p.addCondition (.allowed .read))
  | "-writable" => some (p.addCondition (.allowed .write))
  | "-executable" => some (p.addCondition (.allowed .execute))
  | "-print" => some (p.addAction (.print .output "\n"))
  | "-print0" => some (p.addAction (.print .output "\x00"))
  | "-ls" => some (p.addAction (.list .output))
  | "-delete" =>
    some { (p.addAction .delete) with
      deletes := true, setup := { p.setup with childrenFirst := true } }
  | "-prune" => some { (p.addAction .prune false) with prunes := true }
  | "-quit" => some (p.addAction .quit false)
  | "-depth" | "-d" =>
    some { option ({ · with childrenFirst := true }) with depthGiven := true }
  | "-follow" => some (option ({ · with links := .all }))
  | "-daystart" => some { option id with dayStart := true }
  | "-xdev" | "-mount" | "-noleaf" | "-warn" | "-nowarn" | "-ignore_readdir_race"
  | "-noignore_readdir_race" => some (option id)
  | "!" | "-not" => some (p.add (.negation name))
  | "-a" | "-and" => some (p.add (.joint .both name))
  | "-o" | "-or" => some (p.add (.joint .either name))
  | "," => some (p.add (.joint .comma name))
  | "(" => some (p.add .opening)
  | ")" => some (p.add .closing)
  | _ => none

def valuedWord (p : Parsing) (name text : String) : Tool (Option Parsing) := do
  let condition (c : Condition) : Tool (Option Parsing) := return some (p.addCondition c)
  let pathCondition (fold : Bool) : Tool (Option Parsing) := do
    if text.endsWith "/" && text ≠ "/" then
      complain ("warning: " ++ name ++ " " ++ text ++
        " will not match anything because it ends with /.")
    condition (.path text fold)
  match name with
  | "-name" => condition (.name text false)
  | "-iname" => condition (.name text true)
  | "-path" | "-wholename" => pathCondition false
  | "-ipath" | "-iwholename" => pathCondition true
  | "-lname" => condition (.linkTarget text false)
  | "-ilname" => condition (.linkTarget text true)
  | "-regex" => condition (← regexCondition p text false)
  | "-iregex" => condition (← regexCondition p text true)
  | "-regextype" =>
    match flavors.lookup text with
    | some flavor => return some ({ p with flavor }.addCondition .always)
    | none =>
      let names := ", ".intercalate (flavors.map fun (n, _) ↦ "'" ++ n ++ "'")
      fail 1 ("Unknown regular expression type " ++ cited text ++ "; valid types are " ++
        names ++ ".")
  | "-type" => condition (← kindCondition name text false)
  | "-xtype" => condition (← kindCondition name text true)
  | "-size" => condition (← sizeCondition text)
  | "-perm" => condition (← permissionCondition text)
  | "-newer" => condition (.newer .modified (← referenceTime p .modified text))
  | "-anewer" => condition (.newer .accessed (← referenceTime p .modified text))
  | "-cnewer" => condition (.newer .changed (← referenceTime p .modified text))
  | "-mtime" => condition (← ageCondition p name .modified 86400 text)
  | "-atime" => condition (← ageCondition p name .accessed 86400 text)
  | "-ctime" => condition (← ageCondition p name .changed 86400 text)
  | "-mmin" => condition (← ageCondition p name .modified 60 text)
  | "-amin" => condition (← ageCondition p name .accessed 60 text)
  | "-cmin" => condition (← ageCondition p name .changed 60 text)
  | "-links" => condition (.links (← amount name text))
  | "-inum" => condition (.number (← amount name text))
  | "-uid" | "-gid" => condition (.owner (← amount name text))
  | "-user" =>
    match ownerCondition text with
    | some c => condition c
    | none => fail 1 (cited text ++ " is not the name of a known user")
  | "-group" =>
    match ownerCondition text with
    | some c => condition c
    | none => fail 1 (cited text ++ " is not the name of an existing group")
  | "-samefile" =>
    match ← look text (p.setup.links ≠ .none) with
    | .ok (place, _) => condition (.sameFile ((← Strand.disk).ref? place))
    | .error fault => fail 1 (cited text ++ ": " ++ fault.describe)
  | "-fstype" => condition (if text = "overlay" then .always else .never)
  | "-used" =>
    let _ ← amount name text
    condition .always
  | "-context" => fail 1 "invalid predicate -context: SELinux is not enabled."
  | "-maxdepth" =>
    let n ← depthLimit name text
    return some ({ p with setup := { p.setup with most := some n } }.addCondition .always)
  | "-mindepth" =>
    let n ← depthLimit name text
    return some ({ p with setup := { p.setup with least := n } }.addCondition .always)
  | "-printf" => return some (p.addAction (.describe .output (← format text)))
  | "-fprint" =>
    let (p, o) ← outlet p text
    return some (p.addAction (.print o "\n"))
  | "-fprint0" =>
    let (p, o) ← outlet p text
    return some (p.addAction (.print o "\x00"))
  | "-fls" =>
    let (p, o) ← outlet p text
    return some (p.addAction (.list o))
  | _ =>
    if name.startsWith "-newer" && name.length = 8 then
      condition (← newerCondition p name text)
    else return none

def isExpression (isFirst : Bool) (word : String) : Bool :=
  match word.toList with
  | ['-'] => false
  | '-' :: _ => true
  | [')'] | [','] => !isFirst
  | ['('] | ['!'] => true
  | _ => false

def takesValue (name : String) : Bool :=
  ["-name", "-iname", "-path", "-wholename", "-ipath", "-iwholename", "-lname", "-ilname", "-regex",
    "-iregex", "-regextype", "-type", "-xtype", "-size", "-perm", "-newer", "-anewer", "-cnewer",
    "-mtime", "-atime", "-ctime", "-mmin", "-amin", "-cmin", "-links", "-inum", "-uid", "-gid",
    "-user", "-group", "-samefile", "-fstype", "-used", "-context", "-maxdepth", "-mindepth",
    "-printf", "-fprint", "-fprint0", "-fls", "-fprintf"].contains name ||
    (name.startsWith "-newer" && name.length = 8)

def words : Nat → Parsing → List String → Tool Parsing
  | 0, p, _ => return p
  | _ + 1, p, [] => return p
  | n + 1, p, name :: rest => do
    if !isExpression false name then
      complain ("paths must precede expression: \x60" ++ name ++ "'")
      if (← occupied name) && takesValue p.last then
        complain ("possible unquoted pattern after predicate \x60" ++ p.last ++ "'?")
      throw 1
    if name = "-help" || name = "--help" || name = "-version" || name = "--version" then throw 0
    match plainWord p name with
    | some q => words n { q with last := name } rest
    | none =>
      if ["-exec", "-execdir", "-ok", "-okdir"].contains name then
        let (q, rest) ← runAction p name (name.endsWith "dir") (name.startsWith "-ok") rest
        words n { q with last := name } rest
      else
        match rest with
        | [] =>
          if takesValue name then fail 1 ("missing argument to \x60" ++ name ++ "'")
          else fail 1 ("unknown predicate \x60" ++ name ++ "'")
        | value :: rest =>
          if name = "-fprintf" then
            match rest with
            | [] => invalid name value
            | text :: rest =>
              let (q, o) ← outlet p value
              words n { q.addAction (.describe o (← format text)) with last := name } rest
          else
            match ← valuedWord p name value with
            | some q => words n { q with last := name } rest
            | none => fail 1 ("unknown predicate \x60" ++ name ++ "'")

end RegisterLang.Tool.Find
