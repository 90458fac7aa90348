import RegisterLang.Host.Tool.Record.Token

namespace RegisterLang.Tool.Record

/-- Where the parser stands, and what it knows about names. -/
structure Cursor where
  tokens : List Located
  parentheses : Nat := 0
  braces : Nat := 0
  redirects : Bool := false
  kinds : List (String × Bool) := []
  parameters : List String := []
  parameterKinds : List (String × Bool) := []
  loops : Nat := 0
  inFunction : Bool := false
  outside : Bool := false
  ranges : Nat := 0
  functions : List (String × Function) := []
  calls : List (String × Nat × Nat) := []
  complaints : List Complaint := []

/-- Reads part of a program, or ends with all complaints. -/
abbrev Parse := StateT Cursor (Except (List Complaint))

namespace Parse

def opening : String := "\x7b"

def closing : String := "\x7d"

def current : Parse Located := do
  return (← get).tokens.headD { token := .finish, line := 1 }

def peek : Parse Token := do return (← current).token

def peekSecond : Parse Token := do
  return ((← get).tokens[1]?.map Located.token).getD .finish

def advance : Parse Unit := modify fun c ↦
  match c.tokens with
  | { token := .finish, .. } :: _ | [] => c
  | { token, .. } :: rest =>
    let c := { c with tokens := rest }
    if token.is "(" then { c with parentheses := c.parentheses + 1 }
    else if token.is ")" then { c with parentheses := c.parentheses - 1 }
    else if token.is opening then { c with braces := c.braces + 1 }
    else if token.is closing then { c with braces := c.braces - 1 }
    else c

def nextIs (text : String) : Parse Bool := do return (← peek).is text

def accept (text : String) : Parse Bool := do
  if ← nextIs text then
    advance
    return true
  else return false

def openBraces (braces : Nat) (tokens : List Located) : Nat :=
  tokens.foldl (fun n t ↦
    if t.token.is opening then n + 1 else if t.token.is closing then n - 1 else n) braces

def refuse {α : Type} : Parse α := do
  let c ← get
  let { token, line } ← current
  let lastLine := (c.tokens.getLast?.map Located.line).getD line
  let unclosed : List Complaint :=
    if openBraces c.braces c.tokens = 0 then []
    else [{ line := lastLine + 1, message := "missing \x7d near end of file" }]
  let ends := match token with
    | .lineEnd | .finish => true
    | t => t.is ";" || t.is closing
  let (main, rest) : Complaint × List Complaint := match token with
    | .broken complaint => (complaint, [])
    | t =>
      if ends && c.parentheses ≠ 0 then
        ({ line, message := "missing ) near " ++ t.describe }, unclosed)
      else ({ line, message := "syntax error at or near " ++ t.describe }, unclosed)
  throw (c.complaints ++ main :: rest)

def expect (text : String) : Parse Unit := do
  unless ← accept text do refuse

def complainAt (line : Nat) (message : String) : Parse Unit :=
  modify fun c ↦ { c with complaints := c.complaints ++ [{ line, message }] }

def complainHere (message : String) : Parse Unit := do
  complainAt (← current).line message

def skipLines : Parse Unit := modify fun c ↦
  { c with tokens := c.tokens.dropWhile fun t ↦ match t.token with
    | .lineEnd => true
    | _ => false }

def resolve (name : String) : Parse Name := do
  return match (← get).parameters.idxOf? name with
    | some i => .parameter i
    | none => .everywhere name

/-- A name that is used as a table or not; it may not be both. -/
def use (name : String) (isTable : Bool) : Parse Name := do
  let c ← get
  let isLocal := c.parameters.contains name
  let known := if isLocal then c.parameterKinds else c.kinds
  match known.lookup name with
  | some before =>
    if before ≠ isTable then
      let scope := if isLocal then "local " else ""
      complainHere ("illegal reference to " ++ scope ++
        (if before then "array " else "variable ") ++
        name)
  | none =>
    if isLocal then set { c with parameterKinds := (name, isTable) :: known }
    else set { c with kinds := (name, isTable) :: known }
  resolve name

def tableName : Parse Name := do
  match ← peek with
  | .name name =>
    let found ← use name true
    advance
    return found
  | _ => refuse

def isTarget : Expr → Bool
  | .named _ | .element _ _ | .field _ => true
  | _ => false

def canStart : Token → Bool
  | .name _ | .function _ | .builtin _ | .number _ _ | .text _ | .pattern _ => true
  | .word w => ["length", "split", "match", "sub", "gsub", "getline"].contains w
  | .symbol s => s = "(" || s = "$" || s = "!" || s = "++" || s = "--"
  | _ => false

def concatenationLevel : Nat := 5

def signLevel : Nat := 8

def comparison? (redirects : Bool) (t : Token) : Option Comparison :=
  if t.is "<" then some .less
  else if t.is "<=" then some .lessOrEqual
  else if t.is "==" then some .equal
  else if t.is "!=" then some .notEqual
  else if t.is ">" then if redirects then none else some .greater
  else if t.is ">=" then some .greaterOrEqual
  else none

def operation? (redirects : Bool) (level : Nat) (t : Token) : Option (Expr → Expr → Expr) :=
  match level with
  | 0 => if t.is "||" then some .either else none
  | 1 => if t.is "&&" then some .both else none
  | 3 =>
    if t.is "~" then some fun a b ↦ .fits a b false
    else if t.is "!~" then some fun a b ↦ .fits a b true
    else none
  | 4 => (comparison? redirects t).map Expr.compare
  | 6 =>
    if t.is "+" then some (.arithmetic .add)
    else if t.is "-" then some (.arithmetic .subtract)
    else none
  | 7 =>
    if t.is "*" then some (.arithmetic .multiply)
    else if t.is "/" then some (.arithmetic .divide)
    else if t.is "%" then some (.arithmetic .remainder)
    else none
  | _ => none

def assignment? (t : Token) : Option (Option Arithmetic) :=
  match t with
  | .symbol s =>
    [("=", none), ("+=", some .add), ("-=", some .subtract), ("*=", some .multiply),
      ("/=", some .divide), ("%=", some .remainder), ("^=", some .power)].lookup s
  | _ => none

def redirecting {α : Type} (on : Bool) (x : Parse α) : Parse α := do
  let before := (← get).redirects
  modify ({ · with redirects := on })
  let a ← x
  modify ({ · with redirects := before })
  return a

mutual

def expression : Nat → Parse Expr
  | 0 => refuse
  | n + 1 => do
    let condition ← operand n 0
    if ← accept "?" then
      let first ← expression n
      expect ":"
      let second ← expression n
      return .branch condition first second
    else return condition

/-- An operand of the operators of a level. -/
def operand : Nat → Nat → Parse Expr
  | 0, _ => refuse
  | n + 1, level => do
    if level = signLevel then signed n
    else
      let first ← operand n (level + 1)
      if level = concatenationLevel && isTarget first then
        match assignment? (← peek) with
        | some operation =>
          advance
          return .assign first operation (← expression n)
        | none => chain n level first
      else chain n level first

/-- Operators of a level, from left to right. -/
def chain : Nat → Nat → Expr → Parse Expr
  | 0, _, _ => refuse
  | n + 1, level, first => do
    let t ← peek
    if level = 2 then
      if ← accept "in" then
        let table ← tableName
        let subscripts := match first with
          | .group e => [e]
          | e => [e]
        chain n level (.within subscripts table)
      else return first
    else if level = concatenationLevel then
      if canStart t then chain n level (.concatenate first (← operand n (level + 1)))
      else return first
    else
      match operation? (← get).redirects level t with
      | some make =>
        advance
        if level ≤ 1 then skipLines
        let second ← operand n (level + 1)
        chain n level (make first second)
      | none => return first

def signed : Nat → Parse Expr
  | 0 => refuse
  | n + 1 => do
    if ← accept "-" then return .negative (← signed n)
    else if ← accept "+" then return .positive (← signed n)
    else if ← accept "!" then return .negation (← signed n)
    else piped n (← raised n)

def piped : Nat → Expr → Parse Expr
  | 0, _ => refuse
  | n + 1, command => do
    if (← nextIs "|") && (← peekSecond).is "getline" then
      advance
      advance
      piped n (.read (.command command) (← target? n))
    else return command

def raised : Nat → Parse Expr
  | 0 => refuse
  | n + 1 => do
    let base ← stepped n
    if ← accept "^" then
      let exponent ←
        if (← nextIs "-") || (← nextIs "+") || (← nextIs "!") then signed n else raised n
      return .arithmetic .power base exponent
    else return base

def stepped : Nat → Parse Expr
  | 0 => refuse
  | n + 1 => do
    let e ← primary n
    if isTarget e then
      if ← accept "++" then return .step e true false
      else if ← accept "--" then return .step e false false
      else return e
    else return e

def target? : Nat → Parse (Option Expr)
  | 0 => refuse
  | n + 1 => do
    match ← peek with
    | .name _ => return some (← primary n)
    | t => if t.is "$" then return some (← primary n) else return none

def items : Nat → String → Parse (List Expr)
  | 0, _ => refuse
  | n + 1, stop => do
    let first ← expression n
    if ← accept "," then
      skipLines
      return first :: (← items n stop)
    else
      expect stop
      return [first]

def arguments : Nat → Parse (List Expr)
  | 0 => refuse
  | n + 1 => do
    expect "("
    redirecting false do
      if ← accept ")" then return []
      else items n ")"

def primary : Nat → Parse Expr
  | 0 => refuse
  | n + 1 => do
    let { token, line } ← current
    match token with
    | .number x _ =>
      advance
      return .number x
    | .text octets =>
      advance
      return .text octets
    | .pattern p =>
      advance
      return .pattern p
    | .name name =>
      if (← peekSecond).is "[" then
        let table ← use name true
        advance
        advance
        return .element table (← redirecting false (items n "]"))
      else
        -- A name alone as an argument may be that of a table.
        let after ← peekSecond
        let undecided := (← get).parentheses ≠ 0 && (after.is "," || after.is ")")
        let found ← if undecided then resolve name else use name false
        advance
        return .named found
    | .function name =>
      advance
      unless ← nextIs "(" do refuse
      let given ← arguments n
      modify fun c ↦ { c with calls := (name, given.length, line) :: c.calls }
      return .call name given
    | .builtin name =>
      advance
      let given ← arguments n
      if let some (least, most) := builtins.lookup name then
        if given.length < least || most < given.length then
          complainAt line ("wrong number of arguments in call to " ++ name)
      return .builtin name given
    | .word "length" =>
      advance
      if ← accept "(" then
        if ← accept ")" then return .builtin "length" []
        else
          let e ← redirecting false (expression n)
          expect ")"
          return .builtin "length" [e]
      else return .builtin "length" []
    | .word "split" =>
      advance
      expect "("
      redirecting false do
        let e ← expression n
        expect ","
        skipLines
        let table ← tableName
        if ← accept "," then
          skipLines
          let separator ← expression n
          expect ")"
          return .builtin "split" [e, .named table, separator]
        else
          expect ")"
          return .builtin "split" [e, .named table]
    | .word "match" =>
      advance
      expect "("
      redirecting false do
        let e ← expression n
        expect ","
        skipLines
        let p ← expression n
        expect ")"
        return .builtin "match" [e, p]
    | .word "getline" =>
      advance
      let target ← target? n
      if ← accept "<" then return .read (.file (← raised n)) target
      else return .read .input target
    | .word w =>
      if w = "sub" || w = "gsub" then
        advance
        expect "("
        redirecting false do
          let p ← expression n
          expect ","
          skipLines
          let replacement ← expression n
          if ← accept "," then
            skipLines
            match ← target? n with
            | none => refuse
            | some target =>
              expect ")"
              return .builtin w [p, replacement, target]
          else
            expect ")"
            return .builtin w [p, replacement]
      else refuse
    | .symbol "(" =>
      advance
      redirecting false do
        let first ← expression n
        if ← accept "," then
          skipLines
          let rest ← items n ")"
          expect "in"
          return .within (first :: rest) (← tableName)
        else
          expect ")"
          return .group first
    | .symbol "$" =>
      advance
      let t ← peek
      if t.is "-" || t.is "+" || t.is "!" then return .field (← signed n)
      else return .field (← primary n)
    | .symbol "++" | .symbol "--" =>
      advance
      let e ← primary n
      if isTarget e then return .step e (token.is "++") true else refuse
    | _ => refuse

end

def terminator : Parse Unit := do
  match ← peek with
  | .lineEnd =>
    advance
    skipLines
  | .finish => return
  | t =>
    if t.is ";" then
      advance
      skipLines
    else unless t.is closing do refuse

def atTerminator : Parse Bool := do
  match ← peek with
  | .lineEnd | .finish => return true
  | t => return t.is ";" || t.is closing

/-- What follows the parentheses that are open. -/
def afterParentheses : Nat → List Located → Option Token
  | _, [] => none
  | depth, t :: rest =>
    if t.token.is "(" then afterParentheses (depth + 1) rest
    else if t.token.is ")" then
      if depth = 0 then rest.head?.map Located.token else afterParentheses (depth - 1) rest
    else afterParentheses depth rest

def outputItems (n : Nat) : Parse (List Expr) := do
  let stops (t : Token) : Bool := match t with
    | .lineEnd | .finish => true
    | t => t.is ";" || t.is closing || t.is ">" || t.is ">>" || t.is "|"
  let after := afterParentheses 0 ((← get).tokens.drop 1)
  if stops (← peek) then return []
  else if (← nextIs "(") && after.any stops then arguments n
  else
    redirecting true do
      let rec more : Nat → Parse (List Expr)
        | 0 => refuse
        | k + 1 => do
          let first ← expression n
          if ← accept "," then
            skipLines
            return first :: (← more k)
          else return [first]
      more n

def outlet (n : Nat) : Parse Outlet := do
  if ← accept ">" then return .file (← redirecting true (expression n)) false
  else if ← accept ">>" then return .file (← redirecting true (expression n)) true
  else if ← accept "|" then return .command (← redirecting true (expression n))
  else return .output

def simple (n : Nat) : Parse Statement := do
  let { token, line } ← current
  match token with
  | .word "print" =>
    advance
    let given ← outputItems n
    return .print given (← outlet n)
  | .word "printf" =>
    advance
    let given ← outputItems n
    if given.isEmpty then complainAt line "no arguments in call to printf"
    return .format given (← outlet n)
  | .word "delete" =>
    advance
    let table ← tableName
    if ← accept "[" then return .delete table (← items n "]")
    else return .clear table
  | .word "next" =>
    if (← get).outside then complainHere "improper use of next"
    advance
    return .nextRecord
  | .word "nextfile" =>
    if (← get).outside then complainHere "improper use of nextfile"
    advance
    return .nextFile
  | .word "exit" =>
    advance
    if ← atTerminator then return .exit none else return .exit (some (← expression n))
  | .word "return" =>
    unless (← get).inFunction do complainHere "return outside function body"
    advance
    if ← atTerminator then return .giveBack none else return .giveBack (some (← expression n))
  | .word "break" =>
    if (← get).loops = 0 then complainHere "break statement outside of loop"
    advance
    return .leave
  | .word "continue" =>
    if (← get).loops = 0 then complainHere "continue statement outside of loop"
    advance
    return .again
  | _ => return .evaluate (← expression n)

def looping {α : Type} (x : Parse α) : Parse α := do
  modify fun c ↦ { c with loops := c.loops + 1 }
  let a ← x
  modify fun c ↦ { c with loops := c.loops - 1 }
  return a

mutual

def statement : Nat → Parse Statement
  | 0 => refuse
  | n + 1 => do
    let t ← peek
    if t.is opening then block n
    else if t.is ";" then
      advance
      skipLines
      return .block []
    else if ← accept "if" then
      expect "("
      let condition ← redirecting false (expression n)
      expect ")"
      skipLines
      let first ← statement n
      let before := (← get).tokens
      skipLines
      if ← accept "else" then
        skipLines
        return .branch condition first (some (← statement n))
      else
        modify ({ · with tokens := before })
        return .branch condition first none
    else if ← accept "while" then
      expect "("
      let condition ← redirecting false (expression n)
      expect ")"
      if ← accept ";" then
        return .loop condition (.block [])
      skipLines
      return .loop condition (← looping (statement n))
    else if ← accept "do" then
      skipLines
      let body ← looping (statement n)
      skipLines
      expect "while"
      expect "("
      let condition ← redirecting false (expression n)
      expect ")"
      terminator
      return .loopUntil body condition
    else if ← accept "for" then counted n
    else
      let s ← simple n
      terminator
      return s

def counted : Nat → Parse Statement
  | 0 => refuse
  | n + 1 => do
    expect "("
    let tokens := (← get).tokens
    match tokens.map Located.token with
    | .name key :: .word "in" :: .name _ :: .symbol ")" :: _ =>
      let key ← use key false
      advance
      advance
      let table ← tableName
      expect ")"
      skipLines
      return .forEach (.named key) table (← looping (statement n))
    | _ =>
      let start ← if ← nextIs ";" then pure none else some <$> redirecting false (simple n)
      expect ";"
      skipLines
      let condition ← if ← nextIs ";" then pure none else some <$> redirecting false (expression n)
      expect ";"
      skipLines
      let next ← if ← nextIs ")" then pure none else some <$> redirecting false (simple n)
      expect ")"
      if ← accept ";" then return .count start condition next (.block [])
      skipLines
      return .count start condition next (← looping (statement n))

def block : Nat → Parse Statement
  | 0 => refuse
  | n + 1 => do
    expect opening
    skipLines
    return .block (← statements n)

def statements : Nat → Parse (List Statement)
  | 0 => refuse
  | n + 1 => do
    skipLines
    if ← accept closing then return []
    match ← current with
    | { token := .finish, line } =>
      throw ((← get).complaints ++
        [{ line := line + 1, message := "missing \x7d near end of file" }])
    | _ =>
      let first ← statement n
      return first :: (← statements n)

end

def parameters : Nat → Parse (List String)
  | 0 => refuse
  | n + 1 => do
    match ← peek with
    | .name name =>
      if (← get).parameters.contains name then
        complainHere (name ++ " is duplicated in argument list")
      modify fun c ↦ { c with parameters := c.parameters ++ [name] }
      advance
      if ← accept "," then
        skipLines
        return name :: (← parameters n)
      else
        expect ")"
        return [name]
    | _ => refuse

def function (n : Nat) : Parse Unit := do
  match ← peek with
  | .function name =>
    if ((← get).functions.lookup name).isSome then complainHere ("redefinition of " ++ name)
    advance
    expect "("
    modify ({ · with parameters := [], parameterKinds := [], inFunction := true, outside := true })
    let given ← if ← accept ")" then pure [] else parameters n
    skipLines
    let body ← block n
    modify fun c ↦
      { c with
        functions := c.functions ++ [(name, { parameters := given, body })]
        parameters := [], parameterKinds := [], inFunction := false, outside := false }
  | _ => refuse

def separator : Parse Unit := do
  let _ ← accept ";"
  skipLines

def action (n : Nat) (outside : Bool) : Parse Statement := do
  modify ({ · with outside })
  let s ← block n
  modify ({ · with outside := false })
  return s

/-- Reads a condition and what is done under it. -/
def rule (n : Nat) (p : Program) : Parse Program := do
  if ← accept "BEGIN" then
    return { p with start := p.start ++ [← action n true] }
  else if ← accept "END" then
    return { p with finish := p.finish ++ [← action n true] }
  else if ← accept "function" then
    function n
    return p
  else
    let condition : Condition ←
      if ← nextIs opening then pure .always
      else
        let first ← expression n
        if ← accept "," then
          skipLines
          let last ← expression n
          let number := (← get).ranges
          modify fun c ↦ { c with ranges := number + 1 }
          pure (.range number first last)
        else pure (.holds first)
    if ← nextIs opening then
      return { p with rules := p.rules ++ [{ condition, action := ← action n false }] }
    else
      match ← peek with
      | .lineEnd | .finish => pure ()
      | t => unless t.is ";" do refuse
      return { p with rules := p.rules ++ [{ condition, action := .print [] .output }] }

def rules (n : Nat) : Nat → Program → Parse Program
  | 0, p => return p
  | k + 1, p => do
    match ← peek with
    | .finish => return p
    | _ =>
      let p ← rule n p
      separator
      rules n k p

def whole (n : Nat) : Parse Program := do
  skipLines
  let p ← rules n n {}
  let c ← get
  let line := (← current).line + 1
  -- Calls are checked when all functions are known.
  for (name, count, place) in c.calls.reverse do
    if let some f := c.functions.lookup name then
      if f.parameters.length < count then
        complainAt place ("too many arguments in call to " ++ name)
  let complaints := (← get).complaints
  unless complaints.isEmpty do throw complaints
  let missing := (c.calls.map (·.1)).eraseDups.filter fun name ↦ (c.functions.lookup name).isNone
  for name in missing do complainAt line ("function " ++ name ++ " never defined")
  let complaints := (← get).complaints
  unless complaints.isEmpty do throw complaints
  return { p with functions := c.functions, ranges := c.ranges }

end Parse

def knownKinds : List (String × Bool) :=
  [("ENVIRON", true), ("ARGV", true)] ++
    ["NF", "NR", "FNR", "FS", "OFS", "ORS", "RS", "FILENAME", "SUBSEP", "RSTART", "RLENGTH",
      "CONVFMT", "OFMT", "ARGC"].map (·, false)

/-- Reads a whole program, or says what is wrong with it. -/
def parse (text : String) : Except (List Complaint) Program :=
  let (tokens, complaints) := tokensOf text
  let fuel := 12 * tokens.length + 40
  match (Parse.whole fuel).run { tokens, complaints, kinds := knownKinds } with
  | .ok (p, _) => .ok p
  | .error complaints => .error complaints

end RegisterLang.Tool.Record
