import RegisterLang.Host.Tool.Options

namespace RegisterLang.Tool.Condition

structure State where
  all : List String
  rest : List String

/-- Reads the words of a condition, which are `all`, from left to right. -/
abbrev Reader := StateT State Tool

def cannot {α : Type} (message : String) : Reader α := do fail 2 message

def beyond {α : Type} : Reader α := do
  cannot ("missing argument after " ++ cited ((← get).all.getLastD ""))

def advance : Reader Unit := modify fun s ↦ { s with rest := s.rest.tail }

def advanceOn : Reader Unit := do
  advance
  if (← get).rest.isEmpty then beyond

def isBinary (text : String) : Bool :=
  ["=", "!=", "==", "-nt", "-ot", "-ef", "-eq", "-ne", "-lt", "-le", "-gt", "-ge"].contains text

def isUnary (text : String) : Bool :=
  match text.toList with
  | ['-', _] => true
  | _ => false

def integer (text : String) : Reader Int := do
  let blank (c : Char) : Bool := c = ' ' || c = '\t'
  let cs := text.toList.dropWhile blank
  let (negative, digits) := match cs with
    | '-' :: rest => (true, rest)
    | '+' :: rest => (false, rest)
    | _ => (false, cs)
  let number := digits.takeWhile Char.isDigit
  if number.isEmpty || !(digits.drop number.length).all blank then
    cannot ("invalid integer " ++ cited text)
  let n : Int := Real.readDigits 10 number
  return if negative then -n else n

def found? (path : String) (follow : Bool) : Tool (Option (Node × Channel)) :=
  Strand.ask fun id s ↦ ((s.target id (Octet.toText path) follow).toOption).map (·.2)

def target? (path : String) (follow : Bool := true) : Reader (Option (Node × Channel)) := do
  found? path follow

def value (text : String) (isLength : Bool) : Reader Int :=
  if isLength then return text.length else integer text

def binary (measured : Bool) : Reader Bool := do
  if measured then advance
  let rest := (← get).rest
  let a := rest.headD ""
  let op := rest.tail.headD ""
  advance
  advance
  let (b, isLength) ← match (← get).rest with
    | "-l" :: b :: _ => advance; pure (b, true)
    | b :: _ => pure (b, false)
    | [] => beyond
  advance
  let modified (path : String) : Reader (Option Nat) := do
    return (← target? path).map (·.1.modified)
  let later (x y : Option Nat) : Bool :=
    match x, y with
    | some x, some y => y < x
    | some _, none => true
    | none, _ => false
  match op with
  | "=" | "==" => return a = b
  | "!=" => return a ≠ b
  | "-nt" => return later (← modified a) (← modified b)
  | "-ot" => return later (← modified b) (← modified a)
  | "-ef" =>
    match ← target? a, ← target? b with
    | some (_, x), some (_, y) => return x = y
    | _, _ => return false
  | _ =>
    let x ← value a measured
    let y ← value b isLength
    match op with
    | "-eq" => return x = y
    | "-ne" => return x ≠ y
    | "-lt" => return x < y
    | "-le" => return x ≤ y
    | "-gt" => return y < x
    | _ => return y ≤ x

def unary : Reader Bool := do
  let op := (← get).rest.headD ""
  unless "ebcdfghkLnNOGprsStuwxz".toList.contains (op.toList.getLastD ' ') do
    cannot (cited op ++ ": unary operator expected")
  advanceOn
  let operand := (← get).rest.headD ""
  advance
  match op with
  | "-n" => return !operand.isEmpty
  | "-z" => return operand.isEmpty
  | "-t" => let _ ← integer operand; return false
  | _ =>
    match ← target? operand (op ≠ "-h" && op ≠ "-L") with
    | none => return false
    | some (node, _) =>
      let bit (n : Nat) : Bool := node.mode / n % 2 = 1
      match op, node.content with
      | "-e", _ => return true
      | "-r", _ => return node.allows .read
      | "-w", _ => return node.allows .write
      | "-x", _ => return node.allows .execute
      | "-O", _ | "-G", _ => return node.owned
      | "-N", _ => return node.accessed < node.modified
      | "-d", .directory => return true
      | "-f", .file _ => return true
      | "-c", .device _ => return true
      | "-p", .pipe _ => return true
      | "-h", .link _ | "-L", .link _ => return true
      | "-s", .file bytes => return !bytes.isEmpty
      | "-s", .directory => return true
      | "-u", _ => return bit 2048
      | "-g", _ => return bit 1024
      | "-k", _ => return bit 512
      | _, _ => return false

def one : Reader Bool := do
  let text := (← get).rest.headD ""
  advance
  return !text.isEmpty

def two : Reader Bool := do
  let text := (← get).rest.headD ""
  if text = "!" then
    advance
    return !(← one)
  else if isUnary text then unary
  else beyond

mutual

/-- A condition of any length. Up to four words have a reading of their own. -/
def several : Nat → Nat → Reader Bool
  | 0, _ => return false
  | n + 1, count => do
    match count, (← get).rest with
    | 1, _ => one
    | 2, _ => two
    | 3, _ => three n
    | 4, a :: _ :: _ :: d :: _ =>
      if a = "!" then
        advance
        return !(← three n)
      else if a = "(" && d = ")" then
        advance
        let result ← two
        advance
        return result
      else disjunction n
    | _, _ => disjunction n

def three : Nat → Reader Bool
  | 0 => return false
  | n + 1 => do
    match (← get).rest with
    | a :: op :: c :: _ =>
      if isBinary op then binary false
      else if a = "!" then
        advance
        return !(← two)
      else if a = "(" && c = ")" then
        advance
        let result ← one
        advance
        return result
      else if op = "-a" || op = "-o" then disjunction n
      else cannot (cited op ++ ": binary operator expected")
    | _ => beyond

def disjunction : Nat → Reader Bool
  | 0 => return false
  | n + 1 => do
    let a ← conjunction n
    if (← get).rest.head? = some "-o" then
      advance
      let b ← disjunction n
      return a || b
    else return a

def conjunction : Nat → Reader Bool
  | 0 => return false
  | n + 1 => do
    let a ← term n
    if (← get).rest.head? = some "-a" then
      advance
      let b ← conjunction n
      return a && b
    else return a

def term : Nat → Reader Bool
  | 0 => return false
  | n + 1 => do
    match (← get).rest with
    | [] => beyond
    | "!" :: _ =>
      advanceOn
      return !(← term n)
    | "(" :: _ =>
      advanceOn
      let rest := (← get).rest
      let inner := rest.findIdx (· = ")")
      let inner := if inner = 0 then 1 + rest.tail.findIdx (· = ")") else inner
      let result ← several n (if 4 < inner then rest.length else inner)
      match (← get).rest with
      | [] => cannot "')' expected"
      | ")" :: _ => advance; return result
      | other :: _ => cannot ("')' expected, found " ++ cited other)
    | a :: rest =>
      if a = "-l" && 3 ≤ rest.length && isBinary (rest.tail.headD "") then binary true
      else if 2 ≤ rest.length && isBinary (rest.headD "") then binary false
      else if isUnary a then unary
      else one

end

def evaluate (args : List String) : Tool Nat := do
  if args.isEmpty then return 1
  let (result, s) ← (several (8 * args.length + 8) args.length).run { all := args, rest := args }
  if let extra :: _ := s.rest then fail 2 ("extra argument " ++ cited extra)
  return if result then 0 else 1

/-- A condition as a program of its own, in brackets or without them. -/
def main (brackets : Bool) (args : List String) : Tool Nat := do
  if !brackets then evaluate args
  else if args = ["--help"] || args = ["--version"] then return 0
  else if args.getLast? = some "]" then evaluate args.dropLast
  else fail 2 "missing ']'"

end RegisterLang.Tool.Condition
