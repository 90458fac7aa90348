import RegisterLang.Host.Shell.Arithmetic
import RegisterLang.Host.Shell.Process

namespace RegisterLang.Shell.Test

def isUnary (text : String) : Bool :=
  ["-r", "-w", "-x", "-e", "-f", "-d", "-c", "-b", "-p", "-u", "-g", "-k", "-s", "-t", "-z", "-n",
    "-h", "-L", "-O", "-G", "-S"].contains text

def isBinary (text : String) : Bool :=
  ["=", "!=", "<", ">", "-eq", "-ne", "-gt", "-ge", "-lt", "-le", "-nt", "-ot", "-ef"].contains text

/-- What a word is in a condition, by the words around it. -/
inductive Role where
  | missing
  | operand
  | unary
  | binary
  | negation
  | conjunction
  | disjunction
  | openParen
  | closeParen
  deriving DecidableEq

def role : List String → Role
  | [] => .missing
  | text :: rest =>
    if isUnary text then
      match rest with
      | [] => .operand
      | next :: after => if !after.isEmpty && isBinary next then .operand else .unary
    else if isBinary text then .binary
    else
      match text with
      | "!" => .negation
      | "-a" => .conjunction
      | "-o" => .disjunction
      | "(" => if rest.isEmpty then .operand else .openParen
      | ")" => .closeParen
      | _ => .operand

def senseless {α : Type} (subject reason : String) : Run α :=
  refuse (if subject.isEmpty then reason else subject ++ ": " ++ reason)

def number (text : String) : Run Int := do
  let cs := text.toList.dropWhile Arithmetic.isSpace
  let (negative, digits) := match cs with
    | '-' :: rest => (true, rest)
    | '+' :: rest => (false, rest)
    | _ => (false, cs)
  match Arithmetic.takeDigits 10 none digits with
  | (some n, rest) =>
    let value : Int := if negative then -Int.ofNat n else n
    if rest.all Arithmetic.isSpace && (Arithmetic.saturate value).toInt = value then return value
    else refuse ("Illegal number: " ++ text)
  | (none, _) => refuse ("Illegal number: " ++ text)

def target? (path : String) (follow : Bool := true) : Run (Option (Node × Channel)) :=
  Strand.ask fun id s ↦ ((s.target id (Octet.toText path) follow).toOption).map (·.2)

def unary (op operand : String) : Run Bool := do
  match op with
  | "-n" => return !operand.isEmpty
  | "-z" => return operand.isEmpty
  | "-t" => let _ ← number operand; return false
  | _ =>
    match ← target? operand (op ≠ "-h" && op ≠ "-L") with
    | none => return false
    | some (node, _) =>
      let bit (n : Nat) : Bool := node.mode / n % 2 = 1
      match op, node.content with
      | "-e", _ => return true
      | "-r", _ => return node.allows .read
      | "-w", _ => return node.allows .write
      | "-x", _ => return node.allows .execute
      | "-O", _ | "-G", _ => return node.owned
      | "-d", .directory => return true
      | "-f", .file _ => return true
      | "-c", .device _ => return true
      | "-p", .pipe _ => return true
      | "-h", .link _ | "-L", .link _ => return true
      | "-s", .file bytes => return !bytes.isEmpty
      | "-s", .directory => return true
      | "-u", _ => return bit 2048
      | "-g", _ => return bit 1024
      | "-k", _ => return bit 512
      | _, _ => return false

def isNewer (a b : String) : Run Bool := do
  match ← target? a, ← target? b with
  | some (x, _), some (y, _) => return y.modified < x.modified
  | _, _ => return false

def binary (op a b : String) : Run Bool := do
  match op with
  | "=" => return a = b
  | "!=" => return a ≠ b
  | "<" => return a < b
  | ">" => return b < a
  | "-nt" => isNewer a b
  | "-ot" => isNewer b a
  | "-ef" =>
    match ← target? a, ← target? b with
    | some (_, x), some (_, y) => return x = y
    | _, _ => return false
  | _ =>
    let x ← number a
    let y ← number b
    match op with
    | "-eq" => return x = y
    | "-ne" => return x ≠ y
    | "-lt" => return x < y
    | "-le" => return x ≤ y
    | "-gt" => return y < x
    | _ => return y ≤ x

abbrev Result := Bool × List String

mutual

def primary : Nat → Role → List String → Run Result
  | 0, _, args => return (false, args)
  | n + 1, role, args => do
    match role, args with
    | .missing, _ => return (false, args)
    | .openParen, _ :: rest =>
      match Test.role rest with
      | .closeParen => return (false, rest)
      | first =>
        let (result, rest) ← disjunction n first rest
        match Test.role rest.tail with
        | .closeParen => return (result, rest.tail)
        | _ => senseless "" "closing paren expected"
    | .unary, op :: rest =>
      match rest with
      | [] => senseless op "argument expected"
      | operand :: _ => return (← unary op operand, rest)
    | _, a :: rest =>
      match Test.role rest, rest with
      | .binary, op :: after =>
        match after with
        | [] => senseless op "argument expected"
        | b :: _ => return (← binary op a b, after)
      | _, _ => return (!a.isEmpty, args)
    | _, [] => return (false, [])

def negation : Nat → Role → List String → Run Result
  | 0, _, args => return (false, args)
  | n + 1, role, args => do
    if role = .negation then
      let next := Test.role args.tail
      let (result, rest) ← negation n next (if next = .missing then args else args.tail)
      return (!result, rest)
    else primary n role args

def conjunction : Nat → Role → List String → Run Result
  | 0, _, args => return (false, args)
  | n + 1, role, args => do
    let (a, rest) ← negation n role args
    if Test.role rest.tail = .conjunction then
      let after := rest.drop 2
      let (b, rest) ← conjunction n (Test.role after) after
      return (a && b, rest)
    else return (a, rest)

def disjunction : Nat → Role → List String → Run Result
  | 0, _, args => return (false, args)
  | n + 1, role, args => do
    let (a, rest) ← conjunction n role args
    if Test.role rest.tail = .disjunction then
      let after := rest.drop 2
      let (b, rest) ← disjunction n (Test.role after) after
      return (a || b, rest)
    else return (a, rest)

end

def condition (role : Role) (args : List String) : Run Bool := do
  let (result, rest) ← disjunction (5 * args.length + 5) role args
  match rest with
  | subject :: _ :: _ => senseless subject "unexpected operator"
  | _ => return result

/-- Evaluates the arguments of `test`. Three or four of them are taken apart by rules of their own:
an operator for two operands between two others comes first, then parentheses around the rest, then
a negation. -/
def evaluate : Nat → List String → Run Bool
  | 0, _ => return false
  | _, [] => return false
  | n + 1, args => do
    match args with
    | [a, op, b] =>
      if isBinary op then condition .operand args
      else if a = "(" && b = ")" then condition (role [op]) [op]
      else if a = "!" then return !(← evaluate n [op, b])
      else condition (role args) args
    | [a, b, c, d] =>
      if a = "(" && d = ")" then condition (role [b, c]) [b, c]
      else if a = "!" then return !(← evaluate n [b, c, d])
      else condition (role args) args
    | _ => condition (role args) args

end RegisterLang.Shell.Test
