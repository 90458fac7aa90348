import RegisterLang.Host.Tool.Record.Program

namespace RegisterLang.Tool.Record.Pattern

open Regex (OctetSet)

inductive Fault where
  | missingOperand
  | missingParenthesis
  | badClass
  | repeatedStart
  | badInterval
  deriving DecidableEq, Repr

def Fault.message : Fault → String
  | missingOperand => "missing operand"
  | missingParenthesis => "missing ')'"
  | badClass => "bad class -- [], [^] or ["
  | repeatedStart => "syntax error ^* or ^+"
  | badInterval => "bad interval expression"

def letter? : Char → Option Char
  | 'a' => some '\x07'
  | 'b' => some '\x08'
  | 'f' => some '\x0c'
  | 'n' => some '\n'
  | 'r' => some '\r'
  | 't' => some '\t'
  | 'v' => some '\x0b'
  | _ => none

def isOctal (c : Char) : Bool := '0' ≤ c && c ≤ '7'

def numbered? (cs : List Char) : Option (Char × List Char) :=
  let read (base : Nat) (digits : List Char) (rest : List Char) : Char × List Char :=
    (Char.ofNat (Real.readDigits base digits % 256), rest.drop digits.length)
  match cs with
  | 'x' :: rest =>
    let digits := (rest.take 2).takeWhile fun c ↦ (Real.digitValue? c).isSome
    if digits.isEmpty then none else some (read 16 digits rest)
  | _ =>
    let digits := (cs.take 3).takeWhile isOctal
    if digits.isEmpty then none else some (read 8 digits cs)

def escaped (cs : List Char) : Char × List Char :=
  match numbered? cs with
  | some found => found
  | none =>
    match cs with
    | [] => ('\\', [])
    | c :: rest => ((letter? c).getD c, rest)

def set : Nat → (isFirst : Bool) → OctetSet → List Char → Except Fault (OctetSet × List Char)
  | 0, _, _, _ | _, _, _, [] => .error .badClass
  | n + 1, isFirst, s, c :: cs =>
    if c = ']' && !isFirst then .ok (s, cs)
    else
      if c = '[' && cs.head? = some ':' then
        let name := (cs.drop 1).takeWhile Char.isAlpha
        let rest := cs.drop (1 + name.length)
        match Regex.classOf? (String.ofList name), rest with
        | some p, ':' :: ']' :: rest => set n false (s.union (.ofPredicate p)) rest
        | _, _ => .error .badClass
      else
        let (low, cs) := if c = '\\' then escaped cs else (c, cs)
        match cs with
        | '-' :: d :: rest =>
          if d = ']' then set n false (s.insert low.toNat.toUInt8) cs
          else
            let (high, rest) := if d = '\\' then escaped rest else (d, rest)
            set n false (s.union (.ofPredicate fun x ↦ low ≤ x && x ≤ high)) rest
        | _ => set n false (s.insert low.toNat.toUInt8) cs

def interval (cs : List Char) : Except Fault (Option (Nat × Option Nat × List Char)) :=
  let low := cs.takeWhile Char.isDigit
  let n := Real.readDigits 10 low
  match cs.drop low.length with
  | '}' :: rest => .ok (if low.isEmpty then none else some (n, some n, rest))
  | ',' :: rest =>
    let high := rest.takeWhile Char.isDigit
    let m := Real.readDigits 10 high
    match rest.drop high.length with
    | '}' :: rest =>
      if !high.isEmpty && m < n then .error .badInterval
      -- With two or more in front the rest makes no difference.
      else if 2 ≤ n then .ok (some (n, some n, rest))
      else if high.isEmpty then .ok (some (n, if low.isEmpty then some 0 else none, rest))
      else .ok (some (n, some m, rest))
    | _ => .ok none
  | _ => .ok none

def repetitions : Nat → Regex → List Char → Except Fault (Regex × List Char)
  | 0, r, cs => .ok (r, cs)
  | n + 1, r, cs =>
    let isStart := match r with
      | .anchor .textStart => true
      | _ => false
    match cs with
    | '*' :: rest =>
      if isStart then .error .repeatedStart else repetitions n (.many 0 none r) rest
    | '+' :: rest =>
      if isStart then .error .repeatedStart else repetitions n (.many 1 none r) rest
    | '?' :: rest => repetitions n (.many 0 (some 1) r) rest
    | '{' :: more =>
      match interval more with
      | .error fault => .error fault
      | .ok none => .ok (r, cs)
      | .ok (some (low, high, rest)) => repetitions n (.many low high r) rest
    | _ => .ok (r, cs)

mutual

/-- Reads branches up to the end or a closing parenthesis. -/
def alternatives : Nat → Nat → (lenient : Bool) → List Char → Except Fault (Regex × List Char)
  | 0, _, _, _ => .error .missingOperand
  | n + 1, depth, lenient, cs =>
    match branch n depth lenient true .empty cs with
    | .error fault => .error fault
    | .ok (first, '|' :: rest) =>
      match alternatives n depth lenient rest with
      | .error fault => .error fault
      | .ok (second, rest) => .ok (.either first second, rest)
    | .ok found => .ok found

def branch : Nat → Nat → (lenient isFirst : Bool) → Regex → List Char →
    Except Fault (Regex × List Char)
  | 0, _, _, _, _, _ => .error .missingOperand
  | n + 1, depth, lenient, isFirst, done, cs =>
    let go (r : Regex) (rest : List Char) : Except Fault (Regex × List Char) :=
      match repetitions (rest.length + 1) r rest with
      | .error fault => .error fault
      | .ok (r, rest) => branch n depth lenient false (if isFirst then r else .seq done r) rest
    let stop : Except Fault (Regex × List Char) :=
      if isFirst && !lenient then .error .missingOperand else .ok (done, cs)
    match cs with
    | [] => if depth = 0 then stop else .error .missingParenthesis
    | '|' :: _ => stop
    | ')' :: rest => if depth = 0 then go (.set (.single ')')) rest else stop
    | '(' :: rest =>
      match alternatives n (depth + 1) (lenient || !isFirst) rest with
      | .error fault => .error fault
      | .ok (r, ')' :: rest) => go r rest
      | .ok _ => .error .missingParenthesis
    | '*' :: rest | '+' :: rest | '?' :: rest =>
      if lenient then branch n depth lenient isFirst done rest else .error .missingOperand
    | '^' :: rest => go (.anchor .textStart) rest
    | '$' :: rest => go (.anchor .textEnd) rest
    | '.' :: rest => go (.set .all) rest
    | '[' :: rest =>
      let (negated, inside) := match rest with
        | '^' :: more => (true, more)
        | _ => (false, rest)
      match set (inside.length + 1) true .empty inside with
      | .error fault => .error fault
      | .ok (s, rest) => go (.set (if negated then s.complement else s)) rest
    | '\\' :: rest =>
      let (c, rest) := escaped rest
      go (.set (.single c)) rest
    | c :: rest => go (.set (.single c)) rest

end

def read (text : String) : Except Fault Pattern := do
  let cs := text.toList
  let (r, _) ← alternatives (2 * cs.length + 2) 0 cs.isEmpty cs
  return { text, matcher := Regex.compile r 0 }

end RegisterLang.Tool.Record.Pattern
