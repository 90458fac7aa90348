import RegisterLang.Host.Shell.Format
import RegisterLang.Host.Tool.Options

namespace RegisterLang.Tool.Sequence

open Shell.Format (Directive)

/-- A number, with the width and the decimals in which it was written. -/
structure Operand where
  value : Real.Value
  width : Nat := 0
  places : Option Nat := none

def Operand.one : Operand := { value := .ofInt 1, width := 1, places := some 0 }

def exponentOf (cs : List Char) : Int :=
  let size (digits : List Char) : Int := Real.readDigits 10 (digits.takeWhile Char.isDigit)
  match cs with
  | '-' :: digits => -size digits
  | '+' :: digits => size digits
  | digits => size digits

def spelledSize (cs : List Char) : Nat × Option Nat :=
  let hasPoint := cs.contains '.'
  let places : Option Nat := if !hasPoint && !cs.contains 'p' then some 0 else none
  if cs.any fun c ↦ c = 'x' || c = 'X' then (0, places)
  else
    let isExponent (c : Char) : Bool := c = 'e' || c = 'E'
    let front := cs.takeWhile (· ≠ '.')
    let fraction := ((cs.drop (front.length + 1)).takeWhile (!isExponent ·)).length
    let width : Int := cs.length
    let (width, places) : Int × Option Nat := if hasPoint then
        (if fraction = 0 then width - 1
          else if (front.getLast?.all (!·.isDigit)) then width + 1 else width,
          some fraction)
      else (width, places)
    let mantissa := cs.takeWhile (!isExponent ·)
    if mantissa.length = cs.length then (width.toNat, places)
    else
      let exponent := exponentOf (cs.drop (mantissa.length + 1))
      let p : Nat := places.getD 0
      let places' : Nat := if exponent < 0 then p + exponent.natAbs else p - min p exponent.natAbs
      let width := width - (cs.length - mantissa.length)
      let (width, shift) : Int × Nat := if exponent < 0 then
          (if hasPoint then (if front.length + 1 = mantissa.length then width + 1 else width)
            else width + 1, exponent.natAbs)
        else
          (if hasPoint && places' = 0 && fraction ≠ 0 then width - 1 else width,
            exponent.natAbs - min fraction exponent.natAbs)
      ((width + shift).toNat, some places')

def readOperand (text : String) : Tool Operand := do
  let cs := text.toList.dropWhile fun c ↦ c = ' ' || ('\t' ≤ c && c ≤ '\r') || c = '+'
  match Real.read? text.toList with
  | some (v, []) =>
    match v with
    | .undefined _ => failWithHelp 1 ("invalid 'not-a-number' argument: " ++ cited text)
    | .infinite _ =>
      let (_, places) := spelledSize cs
      return { value := v, places }
    | .finite _ _ _ =>
      let (width, places) := spelledSize cs
      return { value := v.roundTo Real.extended, width, places }
  | _ => failWithHelp 1 ("invalid floating point argument: " ++ cited text)

structure Layout where
  before : String := ""
  after : String := ""
  directive : Directive

def literal : List Char → List Char → List Char × List Char
  | '%' :: '%' :: cs, done => literal cs ('%' :: done)
  | '%' :: cs, done => (done.reverse, '%' :: cs)
  | c :: cs, done => literal cs (c :: done)
  | [], done => (done.reverse, [])

def readFormat (text : String) : Tool Layout := do
  let wrong (reason : String) : Tool Layout := fail 1 ("format " ++ cited text ++ " " ++ reason)
  let (before, rest) := literal text.toList []
  match rest with
  | [] => wrong "has no % directive"
  | _ :: cs =>
    let flags := cs.takeWhile "-+#0 '".toList.contains
    let cs := cs.drop flags.length
    let width := cs.takeWhile Char.isDigit
    let cs := cs.drop width.length
    let (precision, cs) := match cs with
      | '.' :: more =>
        let digits := more.takeWhile Char.isDigit
        (some (Real.readDigits 10 digits), more.drop digits.length)
      | _ => (none, cs)
    let cs := match cs with
      | 'L' :: more => more
      | _ => cs
    match cs with
    | [] => wrong "ends in %"
    | letter :: cs =>
      if !"efgaEFGA".toList.contains letter then
        wrong ("has unknown %" ++ letter.toString ++ " directive")
      else
        let (after, rest) := literal cs []
        if !rest.isEmpty then wrong "has too many % directives"
        else
          return {
            before := String.ofList before, after := String.ofList after
            directive := { flags, width := Real.readDigits 10 width, precision, letter } }

/-- As many decimals as the operands have, and one width if that is wanted. -/
def usualLayout (equalWidth : Bool) (first step last : Operand) : Layout :=
  match first.places, step.places, last.places with
  | some p, some q, some r =>
    let places := max p q
    if equalWidth then
      let firstWidth := first.width + (places - p) + (if p = 0 && places ≠ 0 then 1 else 0)
      let lastWidth : Int := (last.width : Int) + ((places : Int) - r)
        - (if r ≠ 0 && places = 0 then 1 else 0) + (if r = 0 && places ≠ 0 then 1 else 0)
      { directive :=
          { flags := ['0'], width := max firstWidth lastWidth.toNat, precision := some places
            letter := 'f' } }
    else { directive := { flags := [], width := 0, precision := some places, letter := 'f' } }
  | _, _, _ => { directive := { flags := [], width := 0, precision := none, letter := 'g' } }

def Layout.number (l : Layout) (v : Real.Value) : String := l.directive.real Real.extended v

def batch : Nat := 500

/-- Whether a number lies past the last one, in the direction of the steps. -/
def isBeyond (step last x : Real.Value) : Bool :=
  if step.isNegative then x.less last else last.less x

def more (l : Layout) (separator : String) (first step last : Real.Value) :
    Nat → Nat → Real.Value → List String → List String × Option (Nat × Real.Value)
  | 0, i, x, done => (done, some (i, x))
  | n + 1, i, x, done =>
    let next := (first.add ((step.times i).roundTo Real.extended)).roundTo Real.extended
    let done := (l.before ++ l.number x ++ l.after) :: done
    if isBeyond step last next then
      let text := l.number next
      let isLast := match Real.read? text.toList with
        | some (v, []) =>
          let v := v.roundTo Real.extended
          !v.less last && !last.less v && l.number x ≠ text
        | _ => false
      if isLast then ((separator ++ l.before ++ text ++ l.after) :: done, none) else (done, none)
    else more l separator first step last n (i + 1) next (separator :: done)

def writeReals (l : Layout) (separator : String) (first step last : Real.Value) : Tool Unit := do
  if isBeyond step last first then return
  iterate (fun ((i, x) : Nat × Real.Value) ↦ do
    let (texts, rest) := more l separator first step last batch i x []
    say (String.join texts.reverse)
    return match rest with
      | some next => .inl next
      | none => .inr ()) (1, first)
  say "\n"

def writeIntegers (width : Nat) (separator : String) (first step : Int) (last : Option Int) :
    Tool Unit := do
  let inside (n : Int) : Bool :=
    match last with
    | some last => if step < 0 then last ≤ n else n ≤ last
    | none => true
  let spelled (n : Int) : String :=
    if n < 0 then "-" ++ Text.padLeft (width - 1) '0' (toString n.natAbs)
    else Text.padLeft width '0' (toString n)
  if !inside first then return
  iterate (fun (start : Int) ↦ do
    let numbers := ((List.range batch).map fun (i : Nat) ↦ start + step * (i : Int)).filter inside
    say (String.join (numbers.map fun n ↦ if n = first then spelled n else separator ++ spelled n))
    let next := start + step * (batch : Int)
    return if inside next then .inl next else .inr ()) first
  say "\n"

def integer? (o : Operand) : Option Int :=
  match o.value, o.places with
  | .finite negative a 1, some 0 => some (if negative then -Int.ofNat a else a)
  | .finite negative a b, some 0 =>
    if b ≠ 0 && a % b = 0 then some (if negative then -Int.ofNat (a / b) else a / b) else none
  | _, _ => none

def guardNumbers : List String → List String
  | [] => []
  | arg :: rest =>
    match arg.toList with
    | '-' :: c :: _ =>
      if c = '.' || c.isDigit then "--" :: arg :: rest
      else if ["-s", "-f", "--separator", "--format", "-ws", "-wf"].contains arg then
        match rest with
        | value :: rest => arg :: value :: guardNumbers rest
        | [] => [arg]
      else if arg = "--" then arg :: rest
      else arg :: guardNumbers rest
    | _ => arg :: rest

def table : OptionTable :=
  { short := "f:s:w", ordered := true
    long := OptionTable.plain [("equal-width", "w")] ++
      OptionTable.valued [("format", "f"), ("separator", "s")] }

def main (args : List String) : Tool Nat := do
  let (found, operands) ← options table (guardNumbers args)
  let separator := (found.value? "s").getD "\n"
  if operands.isEmpty then missingOperand
  if let _ :: _ :: _ :: extra :: _ := operands then extraOperand extra
  let layout? ← (found.value? "f").mapM readFormat
  if layout?.isSome && found.has "w" then
    failWithHelp 1 "format string may not be specified when printing equal width strings"
  let digits (text : String) : Bool := !text.isEmpty && text.toList.all Char.isDigit
  if operands.all digits && layout?.isNone && !found.has "w" then
    let numbers := operands.map fun text ↦ Int.ofNat (Real.readDigits 10 text.toList)
    match numbers with
    | [last] => writeIntegers 0 separator 1 1 (some last); return 0
    | [first, last] => writeIntegers 0 separator first 1 (some last); return 0
    | [first, step, last] =>
      if step ≠ 0 then
        writeIntegers 0 separator first step (some last)
        return 0
    | _ => pure ()
  let (first, step, last) ← match operands with
    | [last] => do pure (Operand.one, Operand.one, ← readOperand last)
    | [first, last] => do pure (← readOperand first, Operand.one, ← readOperand last)
    | first :: step :: last :: _ => do
      let f ← readOperand first
      let s ← readOperand step
      if !s.value.less .zero && !Real.Value.zero.less s.value then
        failWithHelp 1 ("invalid Zero increment value: " ++ cited step)
      pure (f, s, ← readOperand last)
    | [] => missingOperand
  let usual := usualLayout (found.has "w") first step last
  match layout?, integer? first, integer? step with
  | none, some f, some s =>
    match integer? last, last.value with
    | some l, _ => writeIntegers usual.directive.width separator f s (some l); return 0
    | none, .infinite negative =>
      if negative = (s < 0 : Bool) then writeIntegers 0 separator f s none
      return 0
    | _, _ => writeReals usual separator first.value step.value last.value; return 0
  | _, _, _ =>
    writeReals (layout?.getD usual) separator first.value step.value last.value
    return 0

end RegisterLang.Tool.Sequence
