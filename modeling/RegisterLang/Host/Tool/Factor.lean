import RegisterLang.Host.Tool.Options

namespace RegisterLang.Tool.Factor

def powerMod (modulus : Nat) : Nat → (base exponent result : Nat) → Nat
  | 0, _, _, result => result
  | fuel + 1, base, exponent, result =>
    if exponent = 0 then result
    else
      powerMod modulus fuel (base * base % modulus) (exponent / 2)
        (if exponent % 2 = 1 then result * base % modulus else result)

def oddPart : Nat → Nat → Nat → Nat × Nat
  | 0, n, twos => (n, twos)
  | fuel + 1, n, twos => if n % 2 = 0 then oddPart fuel (n / 2) (twos + 1) else (n, twos)

def reachesMinusOne (n : Nat) : Nat → Nat → Bool
  | 0, _ => false
  | count + 1, x => x = n - 1 || reachesMinusOne n count (x * x % n)

def bases : List Nat :=
  [2, 3, 5, 7, 11, 13, 17, 19, 23, 29, 31, 37, 41, 43, 47, 53, 59, 61, 67, 71, 73, 79, 83, 89]

/-- Tests to several bases, once none of them divides the number. -/
def isPrime (n : Nat) : Bool :=
  if n < 2 then false
  else if bases.contains n then true
  else if bases.any fun b ↦ n % b = 0 then false
  else
    let size := Nat.log2 n + 1
    let (odd, twos) := oddPart size (n - 1) 0
    bases.all fun b ↦
      let x := powerMod n size b odd 1
      x = 1 || reachesMinusOne n twos x

def divideOut : Nat → (n divisor : Nat) → List Nat → List Nat × Nat
  | 0, n, _, found => (found, n)
  | fuel + 1, n, divisor, found =>
    if n < divisor * divisor then if n = 1 then (found, 1) else (n :: found, 1)
    else if n % divisor = 0 then divideOut fuel (n / divisor) divisor (divisor :: found)
    else divideOut fuel n (if divisor = 2 then 3 else divisor + 2) found

/-- A walk of two steps at a time and one at a time, until they meet for a factor. -/
def walk (n c : Nat) : Nat → (slow fast : Nat) → Option Nat
  | 0, _, _ => none
  | fuel + 1, slow, fast =>
    let step (x : Nat) : Nat := (x * x + c) % n
    let slow := step slow
    let fast := step (step fast)
    let d := Nat.gcd (if slow < fast then fast - slow else slow - fast) n
    if d = n then none else if d = 1 then walk n c fuel slow fast else some d

def split? (n : Nat) : Option Nat :=
  (List.range 20).findSome? fun c ↦ walk n (c + 1) 4194304 2 2

def splitAll : Nat → Nat → List Nat
  | 0, n => [n]
  | fuel + 1, n =>
    if n = 1 then []
    else if isPrime n then [n]
    else
      match split? n with
      | some d => splitAll fuel d ++ splitAll fuel (n / d)
      | none => [n]

/-- All prime factors: small ones by trial, the others by walks. -/
def factors (n : Nat) : List Nat :=
  if n < 2 then []
  else
    let (found, rest) := divideOut 2500 n 2 []
    (found ++ splitAll 64 rest).mergeSort (· ≤ ·)

def powers : List Nat → List (Nat × Nat)
  | [] => []
  | p :: rest =>
    match powers rest with
    | (q, k) :: more => if p = q then (q, k + 1) :: more else (p, 1) :: (q, k) :: more
    | [] => [(p, 1)]

def describe (exponents : Bool) (n : Nat) : String :=
  let parts := if exponents then
      (powers (factors n)).map fun (p, k) ↦
        toString p ++ if k = 1 then "" else "^" ++ toString k
    else (factors n).map toString
  toString n ++ ":" ++ String.join (parts.map (" " ++ ·)) ++ "\n"

def treat (exponents : Bool) (text : String) : Tool Bool := do
  let cs := text.toList.dropWhile (· = ' ')
  let digits := match cs with
    | '+' :: rest => rest
    | _ => cs
  if !digits.isEmpty && digits.all Char.isDigit then
    say (describe exponents (digits.foldl (fun n c ↦ n * 10 + (c.toNat - '0'.toNat)) 0))
    return true
  else
    reportAhead ((← get).name ++ ": " ++ cited text ++ " is not a valid positive integer\n")
    return false

def main (args : List String) : Tool Nat := do
  let (found, operands) ← options
    { short := "h", long := OptionTable.plain [("exponents", "h")] } args
  if !operands.isEmpty then forAll operands (treat (found.has "h"))
  else
    let isBlank (c : Char) : Bool := c = ' ' || c = '\t' || c = '\n'
    iterate (fun (status : Nat) ↦ do
      match ← nextLine with
      | .error fault => fail 1 ("read error: " ++ fault.describe)
      | .ok none => return .inr status
      | .ok (some (line, _)) =>
        let words := (line.toList.splitBy fun a b ↦ isBlank a = isBlank b).filter fun w ↦
          !(w.headD ' ' |> isBlank)
        let more ← forAll (words.map String.ofList) (treat (found.has "h"))
        return .inl (max status more)) 0

end RegisterLang.Tool.Factor
