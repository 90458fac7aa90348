import RegisterLang.Text.Blank

namespace RegisterLang.Decimal

def digit? (c : Char) : Option Nat :=
  if '0' ≤ c && c ≤ '9' then some (c.toNat - '0'.toNat) else none

def readDigits (acc : Nat) : List Char → Option Nat
  | [] => some acc
  | c :: cs => (digit? c).bind fun d ↦ readDigits (acc * 10 + d) cs

def readNat? : List Char → Option Nat
  | [] => none
  | cs => readDigits 0 cs

def readInt? : List Char → Option Int
  | '-' :: cs => (readNat? cs).map fun n ↦ -(n : Int)
  | '+' :: cs => (readNat? cs).map Int.ofNat
  | cs => (readNat? cs).map Int.ofNat

def readInt64? (cs : List Char) : Option Int64 :=
  (readInt? cs).bind fun n ↦
    if Int64.minValue.toInt ≤ n ∧ n ≤ Int64.maxValue.toInt then some (Int64.ofInt n) else none

def readCount? (cs : List Char) : Option Nat :=
  let digits := match cs with
    | '+' :: rest => rest
    | _ => cs
  (readNat? digits).bind fun n ↦ if n < UInt64.size then some n else none

def writeInt64 (n : Int64) : String := toString n.toInt

def padZero (width n : Nat) : String := Text.padLeft width '0' (toString n)

end RegisterLang.Decimal
