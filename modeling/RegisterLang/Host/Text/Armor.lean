namespace RegisterLang

/-- Bytes in letters of a small alphabet, a group at a time. -/
structure Armor where
  alphabet : List Char
  bits : Nat
  group : Nat
  filled : Bool := false
  lowFirst : Bool := false
  salvages : Bool := true
  forbidden : List Char := []

namespace Armor

def upperLetters : List Char := "ABCDEFGHIJKLMNOPQRSTUVWXYZ".toList

def lowerLetters : List Char := "abcdefghijklmnopqrstuvwxyz".toList

def digits : List Char := "0123456789".toList

def base64 : Armor :=
  { alphabet := upperLetters ++ lowerLetters ++ digits ++ ['+', '/'], bits := 6, group := 4
    filled := true }

def base64url : Armor :=
  { base64 with
    alphabet := upperLetters ++ lowerLetters ++ digits ++ ['-', '_'], forbidden := ['+', '/'] }

def base32 : Armor :=
  { alphabet := upperLetters ++ "234567".toList, bits := 5, group := 8, filled := true
    salvages := false }

def base32hex : Armor := { base32 with alphabet := digits ++ upperLetters.take 22 }

def base16 : Armor := { alphabet := digits ++ upperLetters.take 6, bits := 4, group := 2 }

def base2 (lowFirst : Bool) : Armor := { alphabet := ['0', '1'], bits := 1, group := 8, lowFirst }

def width (a : Armor) : Nat := a.bits * a.group / 8

def base (a : Armor) : Nat := a.alphabet.length

def spread (base : Nat) : Nat → Nat → List Nat → List Nat
  | 0, _, done => done
  | count + 1, n, done => spread base count (n / base) (n % base :: done)

def gather (base : Nat) (values : List Nat) : Nat := values.foldl (fun n d ↦ n * base + d) 0

def encodeGroup (a : Armor) (bytes : List UInt8) : List Char :=
  let values := bytes.map UInt8.toNat
  let full := values ++ List.replicate (a.width - bytes.length) 0
  let used := (8 * bytes.length + a.bits - 1) / a.bits
  let places := spread a.base a.group (gather 256 full) []
  let places := if a.lowFirst then places.reverse else places
  (places.take used).map (fun d ↦ a.alphabet.getD d '?') ++
    if a.filled then List.replicate (a.group - used) '=' else []

def parts {α : Type} (size : Nat) : Nat → List α → List (List α)
  | 0, _ => []
  | n + 1, xs => if xs.isEmpty then [] else xs.take size :: parts size n (xs.drop size)

def encode (a : Armor) (bytes : List UInt8) : List Char :=
  (parts a.width (bytes.length + 1) bytes).flatMap a.encodeGroup

def value? (a : Armor) (c : Char) : Option Nat :=
  let i := a.alphabet.findIdx (· = c)
  if i < a.alphabet.length then some i else none

def decodeGroup (a : Armor) (cs : List Char) : List UInt8 × Bool :=
  let values := cs.map a.value?
  let known := (values.takeWhile Option.isSome).map (·.getD 0)
  let rest := cs.drop known.length
  let count := known.length * a.bits / 8
  let isFull :=
    cs.length = a.group && known.length = (8 * count + a.bits - 1) / a.bits && count ≠ 0 &&
    rest.all (· = '=') && (a.filled || rest.isEmpty)
  let full := known ++ List.replicate (a.group - known.length) 0
  let full := if a.lowFirst then full.reverse else full
  let bytes := (spread 256 a.width (gather a.base full) []).map Nat.toUInt8
  if cs.length < a.group && !a.salvages then ([], false) else (bytes.take count, isFull)

def decodeGroups (decodeOne : List Char → List UInt8 × Bool) : List (List Char) → List UInt8 × Bool
  | [] => ([], true)
  | g :: rest =>
    let (bytes, ok) := decodeOne g
    if ok then
      let (more, ok) := decodeGroups decodeOne rest
      (bytes ++ more, ok)
    else (bytes, false)

/-- Reads letters back, and tells whether all of them were proper. -/
def decode (a : Armor) (cs : List Char) : List UInt8 × Bool :=
  if cs.any a.forbidden.contains then ([], false)
  else decodeGroups a.decodeGroup (parts a.group (cs.length + 1) cs)

namespace Quint

def alphabet : List Char :=
  digits ++ lowerLetters ++ upperLetters ++ ".-:+=^!/*?&<>()[]\x7b\x7d@%$#".toList

def encode (bytes : List UInt8) : List Char :=
  (parts 4 (bytes.length + 1) bytes).flatMap fun group ↦
    (spread 85 5 (gather 256 (group.map UInt8.toNat)) []).map fun d ↦ alphabet.getD d '?'

def decodeGroup (cs : List Char) : List UInt8 × Bool :=
  let values := cs.map fun c ↦ alphabet.findIdx (· = c)
  let n := gather 85 values
  if cs.length = 5 && values.all (· < 85) && n < 4294967296 then
    ((spread 256 4 n []).map Nat.toUInt8, true)
  else ([], false)

def decode (cs : List Char) : List UInt8 × Bool :=
  decodeGroups decodeGroup (parts 5 (cs.length + 1) cs)

end Quint

end Armor

end RegisterLang
