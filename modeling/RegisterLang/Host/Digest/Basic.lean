namespace RegisterLang.Digest

inductive Endian where
  | big
  | little
  deriving DecidableEq, Repr

def number (e : Endian) (bytes : ByteArray) (start count : Nat) : Nat :=
  let digits := (List.range count).map fun i ↦ (bytes.data.getD (start + i) 0).toNat
  (match e with
    | .big => digits
    | .little => digits.reverse).foldl (fun n b ↦ n * 256 + b) 0

def spell (e : Endian) (count n : Nat) : List UInt8 :=
  let digits := (List.range count).map fun i ↦ (n >>> (8 * i)).toUInt8
  match e with
  | .big => digits.reverse
  | .little => digits

def spellWords32 (e : Endian) (words : List UInt32) : ByteArray :=
  ⟨(words.flatMap fun w ↦ spell e 4 w.toNat).toArray⟩

def spellWords64 (e : Endian) (words : List UInt64) : ByteArray :=
  ⟨(words.flatMap fun w ↦ spell e 8 w.toNat).toArray⟩

def rotateLeft32 (w : UInt32) (n : UInt32) : UInt32 := (w <<< n) ||| (w >>> (32 - n))

def rotateRight32 (w : UInt32) (n : UInt32) : UInt32 := (w >>> n) ||| (w <<< (32 - n))

def rotateRight64 (w : UInt64) (n : UInt64) : UInt64 := (w >>> n) ||| (w <<< (64 - n))

/-- A text that is ended by a bit, zeros and its length in bits, in whole blocks. -/
def fill (e : Endian) (blockSize lengthSize : Nat) (bytes : ByteArray) : ByteArray :=
  let used := bytes.size + 1 + lengthSize
  let zeros := (blockSize - used % blockSize) % blockSize
  bytes.push 0x80 ++ ⟨Array.replicate zeros 0⟩ ++ ⟨(spell e lengthSize (8 * bytes.size)).toArray⟩

def foldBlocks {σ : Type} (blockSize : Nat) (step : σ → ByteArray → σ) (start : σ)
    (bytes : ByteArray) : σ :=
  (List.range (bytes.size / blockSize)).foldl
    (fun s i ↦ step s (bytes.extract (i * blockSize) ((i + 1) * blockSize))) start

/-- The greatest number below a power of two whose power does not exceed a number. -/
def rootBelow (power : Nat → Nat) (n : Nat) : Nat → Nat → Nat
  | 0, sofar => sofar
  | bit + 1, sofar =>
    let next := sofar + (1 <<< bit)
    rootBelow power n bit (if power next ≤ n then next else sofar)

def squareRootBits (n : Nat) : UInt64 :=
  (rootBelow (fun r ↦ r * r) (n <<< 128) 80 0).toUInt64

def cubeRootBits (n : Nat) : UInt64 :=
  (rootBelow (fun r ↦ r * r * r) (n <<< 192) 80 0).toUInt64

def primesBelow (bound : Nat) : List Nat :=
  (List.range bound).filter fun n ↦
    2 ≤ n && (List.range n).all fun d ↦ d < 2 || n % d ≠ 0

def hexDigit (n : Nat) : Char := Nat.digitChar n

def hex (bytes : ByteArray) : String :=
  String.ofList (bytes.data.toList.flatMap fun b ↦
    [hexDigit (b.toNat / 16), hexDigit (b.toNat % 16)])

namespace Sum

def divide (w : UInt32) : UInt32 :=
  if w &&& 0x80000000 ≠ 0 then (w <<< 1) ^^^ 0x04c11db7 else w <<< 1

def remainders : Array UInt32 :=
  let remainder (n : Nat) : UInt32 :=
    (List.range 8).foldl (fun w _ ↦ divide w) (n * 16777216).toUInt32
  ((List.range 256).map remainder).toArray

def takeByte (w : UInt32) (b : UInt8) : UInt32 :=
  (w <<< 8) ^^^ remainders.getD (((w >>> 24).toUInt8 ^^^ b).toNat) 0

def lengthBytes : Nat → Nat → List UInt8
  | 0, _ => []
  | fuel + 1, n => if n = 0 then [] else n.toUInt8 :: lengthBytes fuel (n / 256)

/-- The remainder of a text with its length, as a polynomial over two elements. -/
def cyclic (bytes : ByteArray) : UInt32 :=
  let sum := bytes.foldl takeByte 0
  ~~~((lengthBytes 9 bytes.size).foldl takeByte sum)

def rotating (bytes : ByteArray) : UInt16 :=
  bytes.foldl (fun s b ↦ ((s >>> 1) ||| (s <<< 15)) + b.toUInt16) 0

def plain (bytes : ByteArray) : Nat :=
  let sum := bytes.foldl (fun n b ↦ n + b.toNat) 0 % 4294967296
  let once := sum % 65536 + sum / 65536
  once % 65536 + once / 65536

end Sum

end RegisterLang.Digest
