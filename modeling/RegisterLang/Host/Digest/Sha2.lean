import RegisterLang.Host.Digest.Basic

namespace RegisterLang.Digest.Sha2

/-- Fractions of the cube roots of primes. -/
def addends64 : Array UInt64 := ((primesBelow 410).map cubeRootBits).toArray

def addends32 : Array UInt32 := addends64.map fun (w : UInt64) ↦ (w >>> 32).toUInt32

def roots (skip : Nat) : List UInt64 := (((primesBelow 54).drop skip).take 8).map squareRootBits

/-- The eight words that every round mixes. -/
structure State (α : Type) where
  a : α
  b : α
  c : α
  d : α
  e : α
  f : α
  g : α
  h : α

def State.words {α : Type} (s : State α) : List α := [s.a, s.b, s.c, s.d, s.e, s.f, s.g, s.h]

def State.ofWords {α : Type} (zero : α) (words : List α) : State α :=
  let word (i : Nat) : α := words.getD i zero
  { a := word 0, b := word 1, c := word 2, d := word 3, e := word 4, f := word 5, g := word 6,
    h := word 7 }

def schedule32 (bytes : ByteArray) : Array UInt32 :=
  let first := ((List.range 16).map fun i ↦ (number .big bytes (4 * i) 4).toUInt32).toArray
  (List.range 48).foldl (fun w i ↦
    let x := w.getD (i + 1) 0
    let y := w.getD (i + 14) 0
    let small := rotateRight32 x 7 ^^^ rotateRight32 x 18 ^^^ (x >>> 3)
    let large := rotateRight32 y 17 ^^^ rotateRight32 y 19 ^^^ (y >>> 10)
    w.push (w.getD i 0 + small + w.getD (i + 9) 0 + large)) first

def round32 (words : Array UInt32) (s : State UInt32) (i : Nat) : State UInt32 :=
  let mixed := rotateRight32 s.e 6 ^^^ rotateRight32 s.e 11 ^^^ rotateRight32 s.e 25
  let choice := (s.e &&& s.f) ^^^ (~~~s.e &&& s.g)
  let first := s.h + mixed + choice + addends32.getD i 0 + words.getD i 0
  let spread := rotateRight32 s.a 2 ^^^ rotateRight32 s.a 13 ^^^ rotateRight32 s.a 22
  let majority := (s.a &&& s.b) ^^^ (s.a &&& s.c) ^^^ (s.b &&& s.c)
  { a := first + spread + majority, b := s.a, c := s.b, d := s.c
    e := s.d + first, f := s.e, g := s.f, h := s.g }

def block32 (s : State UInt32) (bytes : ByteArray) : State UInt32 :=
  let t := (List.range 64).foldl (round32 (schedule32 bytes)) s
  .ofWords 0 (List.zipWith (· + ·) s.words t.words)

/-- The common part of the digests over words of 32 bits. -/
def digest32 (start : List UInt32) (size : Nat) (bytes : ByteArray) : ByteArray :=
  let s := foldBlocks 64 block32 (.ofWords 0 start) (fill .big 64 8 bytes)
  (spellWords32 .big s.words).extract 0 size

def sha256 : ByteArray → ByteArray :=
  digest32 ((roots 0).map fun (w : UInt64) ↦ (w >>> 32).toUInt32) 32

def sha224 : ByteArray → ByteArray := digest32 ((roots 8).map UInt64.toUInt32) 28

def schedule64 (bytes : ByteArray) : Array UInt64 :=
  let first := ((List.range 16).map fun i ↦ (number .big bytes (8 * i) 8).toUInt64).toArray
  (List.range 64).foldl (fun w i ↦
    let x := w.getD (i + 1) 0
    let y := w.getD (i + 14) 0
    let small := rotateRight64 x 1 ^^^ rotateRight64 x 8 ^^^ (x >>> 7)
    let large := rotateRight64 y 19 ^^^ rotateRight64 y 61 ^^^ (y >>> 6)
    w.push (w.getD i 0 + small + w.getD (i + 9) 0 + large)) first

def round64 (words : Array UInt64) (s : State UInt64) (i : Nat) : State UInt64 :=
  let mixed := rotateRight64 s.e 14 ^^^ rotateRight64 s.e 18 ^^^ rotateRight64 s.e 41
  let choice := (s.e &&& s.f) ^^^ (~~~s.e &&& s.g)
  let first := s.h + mixed + choice + addends64.getD i 0 + words.getD i 0
  let spread := rotateRight64 s.a 28 ^^^ rotateRight64 s.a 34 ^^^ rotateRight64 s.a 39
  let majority := (s.a &&& s.b) ^^^ (s.a &&& s.c) ^^^ (s.b &&& s.c)
  { a := first + spread + majority, b := s.a, c := s.b, d := s.c
    e := s.d + first, f := s.e, g := s.f, h := s.g }

def block64 (s : State UInt64) (bytes : ByteArray) : State UInt64 :=
  let t := (List.range 80).foldl (round64 (schedule64 bytes)) s
  .ofWords 0 (List.zipWith (· + ·) s.words t.words)

def digest64 (start : List UInt64) (size : Nat) (bytes : ByteArray) : ByteArray :=
  let s := foldBlocks 128 block64 (.ofWords 0 start) (fill .big 128 16 bytes)
  (spellWords64 .big s.words).extract 0 size

def sha512 : ByteArray → ByteArray := digest64 (roots 0) 64

def sha384 : ByteArray → ByteArray := digest64 (roots 8) 48

end RegisterLang.Digest.Sha2
