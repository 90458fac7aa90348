import RegisterLang.Host.Digest.Sha2

namespace RegisterLang.Digest.Sm3

def start : List UInt32 :=
  [0x7380166f, 0x4914b2b9, 0x172442d7, 0xda8a0600, 0xa96f30bc, 0x163138aa, 0xe38dee4d, 0xb0fb0e4e]

def schedule (bytes : ByteArray) : Array UInt32 :=
  let first := ((List.range 16).map fun i ↦ (number .big bytes (4 * i) 4).toUInt32).toArray
  (List.range 52).foldl (fun w i ↦
    let x := w.getD i 0 ^^^ w.getD (i + 7) 0 ^^^ rotateLeft32 (w.getD (i + 13) 0) 15
    let spread := x ^^^ rotateLeft32 x 15 ^^^ rotateLeft32 x 23
    w.push (spread ^^^ rotateLeft32 (w.getD (i + 3) 0) 7 ^^^ w.getD (i + 10) 0)) first

def rotate (w : UInt32) (n : Nat) : UInt32 :=
  if n % 32 = 0 then w else rotateLeft32 w (n % 32).toUInt32

def round (words : Array UInt32) (s : Sha2.State UInt32) (i : Nat) : Sha2.State UInt32 :=
  let addend : UInt32 := if i < 16 then 0x79cc4519 else 0x7a879d8a
  let front := rotateLeft32 s.a 12
  let first := rotateLeft32 (front + s.e + rotate addend i) 7
  let second := first ^^^ front
  let (f, g) : UInt32 × UInt32 :=
    if i < 16 then (s.a ^^^ s.b ^^^ s.c, s.e ^^^ s.f ^^^ s.g)
    else
      ((s.a &&& s.b) ||| (s.a &&& s.c) ||| (s.b &&& s.c), (s.e &&& s.f) ||| (~~~s.e &&& s.g))
  let left := f + s.d + second + (words.getD i 0 ^^^ words.getD (i + 4) 0)
  let right := g + s.h + first + words.getD i 0
  { a := left, b := s.a, c := rotateLeft32 s.b 9, d := s.c
    e := right ^^^ rotateLeft32 right 9 ^^^ rotateLeft32 right 17, f := s.e
    g := rotateLeft32 s.f 19, h := s.g }

def block (s : Sha2.State UInt32) (bytes : ByteArray) : Sha2.State UInt32 :=
  let t := (List.range 64).foldl (round (schedule bytes)) s
  .ofWords 0 (List.zipWith (· ^^^ ·) s.words t.words)

def digest (bytes : ByteArray) : ByteArray :=
  let s := foldBlocks 64 block (.ofWords 0 start) (fill .big 64 8 bytes)
  spellWords32 .big s.words

end RegisterLang.Digest.Sm3
