import RegisterLang.Host.Digest.Basic

namespace RegisterLang.Digest.Sha1

structure State where
  a : UInt32 := 0x67452301
  b : UInt32 := 0xefcdab89
  c : UInt32 := 0x98badcfe
  d : UInt32 := 0x10325476
  e : UInt32 := 0xc3d2e1f0

/-- The 80 words that a block is spread over. -/
def schedule (bytes : ByteArray) : Array UInt32 :=
  let first := ((List.range 16).map fun i ↦ (number .big bytes (4 * i) 4).toUInt32).toArray
  (List.range 64).foldl (fun w i ↦
    w.push (rotateLeft32
      (w.getD (i + 13) 0 ^^^ w.getD (i + 8) 0 ^^^ w.getD (i + 2) 0 ^^^ w.getD i 0) 1)) first

def round (words : Array UInt32) (s : State) (i : Nat) : State :=
  let (f, k) : UInt32 × UInt32 :=
    if i < 20 then ((s.b &&& s.c) ||| (~~~s.b &&& s.d), 0x5a827999)
    else if i < 40 then (s.b ^^^ s.c ^^^ s.d, 0x6ed9eba1)
    else if i < 60 then ((s.b &&& s.c) ||| (s.b &&& s.d) ||| (s.c &&& s.d), 0x8f1bbcdc)
    else (s.b ^^^ s.c ^^^ s.d, 0xca62c1d6)
  { a := rotateLeft32 s.a 5 + f + s.e + k + words.getD i 0
    b := s.a, c := rotateLeft32 s.b 30, d := s.c, e := s.d }

def block (s : State) (bytes : ByteArray) : State :=
  let t := (List.range 80).foldl (round (schedule bytes)) s
  { a := s.a + t.a, b := s.b + t.b, c := s.c + t.c, d := s.d + t.d, e := s.e + t.e }

def digest (bytes : ByteArray) : ByteArray :=
  let s := foldBlocks 64 block {} (fill .big 64 8 bytes)
  spellWords32 .big [s.a, s.b, s.c, s.d, s.e]

end RegisterLang.Digest.Sha1
