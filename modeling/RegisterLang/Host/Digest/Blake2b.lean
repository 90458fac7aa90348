import RegisterLang.Host.Digest.Sha2

namespace RegisterLang.Digest.Blake2b

def roots : Array UInt64 := (Sha2.roots 0).toArray

def orders : Array (Array Nat) := #[
  #[0, 1, 2, 3, 4, 5, 6, 7, 8, 9, 10, 11, 12, 13, 14, 15],
  #[14, 10, 4, 8, 9, 15, 13, 6, 1, 12, 0, 2, 11, 7, 5, 3],
  #[11, 8, 12, 0, 5, 2, 15, 13, 10, 14, 3, 6, 7, 1, 9, 4],
  #[7, 9, 3, 1, 13, 12, 11, 14, 2, 6, 5, 10, 4, 0, 15, 8],
  #[9, 0, 5, 7, 2, 4, 10, 15, 14, 1, 11, 12, 6, 8, 3, 13],
  #[2, 12, 6, 10, 0, 11, 8, 3, 4, 13, 7, 5, 15, 14, 1, 9],
  #[12, 5, 1, 15, 14, 13, 4, 10, 0, 7, 6, 3, 9, 2, 8, 11],
  #[13, 11, 7, 14, 12, 1, 3, 9, 5, 0, 15, 4, 8, 6, 2, 10],
  #[6, 15, 14, 9, 11, 3, 0, 8, 12, 2, 13, 7, 1, 4, 10, 5],
  #[10, 2, 8, 4, 7, 6, 1, 5, 15, 11, 9, 14, 3, 12, 13, 0]]

def places : List (Nat × Nat × Nat × Nat) :=
  [(0, 4, 8, 12), (1, 5, 9, 13), (2, 6, 10, 14), (3, 7, 11, 15),
    (0, 5, 10, 15), (1, 6, 11, 12), (2, 7, 8, 13), (3, 4, 9, 14)]

def mix (v : Array UInt64) (p : Nat × Nat × Nat × Nat) (x y : UInt64) : Array UInt64 :=
  let (i, j, k, l) := p
  let a := v.getD i 0 + v.getD j 0 + x
  let d := rotateRight64 (v.getD l 0 ^^^ a) 32
  let c := v.getD k 0 + d
  let b := rotateRight64 (v.getD j 0 ^^^ c) 24
  let a := a + b + y
  let d := rotateRight64 (d ^^^ a) 16
  let c := c + d
  let b := rotateRight64 (b ^^^ c) 63
  (((v.setIfInBounds i a).setIfInBounds j b).setIfInBounds k c).setIfInBounds l d

def block (h : Array UInt64) (bytes : ByteArray) (count : Nat) (isLast : Bool) : Array UInt64 :=
  let words := ((List.range 16).map fun i ↦ (number .little bytes (8 * i) 8).toUInt64).toArray
  let lower := (roots.getD 4 0) ^^^ count.toUInt64
  let upper := (roots.getD 5 0) ^^^ (count >>> 64).toUInt64
  let final := if isLast then ~~~(roots.getD 6 0) else roots.getD 6 0
  let start := h ++ ((roots.setIfInBounds 4 lower).setIfInBounds 5 upper).setIfInBounds 6 final
  let mixed := (List.range 12).foldl (fun v r ↦
    let order := orders.getD (r % 10) #[]
    places.zipIdx.foldl (fun v (p, i) ↦
      mix v p (words.getD (order.getD (2 * i) 0) 0)
        (words.getD (order.getD (2 * i + 1) 0) 0)) v) start
  ((List.range 8).map fun i ↦ h.getD i 0 ^^^ mixed.getD i 0 ^^^ mixed.getD (i + 8) 0).toArray

/-- A digest of up to 64 bytes. -/
def digest (size : Nat) (bytes : ByteArray) : ByteArray :=
  let start := roots.setIfInBounds 0 (roots.getD 0 0 ^^^ 0x01010000 ^^^ size.toUInt64)
  let count := (bytes.size - 1) / 128
  let h := (List.range count).foldl (fun h i ↦
    block h (bytes.extract (128 * i) (128 * (i + 1))) (128 * (i + 1)) false) start
  let last := block h (bytes.extract (128 * count) bytes.size) bytes.size true
  (spellWords64 .little last.toList).extract 0 size

end RegisterLang.Digest.Blake2b
