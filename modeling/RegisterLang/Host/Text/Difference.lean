namespace RegisterLang.Difference

structure Box where
  left : Nat
  right : Nat
  top : Nat
  bottom : Nat

/-- How far paths on each diagonal have come from both corners of a box. -/
structure Search where
  forward : Array Int
  backward : Array Int
  low : Int
  high : Int
  backLow : Int
  backHigh : Int

section

variable (a b : Array Nat) (offset : Nat)

def index (d : Int) : Nat := (d + offset).toNat

def slide (right bottom : Nat) : Nat → Nat → Nat → Nat
  | 0, x, _ => x
  | n + 1, x, y =>
    if x < right && y < bottom && a[x]? = b[y]? then slide right bottom n (x + 1) (y + 1) else x

def slideBack (left top : Nat) : Nat → Nat → Nat → Nat
  | 0, x, _ => x
  | n + 1, x, y =>
    if left < x && top < y && a[x - 1]? = b[y - 1]? then slideBack left top n (x - 1) (y - 1) else x

def extendForward (box : Box) (odd : Bool) (s : Search) :
    Nat → Int → Array Int → Array Int × Option (Nat × Nat)
  | 0, _, fd => (fd, none)
  | n + 1, d, fd =>
    if d < s.low then (fd, none)
    else
      let lower := fd.getD (index offset (d - 1)) 0
      let upper := fd.getD (index offset (d + 1)) 0
      let x := if lower < upper then upper else lower + 1
      let goal := slide a b box.right box.bottom (box.right + 1) x.toNat (x - d).toNat
      let fd := fd.setIfInBounds (index offset d) goal
      if odd && s.backLow ≤ d && d ≤ s.backHigh && s.backward.getD (index offset d) 0 ≤ goal then
        (fd, some (goal, ((goal : Int) - d).toNat))
      else extendForward box odd s n (d - 2) fd

def extendBackward (box : Box) (odd : Bool) (s : Search) :
    Nat → Int → Array Int → Array Int × Option (Nat × Nat)
  | 0, _, bd => (bd, none)
  | n + 1, d, bd =>
    if d < s.backLow then (bd, none)
    else
      let lower := bd.getD (index offset (d - 1)) 0
      let upper := bd.getD (index offset (d + 1)) 0
      let x := if lower < upper then lower else upper - 1
      let goal := slideBack a b box.left box.top (box.right + 1) x.toNat (x - d).toNat
      let bd := bd.setIfInBounds (index offset d) goal
      if !odd && s.low ≤ d && d ≤ s.high && (goal : Int) ≤ s.forward.getD (index offset d) 0 then
        (bd, some (goal, ((goal : Int) - d).toNat))
      else extendBackward box odd s n (d - 2) bd

def beyond : Int := 1000000000000

/-- Where the paths from both corners meet, which halves the problem. -/
def meet (box : Box) : Nat → Search → Option (Nat × Nat)
  | 0, _ => none
  | n + 1, s =>
    let dmin : Int := box.left - (box.bottom : Int)
    let dmax : Int := box.right - (box.top : Int)
    let odd := (((box.left : Int) - box.top) - ((box.right : Int) - box.bottom)) % 2 ≠ 0
    let steps := box.right + box.bottom + 2
    let (low, fd) : Int × Array Int := if dmin < s.low then
        (s.low - 1, s.forward.setIfInBounds (index offset (s.low - 2)) (-1))
      else (s.low + 1, s.forward)
    let (high, fd) : Int × Array Int := if s.high < dmax then
        (s.high + 1, fd.setIfInBounds (index offset (s.high + 2)) (-1))
      else (s.high - 1, fd)
    let s := { s with low, high }
    match extendForward a b offset box odd s steps high fd with
    | (_, some found) => some found
    | (fd, none) =>
      let s := { s with forward := fd }
      let (backLow, bd) : Int × Array Int := if dmin < s.backLow then
          (s.backLow - 1, s.backward.setIfInBounds (index offset (s.backLow - 2)) beyond)
        else (s.backLow + 1, s.backward)
      let (backHigh, bd) : Int × Array Int := if s.backHigh < dmax then
          (s.backHigh + 1, bd.setIfInBounds (index offset (s.backHigh + 2)) beyond)
        else (s.backHigh - 1, bd)
      let s := { s with backLow, backHigh }
      match extendBackward a b offset box odd s steps backHigh bd with
      | (_, some found) => some found
      | (bd, none) => meet box n { s with backward := bd }

def markRange (marks : Array Bool) (start finish : Nat) : Array Bool :=
  (List.range (finish - start)).foldl (fun m i ↦ m.setIfInBounds (start + i) true) marks

def compare : Nat → Box → Array Bool × Array Bool → Array Bool × Array Bool
  | 0, _, marks => marks
  | n + 1, box, (ma, mb) =>
    let left := slide a b box.right box.bottom (box.right + 1) box.left box.top
    let top := box.top + (left - box.left)
    let right := slideBack a b left top (box.right + 1) box.right box.bottom
    let bottom := box.bottom - (box.right - right)
    if left = right then (ma, markRange mb top bottom)
    else if top = bottom then (markRange ma left right, mb)
    else
      let inner : Box := ⟨left, right, top, bottom⟩
      let width := a.size + b.size + 5
      let fmid : Int := left - (top : Int)
      let bmid : Int := right - (bottom : Int)
      let start : Search :=
        { forward := (Array.replicate width (0 : Int)).setIfInBounds (index offset fmid) left
          backward := (Array.replicate width (0 : Int)).setIfInBounds (index offset bmid) right
          low := fmid, high := fmid, backLow := bmid, backHigh := bmid }
      match meet a b offset inner (right + bottom + 2) start with
      | none => (markRange ma left right, markRange mb top bottom)
      | some (x, y) =>
        compare n ⟨x, right, y, bottom⟩ (compare n ⟨left, x, top, y⟩ (ma, mb))

end

def marks (a b : Array Nat) : Array Bool × Array Bool :=
  let keep (x other : Array Nat) : List (Nat × Nat) :=
    (x.toList.zipIdx).filter fun (v, _) ↦ other.contains v
  let ka := keep a b
  let kb := keep b a
  let sa := (ka.map (·.1)).toArray
  let sb := (kb.map (·.1)).toArray
  let (ma, mb) := compare sa sb (sb.size + 2) (sa.size + sb.size + 2) ⟨0, sa.size, 0, sb.size⟩
    (Array.replicate sa.size false, Array.replicate sb.size false)
  let spread (size : Nat) (kept : List (Nat × Nat)) (marks : Array Bool) : Array Bool :=
    kept.zipIdx.foldl (fun m ((_, i), k) ↦ m.setIfInBounds i (marks.getD k false))
      (Array.replicate size true)
  (spread a.size ka ma, spread b.size kb mb)

/-- A run of changed lines that may be moved between equal ones. -/
structure Run where
  changed : Array Bool
  start : Nat
  finish : Nat
  place : Nat
  corresponding : Nat

section

variable (x : Array Nat) (other : Array Bool)

def isChanged (m : Array Bool) (i : Nat) : Bool := m.getD i false

def skipChanged (m : Array Bool) : Nat → Nat → Nat
  | 0, i => i
  | n + 1, i => if isChanged m i then skipChanged m n (i + 1) else i

def skipChangedBack (m : Array Bool) : Nat → Nat → Nat
  | 0, i => i
  | n + 1, i => if 0 < i && isChanged m (i - 1) then skipChangedBack m n (i - 1) else i

def stepBack : Nat → Nat → Nat
  | 0, j => j
  | n + 1, j => if isChanged other (j - 1) then stepBack n (j - 1) else j - 1

def moveBack : Nat → Run → Run
  | 0, r => r
  | n + 1, r =>
    if 0 < r.start && x[r.start - 1]? = x[r.finish - 1]? then
      let changed := (r.changed.setIfInBounds (r.start - 1) true).setIfInBounds (r.finish - 1) false
      let start := skipChangedBack changed r.start (r.start - 1)
      moveBack n
        { r with
          changed, start, finish := r.finish - 1, place := stepBack other (r.place + 1) r.place }
    else r

def moveForward : Nat → Run → Run
  | 0, r => r
  | n + 1, r =>
    if r.finish < x.size && x[r.start]? = x[r.finish]? then
      let changed := (r.changed.setIfInBounds r.start false).setIfInBounds r.finish true
      let finish := skipChanged changed (x.size + 1) (r.finish + 1)
      let place := skipChanged other (other.size + 1) (r.place + 1)
      moveForward n
        { changed, start := r.start + 1, finish, place
          corresponding := if place = r.place + 1 then r.corresponding else finish }
    else r

def settle : Nat → Run → Run
  | 0, r => r
  | n + 1, r =>
    let length := r.finish - r.start
    let r := moveBack x other (x.size + 1) r
    let r := { r with corresponding :=
      if 0 < r.place && isChanged other (r.place - 1) then r.finish else x.size }
    let r := moveForward x other (x.size + 1) r
    if r.finish - r.start = length then r else settle n r

def moveToCorresponding : Nat → Run → Run
  | 0, r => r
  | n + 1, r =>
    if r.corresponding < r.finish then
      let changed := (r.changed.setIfInBounds (r.start - 1) true).setIfInBounds (r.finish - 1) false
      moveToCorresponding n { r with changed, start := r.start - 1, finish := r.finish - 1 }
    else r

def shiftRuns : Nat → Nat → Nat → Array Bool → Array Bool
  | 0, _, _, changed => changed
  | n + 1, i, j, changed =>
    if x.size ≤ i then changed
    else if !isChanged changed i then
      shiftRuns n (i + 1) (skipChanged other (other.size + 1) j + 1) changed
    else
      let finish := skipChanged changed (x.size + 1) i
      let place := skipChanged other (other.size + 1) j
      let r :=
        settle x other (x.size + 1) { changed, start := i, finish, place, corresponding := 0 }
      let moved := moveToCorresponding (x.size + 1) r
      let places := r.finish - moved.finish
      let place := (List.range places).foldl (fun j _ ↦ stepBack other (j + 1) j) r.place
      shiftRuns n moved.finish place moved.changed

end

structure Hunk where
  start : Nat
  removed : Nat
  place : Nat
  added : Nat
  deriving DecidableEq, Repr

def hunks (ma mb : Array Bool) : Nat → Nat → Nat → List Hunk
  | 0, _, _ => []
  | n + 1, i, j =>
    if ma.size ≤ i && mb.size ≤ j then []
    else
      let finish := skipChanged ma (ma.size + 1) i
      let end_ := skipChanged mb (mb.size + 1) j
      if finish = i && end_ = j then hunks ma mb n (i + 1) (j + 1)
      else ⟨i, finish - i, j, end_ - j⟩ :: hunks ma mb n finish end_

def commonStart (a b : List Nat) : Nat :=
  ((a.zip b).takeWhile fun (x, y) ↦ x = y).length

/-- The changes between two sequences. What they have in common at their ends is left aside, but for
so many elements. -/
def changes (horizon : Nat) (a b : Array Nat) : List Hunk :=
  let first := commonStart a.toList b.toList
  let skip := first - horizon
  let last := commonStart (a.toList.drop first).reverse (b.toList.drop first).reverse
  let drop := last - horizon
  let ra := a.extract skip (a.size - drop)
  let rb := b.extract skip (b.size - drop)
  let (ma, mb) := marks ra rb
  let ma := shiftRuns ra mb (3 * ra.size + 3) 0 0 ma
  let mb := shiftRuns rb ma (3 * rb.size + 3) 0 0 mb
  (hunks ma mb (ra.size + rb.size + 2) 0 0).map fun h ↦
    { h with start := h.start + skip, place := h.place + skip }

end RegisterLang.Difference
