import RegisterLang.Host.Regex.Parse

namespace RegisterLang.Regex

inductive Instruction where
  | take (octets : OctetSet)
  | look (condition : Anchor)
  | save (slot : Nat)
  | split (first second : Nat)
  | jump (target : Nat)
  | back (group : Nat)
  | mark (loop : Nat)
  | moved (loop : Nat)
  | done
  deriving Repr

/-- The number of instructions, without the last one. With `guarded`, loops take care of rounds that
match nothing. -/
def size (guarded : Bool) : Regex → Nat
  | empty => 0
  | set _ | anchor _ | back _ => 1
  | seq a b => a.size guarded + b.size guarded
  | either a b => a.size guarded + b.size guarded + 2
  | group _ a => a.size guarded + 2
  | many low none a =>
    low * a.size guarded + a.size guarded + (if guarded then 4 else 2)
  | many low (some high) a => low * a.size guarded + (high - low) * (a.size guarded + 1)

def copies (width : Nat) (emit : Nat → List Instruction) : Nat → Nat → List Instruction
  | 0, _ => []
  | n + 1, start => emit start ++ copies width emit n (start + width)

def emit (guarded : Bool) : Regex → Nat → List Instruction
  | empty, _ => []
  | set s, _ => [.take s]
  | anchor a, _ => [.look a]
  | back n, _ => [.back n]
  | seq a b, start => emit guarded a start ++ emit guarded b (start + a.size guarded)
  | either a b, start =>
    let second := start + a.size guarded + 2
    .split (start + 1) second :: emit guarded a (start + 1) ++
      .jump (second + b.size guarded) :: emit guarded b second
  | group n a, start => .save (2 * n) :: emit guarded a (start + 1) ++ [.save (2 * n + 1)]
  | many low none a, start =>
    let width := a.size guarded
    let loop := start + low * width
    copies width (emit guarded a) low start ++
      (if guarded then
        .split (loop + 1) (loop + width + 4) :: .mark loop :: emit guarded a (loop + 2) ++
          [.moved loop, .jump loop]
      else .split (loop + 1) (loop + width + 2) :: emit guarded a (loop + 1) ++ [.jump loop])
  | many low (some high) a, start =>
    let width := a.size guarded
    let rest := start + low * width
    let finish := rest + (high - low) * (width + 1)
    copies width (emit guarded a) low start ++
      copies (width + 1) (fun at_ ↦ .split (at_ + 1) finish :: emit guarded a (at_ + 1))
        (high - low) rest

structure Matcher where
  code : Array Instruction
  groups : Nat
  hasBack : Bool
  fold : Bool := false
  first : Option OctetSet

def compile (r : Regex) (groups : Nat) (fold : Bool := false) : Matcher :=
  let r := if fold then r.foldCase else r
  let (s, nothing) := r.starts
  { fold, code := (emit r.hasBack r 0 ++ [Instruction.done]).toArray, groups, hasBack := r.hasBack
    first := if nothing then none else some s }

structure Context where
  text : ByteArray
  multiline : Bool := false
  midLine : Bool := false
  words : Bool := false
  whole : Bool := false
  fold : Bool := false

namespace Context

def octet? (c : Context) (i : Nat) : Option UInt8 :=
  if h : i < c.text.size then some c.text[i] else none

def isWordAt (c : Context) (i : Nat) : Bool :=
  (c.octet? i).any fun b ↦ isWord (Char.ofNat b.toNat)

def holds (c : Context) (a : Anchor) (i : Nat) : Bool :=
  let before := i ≠ 0 && c.isWordAt (i - 1)
  let after := c.isWordAt i
  match a with
  | .lineStart => (i = 0 && !c.midLine) || (c.multiline && i ≠ 0 && c.octet? (i - 1) = some 10)
  | .lineEnd => i = c.text.size || (c.multiline && c.octet? i = some 10)
  | .textStart => i = 0
  | .textEnd => i = c.text.size
  | .wordStart => !before && after
  | .wordEnd => before && !after
  | .wordEdge => before != after
  | .insideOrOutside => before == after

def mayStart (c : Context) (i : Nat) : Bool :=
  (!c.whole || i = 0) && (!c.words || i = 0 || !c.isWordAt (i - 1))

def mayEnd (c : Context) (i : Nat) : Bool :=
  (!c.whole || i = c.text.size) && (!c.words || !c.isWordAt i)

end Context

section

variable (code : Array Instruction) (c : Context)

/-- Follows instructions that take nothing. The result are the addresses of those that take an
octet, and whether an end was reached. -/
def follow (i : Nat) : Nat → List Nat → ByteArray → List Nat → Bool → List Nat × Bool
  | 0, _, _, found, done => (found, done)
  | _ + 1, [], _, found, done => (found, done)
  | n + 1, pc :: stack, seen, found, done =>
    if seen.data.getD pc 1 = 1 then follow i n stack seen found done
    else
      let seen := seen.set! pc 1
      match code[pc]? with
      | some (.take _) => follow i n stack seen (pc :: found) done
      | some (.look a) =>
        follow i n (if c.holds a i then (pc + 1) :: stack else stack) seen found done
      | some (.save _) | some (.mark _) | some (.moved _) =>
        follow i n ((pc + 1) :: stack) seen found done
      | some (.split a b) => follow i n (a :: b :: stack) seen found done
      | some (.jump t) => follow i n (t :: stack) seen found done
      | some .done => follow i n stack seen found true
      | some (.back _) | none => follow i n stack seen found done

def reach (i : Nat) (starts : List Nat) : List Nat × Bool :=
  follow code c i (3 * code.size + starts.length + 1) starts ⟨Array.replicate code.size 0⟩ [] false

def longestFrom : Nat → Nat → List Nat → Option Nat → Option Nat
  | 0, _, _, best => best
  | n + 1, i, threads, best =>
    match threads, c.octet? i with
    | [], _ | _, none => best
    | _, some b =>
      let next := threads.filterMap fun (pc : Nat) ↦
        match code[pc]? with
        | some (Instruction.take s) => if s.contains b then some (pc + 1) else none
        | _ => none
      if next.isEmpty then best
      else
        let (threads, done) := reach code c (i + 1) next
        longestFrom n (i + 1) threads (if done && c.mayEnd (i + 1) then some (i + 1) else best)

def longest (start : Nat) : Option Nat :=
  let (threads, done) := reach code c start [0]
  longestFrom code c (c.text.size - start + 1) start threads 
    (if done && c.mayEnd start then some start else none)

abbrev Slots := Array (Option Nat)

/-- The preferred way from one place to another: what is left to be tried stands on the stack, and
nothing is tried twice. -/
def trace (start goal : Nat) : Nat → List (Nat × Nat × Slots) → ByteArray → Option Slots
  | 0, _, _ => none
  | _ + 1, [], _ => none
  | n + 1, (pc, i, slots) :: stack, seen =>
    let key := pc * (goal - start + 1) + (i - start)
    if seen.data.getD key 1 = 1 then trace start goal n stack seen
    else
      let seen := seen.set! key 1
      match code[pc]? with
      | some (.take s) =>
        if i < goal && (c.octet? i).any s.contains then
          trace start goal n ((pc + 1, i + 1, slots) :: stack) seen
        else trace start goal n stack seen
      | some (.look a) =>
        if c.holds a i then trace start goal n ((pc + 1, i, slots) :: stack) seen
        else trace start goal n stack seen
      | some (.save k) =>
        trace start goal n ((pc + 1, i, slots.setIfInBounds k (some i)) :: stack) seen
      | some (.mark _) | some (.moved _) => trace start goal n ((pc + 1, i, slots) :: stack) seen
      | some (.split a b) =>
        trace start goal n ((a, i, slots) :: (b, i, slots) :: stack) seen
      | some (.jump t) => trace start goal n ((t, i, slots) :: stack) seen
      | some .done => if i = goal then some slots else trace start goal n stack seen
      | some (.back _) | none => trace start goal n stack seen

def repeatsAt (start length i : Nat) : Bool :=
  let same (a b : Option UInt8) : Bool :=
    a = b || (c.fold && a.map (fun x ↦ (Char.ofNat x.toNat).toLower) =
      b.map fun x ↦ (Char.ofNat x.toNat).toLower)
  i + length ≤ c.text.size &&
    (List.range length).all fun k ↦ same (c.octet? (start + k)) (c.octet? (i + k))

/-- Tries all ways where groups are spoken of, and keeps the first one that goes furthest. -/
def explore : Nat → List (Nat × Nat × Slots × List (Nat × Nat)) → Option (Nat × Slots) →
    Option (Nat × Slots)
  | 0, _, best => best
  | _ + 1, [], best => best
  | n + 1, (pc, i, slots, marks) :: stack, best =>
    match code[pc]? with
    | some (.take s) =>
      if (c.octet? i).any s.contains then explore n ((pc + 1, i + 1, slots, marks) :: stack) best
      else explore n stack best
    | some (.look a) =>
      if c.holds a i then explore n ((pc + 1, i, slots, marks) :: stack) best
      else explore n stack best
    | some (.save k) =>
      explore n ((pc + 1, i, slots.setIfInBounds k (some i), marks) :: stack) best
    | some (.mark loop) =>
      explore n ((pc + 1, i, slots, (loop, i) :: marks.filter (·.1 ≠ loop)) :: stack) best
    | some (.moved loop) =>
      if marks.lookup loop = some i then explore n stack best
      else explore n ((pc + 1, i, slots, marks) :: stack) best
    | some (.split a b) => explore n ((a, i, slots, marks) :: (b, i, slots, marks) :: stack) best
    | some (.jump t) => explore n ((t, i, slots, marks) :: stack) best
    | some (.back k) =>
      match (slots[2 * k]?).join, (slots[2 * k + 1]?).join with
      | some s, some e =>
        if repeatsAt c s (e - s) i then
          explore n ((pc + 1, i + (e - s), slots, marks) :: stack) best
        else explore n stack best
      | _, _ => explore n stack best
    | some .done =>
      let better := c.mayEnd i && best.all fun (e, _) ↦ e < i
      let best := if better then some (i, slots) else best
      if best.any (·.1 = c.text.size) then best else explore n stack best
    | none => explore n stack best

end

def exploreLimit : Nat := 2000000

structure Match where
  start : Nat
  finish : Nat
  groups : Array (Option (Nat × Nat)) := #[]

namespace Matcher

def matchAt (m : Matcher) (c : Context) (wantGroups : Bool) (start : Nat) : Option Match :=
  let slots : Slots := Array.replicate (2 * m.groups + 2) none
  let pack (finish : Nat) (slots : Slots) : Match :=
    { start, finish
      groups := ((List.range (m.groups + 1)).map fun k ↦
        if k = 0 then some (start, finish)
        else
          match (slots[2 * k]?).join, (slots[2 * k + 1]?).join with
          | some s, some e => some (s, e)
          | _, _ => none).toArray }
  if m.hasBack then
    (explore m.code { c with fold := m.fold } exploreLimit [(0, start, slots, [])] none).map
      fun (e, slots) ↦ pack e slots
  else
    (longest m.code c start).map fun finish ↦
      if wantGroups && m.groups ≠ 0 then
        let cells := m.code.size * (finish - start + 1)
        match trace m.code c start finish (2 * cells + 2) [(0, start, slots)]
          ⟨Array.replicate cells 0⟩ with
        | some slots => pack finish slots
        | none => pack finish slots
      else { start, finish, groups := #[some (start, finish)] }

def search (m : Matcher) (c : Context) (wantGroups : Bool := false) (start : Nat := 0) :
    Option Match :=
  let rec go : Nat → Nat → Option Match
    | 0, _ => none
    | n + 1, i =>
      let possible := match m.first with
        | none => true
        | some s => (c.octet? i).any s.contains
      if possible && c.mayStart i then
        match m.matchAt c wantGroups i with
        | some found => some found
        | none => go n (i + 1)
      else go n (i + 1)
  if c.text.size < start then none else go (c.text.size - start + 1) start

end Matcher

def prepare (f : Flavor) (text : String) (fold : Bool := false) : Except Fault Matcher := do
  let (r, g) ← parse f text
  return compile r g.count fold

end RegisterLang.Regex
