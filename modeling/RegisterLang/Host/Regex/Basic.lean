namespace RegisterLang

namespace Regex

/-- A set of octets, one bit for each. -/
structure OctetSet where
  first : UInt64 := 0
  second : UInt64 := 0
  third : UInt64 := 0
  fourth : UInt64 := 0
  deriving DecidableEq, Repr

namespace OctetSet

def empty : OctetSet := {}

def contains (s : OctetSet) (b : UInt8) : Bool :=
  let word := if b < 128 then (if b < 64 then s.first else s.second)
    else if b < 192 then s.third else s.fourth
  (word >>> (b % 64).toUInt64) &&& 1 = 1

def insert (s : OctetSet) (b : UInt8) : OctetSet :=
  let bit := (1 : UInt64) <<< (b % 64).toUInt64
  if b < 64 then { s with first := s.first ||| bit }
  else if b < 128 then { s with second := s.second ||| bit }
  else if b < 192 then { s with third := s.third ||| bit }
  else { s with fourth := s.fourth ||| bit }

def union (s t : OctetSet) : OctetSet :=
  ⟨s.first ||| t.first, s.second ||| t.second, s.third ||| t.third, s.fourth ||| t.fourth⟩

def complement (s : OctetSet) : OctetSet :=
  ⟨s.first ^^^ 18446744073709551615, s.second ^^^ 18446744073709551615,
    s.third ^^^ 18446744073709551615, s.fourth ^^^ 18446744073709551615⟩

def all : OctetSet := empty.complement

def ofPredicate (p : Char → Bool) : OctetSet :=
  (List.range 256).foldl (fun s n ↦ if p (Char.ofNat n) then s.insert n.toUInt8 else s) empty

def single (c : Char) : OctetSet := empty.insert c.toNat.toUInt8

def erase (s : OctetSet) (c : Char) : OctetSet := (s.complement.insert c.toNat.toUInt8).complement

def foldCase (s : OctetSet) : OctetSet :=
  ofPredicate fun c ↦
    s.contains c.toNat.toUInt8 || s.contains c.toLower.toNat.toUInt8 ||
      s.contains c.toUpper.toNat.toUInt8

end OctetSet

inductive Anchor where
  | lineStart
  | lineEnd
  | textStart
  | textEnd
  | wordStart
  | wordEnd
  | wordEdge
  | insideOrOutside
  deriving DecidableEq, Repr

end Regex

/-- Regular expressions on octets, with groups that can be referred to. -/
inductive Regex where
  | empty
  | set (octets : Regex.OctetSet)
  | anchor (condition : Regex.Anchor)
  | seq (first second : Regex)
  | either (first second : Regex)
  | many (low : Nat) (high : Option Nat) (body : Regex)
  | group (number : Nat) (body : Regex)
  | back (number : Nat)
  deriving Repr

namespace Regex

def hasBack : Regex → Bool
  | back _ => true
  | seq a b | either a b => a.hasBack || b.hasBack
  | many _ _ a | group _ a => a.hasBack
  | _ => false

def foldCase : Regex → Regex
  | set s => set s.foldCase
  | seq a b => seq a.foldCase b.foldCase
  | either a b => either a.foldCase b.foldCase
  | many low high a => many low high a.foldCase
  | group n a => group n a.foldCase
  | other => other

def starts : Regex → OctetSet × Bool
  | empty => (.empty, true)
  | set s => (s, false)
  | anchor _ => (.empty, true)
  | back _ => (.all, true)
  | seq a b =>
    let (s, nothing) := a.starts
    if nothing then
      let (t, nothing) := b.starts
      (s.union t, nothing)
    else (s, false)
  | either a b =>
    let (s, x) := a.starts
    let (t, y) := b.starts
    (s.union t, x || y)
  | many low _ a =>
    let (s, nothing) := a.starts
    (s, nothing || low = 0)
  | group _ a => a.starts

end Regex

end RegisterLang
