namespace RegisterLang.Tool.Record

/-- A subscript, which may be a number. -/
inductive Key where
  | text (octets : String)
  | number (n : Int)
  deriving DecidableEq, Repr

def hash (octets : String) : UInt32 :=
  octets.toList.foldl (fun h c ↦ (h ^^^ c.toNat.toUInt32) * 16777619) 2166136261

structure Entry (α : Type) where
  text : Option String := none
  number : Option Int := none
  value : α

/-- Entries in lists by the hash of their text, by number, or in a row. -/
structure Table (α : Type) where
  size : Nat := 0
  parts : Option (Array α) := none
  entries : Array (Entry α) := #[]
  width : Nat := 64
  hasTexts : Bool := false
  byText : Array (List Nat) := Array.replicate 64 []
  byNumber : Array (List Nat) := Array.replicate 64 []

namespace Table

variable {α : Type}

def ofParts (parts : Array α) : Table α :=
  if parts.isEmpty then {} else { size := parts.size, parts := some parts }

def density : Nat := 12

def textPlace (t : Table α) (octets : String) : Nat := (hash octets).toNat % t.width

def numberPlace (t : Table α) (n : Int) : Nat := (n % (t.width : Int)).toNat

def textOf (t : Table α) (id : Nat) : Option String := t.entries[id]?.bind Entry.text

def numberOf (t : Table α) (id : Nat) : Option Int := t.entries[id]?.bind Entry.number

def spread (lists : Array (List Nat)) (place : Nat → Nat) : Array (List Nat) :=
  let apart := lists.mapIdx fun i list ↦ list.partition fun id ↦ place id = i
  apart.map (·.1) ++ apart.map (·.2)

/-- Twice as many lists, with the entries spread anew. -/
def widen (t : Table α) : Table α :=
  let wide := { t with width := 2 * t.width }
  { wide with
    byText := spread t.byText fun id ↦ ((t.textOf id).map wide.textPlace).getD 0
    byNumber := spread t.byNumber fun id ↦ ((t.numberOf id).map wide.numberPlace).getD 0 }

def widthFor (size : Nat) : Nat → Nat → Nat
  | 0, width => width
  | n + 1, width => if width * density < size then widthFor size n (2 * width) else width

def unfold (t : Table α) : Table α :=
  match t.parts with
  | none => t
  | some parts =>
    let width := widthFor parts.size 40 64
    let empty : Array (List Nat) := Array.replicate width []
    { t with
      parts := none, width
      entries := parts.mapIdx fun i value ↦ { number := some (Int.ofNat i + 1), value }
      byText := empty
      byNumber := (List.range parts.size).foldl (fun lists i ↦
        lists.modify ((i + 1) % width) (i :: ·)) empty }

def addTexts (t : Table α) : Table α :=
  if t.hasTexts then t
  else
    let t := t.unfold
    let ids := t.byNumber.toList.flatten
    let t := ids.foldl (fun (t : Table α) id ↦
      match t.textOf id, t.numberOf id with
      | none, some n =>
        let octets := toString n
        { t with
          entries := t.entries.modify id ({ · with text := some octets })
          byText := t.byText.modify (t.textPlace octets) (id :: ·) }
      | _, _ => t) t
    { t with hasTexts := true }

def toFront (id : Nat) (list : List Nat) : List Nat :=
  if list.head? = some id then list else id :: list.erase id

def add (t : Table α) (value : α) : Table α × Nat :=
  let id := t.entries.size
  let t := { t with entries := t.entries.push { value }, size := t.size + 1 }
  (if t.width * density < t.size then t.widen else t, id)

def findText (t : Table α) (octets : String) (fresh : Option α) : Table α × Option Nat :=
  let t := t.addTexts
  let place := t.textPlace octets
  match (t.byText.getD place []).find? fun id ↦ t.textOf id = some octets with
  | some id => ({ t with byText := t.byText.modify place (toFront id) }, some id)
  | none =>
    match fresh with
    | none => (t, none)
    | some value =>
      let (t, id) := t.add value
      ({ t with
        entries := t.entries.modify id ({ · with text := some octets })
        byText := t.byText.modify (t.textPlace octets) (id :: ·) }, some id)

def findNumber (t : Table α) (n : Int) (fresh : Option α) : Table α × Option Nat :=
  let place := t.numberPlace n
  match (t.byNumber.getD place []).find? fun id ↦ t.numberOf id = some n with
  | some id => ({ t with byNumber := t.byNumber.modify place (toFront id) }, some id)
  | none =>
    let (t, id?) :=
      if t.hasTexts then t.findText (toString n) fresh
      else
        match fresh with
        | none => (t, none)
        | some value =>
          let (t, id) := t.add value
          (t, some id)
    match id? with
    | none => (t, none)
    | some id =>
      ({ t with
        entries := t.entries.modify id ({ · with number := some n })
        byNumber := t.byNumber.modify (t.numberPlace n) (id :: ·) }, some id)

def part? (t : Table α) : Key → Option Nat
  | .number n =>
    if t.parts.isSome && 1 ≤ n && n ≤ t.size then some (n.toNat - 1) else none
  | .text _ => none

def find (t : Table α) (key : Key) (fresh : Option α) : Table α × Option Nat :=
  if t.size = 0 && fresh.isNone then (t, none)
  else
    match key with
    | .number n => t.unfold.findNumber n fresh
    | .text octets => t.findText octets fresh

def contains (t : Table α) (key : Key) : Table α × Bool :=
  if (t.part? key).isSome then (t, true)
  else
    let (t, id) := t.find key none
    (t, id.isSome)

def get (t : Table α) (key : Key) (fresh : α) : Table α × α :=
  match t.part? key with
  | some i => (t, (t.parts.bind (·[i]?)).getD fresh)
  | none =>
    let (t, id) := t.find key (some fresh)
    (t, ((id.bind (t.entries[·]?)).map Entry.value).getD fresh)

def set (t : Table α) (key : Key) (value : α) : Table α :=
  match t.part? key with
  | some i => { t with parts := t.parts.map (·.setIfInBounds i value) }
  | none =>
    match t.find key (some value) with
    | (t, some id) => { t with entries := t.entries.modify id ({ · with value }) }
    | (t, none) => t

def erase (t : Table α) (key : Key) : Table α :=
  if t.size = 0 then t
  else if (t.part? key) = some (t.size - 1) then
    if t.size = 1 then {} else { t with size := t.size - 1, parts := t.parts.map (·.pop) }
  else
    match t.unfold.find key none with
    | (t, none) => t
    | (t, some id) =>
      if t.size = 1 then {}
      else
        let drop (lists : Array (List Nat)) (place : Option Nat) : Array (List Nat) :=
          match place with
          | some place => lists.modify place (·.erase id)
          | none => lists
        { t with
          size := t.size - 1
          byText := drop t.byText ((t.textOf id).map t.textPlace)
          byNumber := drop t.byNumber ((t.numberOf id).map t.numberPlace) }

/-- All subscripts, in the order in which the lists hold them. -/
def keys (t : Table α) : Table α × List String :=
  if t.size = 0 then (t, [])
  else
    let t := t.addTexts
    (t, t.byText.toList.flatten.filterMap t.textOf)

end Table

end RegisterLang.Tool.Record
