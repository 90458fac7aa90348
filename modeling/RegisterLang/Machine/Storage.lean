namespace RegisterLang

/-- The variables that were set, each with its value, in the order they were first set. -/
structure Storage where
  entries : List (String × Int64) := []
  deriving DecidableEq, Repr

namespace Storage

def get (s : Storage) (name : String) : Int64 := (s.entries.lookup name).getD 0

def put (name : String) (value : Int64) : List (String × Int64) → List (String × Int64)
  | [] => [(name, value)]
  | (n, v) :: rest => if n = name then (n, value) :: rest else (n, v) :: put name value rest

def set (s : Storage) (name : String) (value : Int64) : Storage := ⟨put name value s.entries⟩

theorem lookup_put (name other : String) (value : Int64) (entries : List (String × Int64)) :
    (put name value entries).lookup other =
      if other = name then some value else entries.lookup other := by
  induction entries with
  | nil =>
    by_cases h : other = name
    · simp [put, h]
    · simp [put, List.lookup_cons, beq_eq_false_iff_ne.2 h, h]
  | cons e rest ih =>
    obtain ⟨n, v⟩ := e
    by_cases hn : n = name
    · subst hn
      by_cases h : other = n
      · simp [put, h]
      · simp [put, List.lookup_cons, beq_eq_false_iff_ne.2 h, h]
    · by_cases h : other = n
      · subst h
        simp [put, hn]
      · simp [put, List.lookup_cons, hn, beq_eq_false_iff_ne.2 h, ih]

/-- A variable reads as it was last set, and setting it leaves the others alone. -/
theorem get_set (s : Storage) (name other : String) (value : Int64) :
    (s.set name value).get other = if other = name then value else s.get other := by
  by_cases h : other = name <;> simp [get, set, lookup_put, h]

end Storage

end RegisterLang
