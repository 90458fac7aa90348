import RegisterLang.Proofs.Grammar.Levels

namespace RegisterLang.Grammar

open Item Production

/-- A stage of a run: the items and tokens that are left, the depth, and the instructions given. -/
structure Stage where
  items : List Item
  depth : Nat
  tokens : List Token
  given : List Instruction

inductive Moves (ending : Option LexicalError) : Stage → Stage → Prop where
  | give {i : Instruction} {items : List Item} {depth : Nat} {ts : List Token}
      {is : List Instruction} :
      Moves ending ⟨.give i :: items, depth, ts, is⟩ ⟨items, depth, ts, is ++ [i]⟩
  | enter {items : List Item} {depth : Nat} {ts : List Token} {is : List Instruction} :
      depth + 1 ≤ nestingLimit →
      Moves ending ⟨.enter :: items, depth, ts, is⟩ ⟨items, depth + 1, ts, is⟩
  | leave {items : List Item} {depth : Nat} {ts : List Token} {is : List Instruction} :
      Moves ending ⟨.leave :: items, depth, ts, is⟩ ⟨items, depth - 1, ts, is⟩
  | sight {t : Token} {items : List Item} {depth : Nat} {ts : List Token}
      {is : List Instruction} :
      Moves ending ⟨.sight t.kind :: items, depth, t :: ts, is⟩ ⟨items, depth, t :: ts, is⟩
  | token {t : Token} {items : List Item} {depth : Nat} {ts : List Token}
      {is : List Instruction} : (ts = [] → ending = none) →
      Moves ending ⟨.token t.kind :: items, depth, t :: ts, is⟩ ⟨items, depth, ts, is⟩
  | production {p : Production} {items : List Item} {depth : Nat} {ts : List Token}
      {is : List Instruction} :
      Moves ending ⟨.production p :: items, depth, ts, is⟩
        ⟨expand p ts.head? ++ items, depth, ts, is⟩

inductive Halts (ending : Option LexicalError) (size : Nat) :
    Stage → Stage → Except SourceError Unit → Prop where
  | done {depth : Nat} {ts : List Token} {is : List Instruction} :
      Halts ending size ⟨[], depth, ts, is⟩ ⟨[], depth, ts, is⟩ (.ok ())
  | tooDeep {items : List Item} {depth : Nat} {ts : List Token} {is : List Instruction} :
      nestingLimit < depth + 1 →
      Halts ending size ⟨.enter :: items, depth, ts, is⟩ ⟨items, depth + 1, ts, is⟩
        (.error (.nesting nestingLimit (frontOf size ts)))
  | broken {t : Token} {items : List Item} {depth : Nat} {is : List Instruction}
      {e : LexicalError} : ending = some e →
      Halts ending size ⟨.token t.kind :: items, depth, [t], is⟩ ⟨items, depth, [], is⟩
        (.error (.lexical e))
  | unmet {item : Item} {kind : Kind} {items : List Item} {depth : Nat} {ts : List Token}
      {is : List Instruction} : item = .token kind ∨ item = .sight kind →
      ts.head?.map Token.kind ≠ some kind →
      Halts ending size ⟨item :: items, depth, ts, is⟩ ⟨item :: items, depth, ts, is⟩
        (.error (.mismatch ⟨kind, ts.head?, frontOf size ts⟩))

inductive Comes (ending : Option LexicalError) : Nat → Stage → Stage → Prop where
  | refl {x : Stage} : Comes ending 0 x x
  | cons {n : Nat} {x y z : Stage} : Moves ending x y → Comes ending n y z →
      Comes ending (n + 1) x z

def Stage.progress (x : Stage) (ending : Option LexicalError) (size : Nat) {σ : Type}
    (give : σ → Instruction → σ) (b : σ) : Progress σ :=
  ⟨x.tokens, ending, size, x.depth, x.given.foldl give b⟩

variable {ending : Option LexicalError} {size n : Nat} {x y : Stage}
variable {result : Except SourceError Unit}

theorem Moves.drive_eq (h : Moves ending x y) {σ : Type} (give : σ → Instruction → σ) (b : σ) :
    drive give x.items (x.progress ending size give b) =
      drive give y.items (y.progress ending size give b) := by
  cases h with
  | give =>
    simp only [Stage.progress, List.foldl_append]
    exact drive_give
  | enter hd => exact drive_enter hd
  | leave => simp only [drive, Stage.progress]
  | sight =>
    simp only [Stage.progress]
    rw [drive, if_pos (by rfl)]
  | token hend => exact drive_taken hend
  | production => exact drive_production

theorem Halts.drive_eq (h : Halts ending size x y result) {σ : Type} (give : σ → Instruction → σ)
    (b : σ) : drive give x.items (x.progress ending size give b) =
      (y.progress ending size give b, result) := by
  cases h with
  | done => rw [drive]
  | tooDeep hd =>
    simp only [Stage.progress]
    rw [drive, if_pos hd, span_eq_frontOf]
  | broken he =>
    simp only [Stage.progress]
    rw [drive]
    simp [he]
  | unmet hitem hk => exact drive_unmet hitem hk

theorem Comes.drive_eq (h : Comes ending n x y) {σ : Type} (give : σ → Instruction → σ) (b : σ) :
    drive give x.items (x.progress ending size give b) =
      drive give y.items (y.progress ending size give b) := by
  induction h with
  | refl => rfl
  | cons hm _ ih => exact (hm.drive_eq give b).trans ih

/-- What stands behind some items is driven when they have been followed to their end. -/
theorem drive_append {σ : Type} (give : σ → Instruction → σ) (items rest : List Item)
    (s : Progress σ) :
    drive give (items ++ rest) s = match drive give items s with
      | (s', .ok ()) => drive give rest s'
      | (s', .error e) => (s', .error e) := by
  fun_induction drive give items s with
  | case1 s => rfl
  | case2 _ items s ih | case5 items s ih => rw [List.cons_append, drive, ih]
  | case3 items s hn => rw [List.cons_append, drive, if_pos hn]
  | case4 items s hn ih => rw [List.cons_append, drive, if_neg hn, ih]
  | case6 kind items s hk ih => rw [List.cons_append, drive, if_pos hk, ih]
  | case7 kind items s hk => rw [List.cons_append, drive, if_neg hk]
  | case8 kind items s hs =>
    rw [List.cons_append, drive]
    split
    · rfl
    · simp_all
  | case9 | case10 | case11 =>
    rw [List.cons_append, drive]
    split <;> simp_all
  | case12 p items s ih => rw [List.cons_append, drive, ← List.append_assoc, ih]

theorem moves_or_halts (ending : Option LexicalError) (size : Nat) (x : Stage) :
    (∃ y, Moves ending x y) ∨ ∃ y result, Halts ending size x y result := by
  obtain ⟨items, depth, ts, is⟩ := x
  cases items with
  | nil => exact .inr ⟨_, _, .done⟩
  | cons item items =>
    cases item with
    | give i => exact .inl ⟨_, .give⟩
    | leave => exact .inl ⟨_, .leave⟩
    | production p => exact .inl ⟨_, .production⟩
    | enter =>
      obtain hd | hd := Nat.lt_or_ge nestingLimit (depth + 1)
      · exact .inr ⟨_, _, .tooDeep hd⟩
      · exact .inl ⟨_, .enter hd⟩
    | sight kind =>
      by_cases hk : ts.head?.map Token.kind = some kind
      · obtain ⟨t, ht, rfl⟩ := Option.map_eq_some_iff.1 hk
        obtain ⟨ts, rfl⟩ := List.head?_eq_some_iff.1 ht
        exact .inl ⟨_, .sight⟩
      · exact .inr ⟨_, _, .unmet (.inr rfl) hk⟩
    | token kind =>
      by_cases hk : ts.head?.map Token.kind = some kind
      · obtain ⟨t, ht, rfl⟩ := Option.map_eq_some_iff.1 hk
        obtain ⟨ts, rfl⟩ := List.head?_eq_some_iff.1 ht
        cases ts with
        | cons t' ts => exact .inl ⟨_, .token (by simp)⟩
        | nil =>
          cases ending with
          | none => exact .inl ⟨_, .token fun _ ↦ rfl⟩
          | some e => exact .inr ⟨_, _, .broken rfl⟩
      · exact .inr ⟨_, _, .unmet (.inl rfl) hk⟩

inductive Expands : Production → List Item → Prop where
  | empty {p : Production} : p.isNullable = true → Expands p []
  | program : Expands program [token .programStart, give .programStart, production block,
      sight .blockEnd, give .programEnd]
  | sequence : Expands block [production statement, production block]
  | conditional {kind : Kind} {condition : Condition} :
      Expands statement (conditional kind condition)
  | loop : Expands statement loopStatement
  | leave : Expands statement [token .leave, give .exitLoop]
  | print : Expands statement [token .print, production expression, give .print]
  | read : Expands statement [token .read, production readTarget]
  | assignment {t : Token} : Expands statement (assignment t)
  | otherwise : Expands alternative [token .otherwise, give .otherwise, production block]
  | name {i : Instruction} : Expands readTarget [token .identifier, give i]
  | noName {p : Production} : p = statement ∨ p = readTarget → Expands p [token .identifier]
  | expression : Expands expression [production term, production moreTerms]
  | moreTerms {kind : Kind} {operation : Operation} :
      Expands moreTerms (operatorTail kind operation term moreTerms)
  | term : Expands term [production signed, production moreFactors]
  | moreFactors {kind : Kind} {operation : Operation} :
      Expands moreFactors (operatorTail kind operation factor moreFactors)
  | unsigned : Expands signed [production factor]
  | plus : Expands signed [token .plus, production factor]
  | minus : Expands signed [token .minus, production factor, give .negate]
  | operand {kind : Kind} {i : Instruction} : Expands factor [token kind, give i]
  | group : Expands factor parenthesised

theorem expands_expand (p : Production) (ahead : Option Token) : Expands p (expand p ahead) := by
  cases p with
  | program => exact .program
  | block =>
    cases ahead with
    | none => exact .empty rfl
    | some t =>
      simp only [expand]
      split
      · exact .empty rfl
      · exact .sequence
  | statement =>
    cases ahead with
    | none => exact .noName (.inl rfl)
    | some t =>
      simp only [expand, statementItems]
      split
      · exact .conditional
      · exact .loop
      · exact .leave
      · exact .print
      · exact .read
      · exact .assignment
  | alternative =>
    simp only [expand]
    split
    · exact .otherwise
    · exact .empty rfl
  | readTarget =>
    cases ahead with
    | none => exact .noName (.inr rfl)
    | some t => exact .name
  | expression => exact .expression
  | moreTerms =>
    simp only [expand]
    split
    · exact .empty rfl
    · exact .moreTerms
  | term => exact .term
  | moreFactors =>
    simp only [expand]
    split
    · exact .empty rfl
    · exact .moreFactors
  | signed =>
    simp only [expand]
    split
    · exact .plus
    · exact .minus
    · exact .unsigned
  | factor =>
    cases ahead with
    | none => exact .group
    | some t =>
      simp only [expand]
      split
      · exact .operand
      · exact .operand
      · exact .group

/-- What the tokens that a production takes at the least spare of the items behind it. -/
def Production.saving : Production → Nat
  | statement => 4
  | term => 3
  | signed | factor => 6
  | _ => 0

def allowance : Nat := 14

/-- Bounds the steps that a list of items takes in all, less those that are paid for by the tokens
that it takes. -/
def effort : List Item → Nat
  | [] => 0
  | token _ :: rest => 1 + (effort rest - allowance)
  | production p :: rest => p.weight + (effort rest - p.saving)
  | _ :: rest => effort rest + 1

/-- To expand a production takes a step and adds none that its tokens do not pay for. -/
theorem Expands.effort_lt {p : Production} {items : List Item} (h : Expands p items)
    (rest : List Item) : effort (items ++ rest) < effort (production p :: rest) := by
  cases h with
  | @empty p hp =>
    cases p with
    | block | alternative | moreTerms | moreFactors => simp [effort, weight, saving]
    | _ => cases hp
  | noName hp =>
    obtain rfl | rfl := hp <;> simp only [List.cons_append, List.nil_append, effort, weight, saving,
      allowance] <;> omega
  | _ =>
    simp only [Grammar.conditional, loopStatement, Grammar.assignment, operatorTail, parenthesised,
      List.cons_append, List.nil_append, effort, weight, saving, allowance]
    omega

def Stage.measure (x : Stage) : Nat := effort x.items + allowance * x.tokens.length

theorem Moves.measure_lt (h : Moves ending x y) : y.measure < x.measure := by
  cases h with
  | production => exact Nat.add_lt_add_right ((expands_expand ..).effort_lt _) _
  | token =>
    simp only [Stage.measure, effort, List.length_cons, allowance]
    omega
  | _ =>
    simp only [Stage.measure, effort]
    omega

theorem Comes.measure_le (h : Comes ending n x y) : n + y.measure ≤ x.measure := by
  induction h with
  | refl => exact (Nat.zero_add _).le
  | cons hm _ ih =>
    have hlt := hm.measure_lt
    omega

theorem exists_halts (ending : Option LexicalError) (size : Nat) (x : Stage) :
    ∃ n y z result, Comes ending n x y ∧ Halts ending size y z result := by
  induction hm : x.measure using Nat.strongRecOn generalizing x with
  | ind m ih =>
    obtain ⟨y, hy⟩ | ⟨y, result, hy⟩ := moves_or_halts ending size x
    · obtain ⟨n, z, last, result, hcomes, hhalts⟩ := ih _ (hm ▸ hy.measure_lt) y rfl
      exact ⟨n + 1, z, last, result, .cons hy hcomes, hhalts⟩
    · exact ⟨0, x, y, result, .refl, hy⟩

theorem Moves.suffix (h : Moves ending x y) : y.tokens <:+ x.tokens := by
  cases h with
  | token => exact List.suffix_cons _ _
  | _ => exact List.suffix_rfl

theorem Comes.suffix (h : Comes ending n x y) : y.tokens <:+ x.tokens := by
  induction h with
  | refl => exact List.suffix_rfl
  | cons hm _ ih => exact ih.trans hm.suffix

end RegisterLang.Grammar
