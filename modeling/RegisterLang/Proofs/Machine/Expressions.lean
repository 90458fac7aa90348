import RegisterLang.Proofs.Grammar.Discipline
import RegisterLang.Proofs.Machine.Safety
import RegisterLang.Proofs.Semantics.Formula

namespace RegisterLang

/-- What an op does to the register and the stack. This is not said of ops that jump, write, read,
store or halt. -/
def Op.effect (values : String → Int64) :
    Op → Int64 × List Int64 → Except RuntimeFault (Int64 × List Int64)
  | load value, (_, stack) => .ok (value, stack)
  | loadVariable name, (_, stack) => .ok (values name, stack)
  | push, (register, stack) => .ok (register, register :: stack)
  | apply _, (_, []) => .error .stackUnderflow
  | apply operation, (register, lhs :: stack) => do return (← operation.apply lhs register, stack)
  | negate, (register, stack) => .ok (-register, stack)
  | _, s => .ok s

def effects (values : String → Int64) :
    List Op → Int64 × List Int64 → Except RuntimeFault (Int64 × List Int64)
  | [], s => .ok s
  | op :: ops, s => op.effect values s >>= effects values ops

theorem effects_append (values : String → Int64) (ops more : List Op) (s : Int64 × List Int64) :
    effects values (ops ++ more) s = effects values ops s >>= effects values more := by
  induction ops generalizing s with
  | nil => rfl
  | cons op ops ih => simp only [List.cons_append, effects, bind_assoc, funext ih]

namespace Machine

/-- A number of ops in a row end with a register and a stack, or one of them fails. They leave
variables, input and output alone. -/
def Passes (p : Program) (m : Machine) (count : Nat) :
    Except RuntimeFault (Int64 × List Int64) → Prop
  | .ok (register, stack) =>
    Reaches p count m { m with position := m.position + count, register, stack }
  | .error fault => ∃ n m₁ m', n < count ∧ Reaches p n m m₁ ∧ m₁.position = m.position + n ∧
      step p m₁ = (.error (.runtime fault), m') ∧
      m'.storage = m.storage ∧ m'.input = m.input ∧ m'.output = m.output

variable {p : Program} {m : Machine}

theorem step_of_effect {op : Op} (h : p.ops[m.position]? = some op)
    (hop : op.betweenExpressions = false) :
    step p m = match op.effect m.storage.get (m.register, m.stack) with
      | .ok (register, stack) =>
        (.ok .running, { m with position := m.position + 1, register, stack })
      | .error fault =>
        (.error (.runtime fault),
          { m with position := m.position + 1, stack := m.stack.tail }) := by
  rw [step_eq h]
  cases op with
  | load | loadVariable | push | negate => rfl
  | apply operation =>
    obtain ⟨position, register, stack, storage, input, output⟩ := m
    cases stack with
    | nil => rfl
    | cons lhs stack =>
      simp only [runOp, Op.effect]
      cases operation.apply lhs register <;> rfl
  | store | read | print | jumpUnless | jump | halt => cases hop

theorem Passes.of_step {register : Int64} {stack : List Int64} {count : Nat}
    {r : Except RuntimeFault (Int64 × List Int64)}
    (h : step p m = (.ok .running, { m with position := m.position + 1, register, stack }))
    (hmore : Passes p { m with position := m.position + 1, register, stack } count r) :
    Passes p m (count + 1) r := by
  have hone := Nat.add_assoc m.position 1
  cases r with
  | ok s =>
    refine ⟨_, h, ?_⟩
    simpa only [Passes, hone, Nat.add_comm 1] using hmore
  | error fault =>
    obtain ⟨n, m₁, m', hlt, hn, hposition, hfails, hkept⟩ := hmore
    refine ⟨n + 1, m₁, m', Nat.succ_lt_succ hlt, ⟨_, h, hn⟩, ?_, hfails, hkept⟩
    rw [hposition, hone, Nat.add_comm 1]

theorem passes_of_holds {ops : List Op} (hp : p.Holds m.position ops)
    (hops : ∀ op ∈ ops, op.betweenExpressions = false) :
    Passes p m ops.length (effects m.storage.get ops (m.register, m.stack)) := by
  induction ops generalizing m with
  | nil => exact (Reaches.refl : Reaches p 0 m m)
  | cons op ops ih =>
    obtain ⟨hop, hrest⟩ := List.forall_mem_cons.1 hops
    have hstep := step_of_effect hp.1 hop
    rw [effects]
    cases he : op.effect m.storage.get (m.register, m.stack) with
    | error fault =>
      rw [he] at hstep
      exact ⟨0, m, _, Nat.succ_pos _, .refl, rfl, hstep, rfl, rfl, rfl⟩
    | ok s =>
      obtain ⟨register, stack⟩ := s
      rw [he] at hstep
      exact .of_step hstep (@ih { m with position := m.position + 1, register, stack } hp.2 hrest)

end Machine

namespace Grammar

open Discipline Assembler

structure Straight {q : Production} (t : Tree q) (ops : List Op) : Prop where
  code_eq : ∀ base exit, t.code base exit = ops
  exits_eq : ∀ base, t.exits base = []
  not_between : ∀ op ∈ ops, op.betweenExpressions = false

theorem exists_straight {q : Production} (t : Tree q) (hq : inExpression q = true) :
    ∃ ops, Straight t ops := by
  induction t with
  | expression first rest ihf ihr | term first rest ihf ihr =>
    obtain ⟨f, hf⟩ := ihf rfl
    obtain ⟨r, hr⟩ := ihr rfl
    refine ⟨f ++ r, fun base exit ↦ ?_, fun base ↦ ?_, ?_⟩
    · rw [Tree.code, hf.code_eq, hr.code_eq]
    · rw [Tree.exits, hf.exits_eq, hr.exits_eq, List.append_nil]
    · exact List.forall_mem_append.2 ⟨hf.not_between, hr.not_between⟩
  | noTerms | noFactors => exact ⟨[], fun _ _ ↦ rfl, fun _ ↦ rfl, List.forall_mem_nil _⟩
  | moreTerms operation _ next rest ihn ihr | moreFactors operation _ next rest ihn ihr =>
    obtain ⟨n, hn⟩ := ihn rfl
    obtain ⟨r, hr⟩ := ihr rfl
    refine ⟨.push :: (n ++ .apply operation :: r), fun base exit ↦ ?_, fun base ↦ ?_, ?_⟩
    · rw [Tree.code, hn.code_eq, hr.code_eq]
    · rw [Tree.exits, hn.exits_eq, hr.exits_eq, List.append_nil]
    · simp only [List.forall_mem_cons, List.forall_mem_append]
      exact ⟨rfl, hn.not_between, rfl, hr.not_between⟩
  | unsigned factor ih | plus factor ih | group factor ih =>
    obtain ⟨ops, hops⟩ := ih rfl
    exact ⟨ops, hops.code_eq, hops.exits_eq, hops.not_between⟩
  | minus factor ih =>
    obtain ⟨ops, hops⟩ := ih rfl
    refine ⟨ops ++ [.negate], fun base exit ↦ ?_, hops.exits_eq, ?_⟩
    · rw [Tree.code, hops.code_eq]
    · exact List.forall_mem_append.2 ⟨hops.not_between, List.forall_mem_singleton.2 rfl⟩
  | integer text | identifier name =>
    exact ⟨_, fun _ _ ↦ rfl, fun _ ↦ rfl, List.forall_mem_singleton.2 rfl⟩
  | program | empty | sequence | conditional | loop | leave | print | read | assign |
    noAlternative | otherwise | target => cases hq

theorem fault?_of_inRange {q : Production} (t : Tree q) (hq : inExpression q = true)
    (h : InRange t.words) (inLoop : Bool) : t.fault? inLoop = none := by
  induction t with
  | expression first rest ihf ihr | term first rest ihf ihr =>
    obtain ⟨hf, hr⟩ := inRange_append.1 h
    exact Option.or_eq_none_iff.2 ⟨ihf rfl hf, ihr rfl hr⟩
  | moreTerms operation _ next rest ihn ihr | moreFactors operation _ next rest ihn ihr =>
    obtain ⟨hn, hr⟩ := inRange_append.1 (inRange_word operation.kind_ne_integer h)
    exact Option.or_eq_none_iff.2 ⟨ihn rfl hn, ihr rfl hr⟩
  | unsigned factor ih => exact ih rfl h
  | plus factor ih | minus factor ih => exact ih rfl (inRange_word (by simp) h)
  | group inner ih => exact ih rfl (inRange_append.1 (inRange_word (by simp) h)).1
  | integer text =>
    obtain ⟨hdigits, hle⟩ := h text (by simp [Tree.words])
    have hsome := mt (Decimal.readInt64?_eq_none_iff hdigits).1 (Nat.not_lt.2 hle)
    exact if_pos (Option.isSome_iff_ne_none.2 hsome)
  | noTerms | noFactors | identifier => rfl
  | program | empty | sequence | conditional | loop | leave | print | read | assign |
    noAlternative | otherwise | target => cases hq

/-- The code of a tree leaves its meaning in the register, and the stack as it was. -/
def Computes (values : String → Int64) : {q : Production} → Tree q → Prop
  | .expression, t | .term, t | .signed, t | .factor, t => ∀ base exit register stack,
    effects values (t.code base exit) (register, stack) = do return (← t.meaning values, stack)
  | .moreTerms, t | .moreFactors, t => ∀ base exit register stack,
    effects values (t.code base exit) (register, stack) =
      do return (← t.meaning values register, stack)
  | _, _ => True

theorem computes (values : String → Int64) {q : Production} (t : Tree q) : Computes values t := by
  induction t with
  | expression first rest ihf ihr | term first rest ihf ihr =>
    intro base exit register stack
    rw [Tree.code, effects_append, ihf]
    simp only [bind_assoc, pure_bind, ihr _ _ _ _, Tree.meaning]
  | noTerms | noFactors => exact fun _ _ _ _ ↦ rfl
  | moreTerms operation _ next rest ihn ihr | moreFactors operation _ next rest ihn ihr =>
    intro base exit register stack
    calc effects values (.push :: (next.code (base + 1) exit ++ .apply operation ::
          rest.code (base + 1 + next.size + 1) exit)) (register, stack)
      _ = effects values (next.code (base + 1) exit ++ .apply operation ::
          rest.code (base + 1 + next.size + 1) exit) (register, register :: stack) := rfl
      _ = _ := by
        rw [effects_append, ihn]
        simp only [effects, Op.effect, bind_assoc, pure_bind, ihr _ _ _ _, Tree.meaning]
  | unsigned factor ih | plus factor ih | group factor ih => exact ih
  | minus factor ih =>
    intro base exit register stack
    rw [Tree.code, effects_append, ih]
    simp only [bind_assoc, pure_bind, effects, Op.effect, Tree.meaning]
    rfl
  | integer text | identifier name => exact fun _ _ _ _ ↦ rfl
  | program | empty | sequence | conditional | loop | leave | print | read | assign |
    noAlternative | otherwise | target => trivial

section

variable {e : Tree .expression} {ops : List Op}

theorem Straight.foldl_give (hs : Straight e ops) (h : InRange e.words) (a : Assembler) :
    e.instructions.foldl give a = { a with ops := a.ops ++ ops.toArray } := by
  obtain ⟨⟨before⟩, branches, loops, fault⟩ := a
  have hlaid := laid e before branches loops fault _ rfl (fault?_of_inRange e rfl h _)
  rw [hs.code_eq, hs.exits_eq, addExits_nil] at hlaid
  simpa using hlaid

theorem Straight.passes (hs : Straight e ops) (h : InRange e.words) {p : Program} {m : Machine}
    (hp : p.Holds m.position ops) :
    m.Passes p ops.length (do return (← e.formula.evaluate m.storage.get, m.stack)) := by
  have hvalue : e.meaning m.storage.get = e.formula.evaluate m.storage.get :=
    evaluated m.storage.get e h
  have heffects := computes m.storage.get e 0 0 m.register m.stack
  rw [hs.code_eq, hvalue] at heffects
  exact heffects ▸ Machine.passes_of_holds hp hs.not_between

end

/-- The op code of an expression is the same wherever it stands, and has only ops that load, push,
apply and negate. From any machine it is run through to the value of the expression, with the stack
and all else as it was, or, if a divisor in it is zero, up to an op that fails for that reason. -/
theorem expression_code_computes_formula (e : Tree .expression) (h : InRange e.words) :
    ∃ ops : List Op,
      (∀ a : Assembler, e.instructions.foldl give a = { a with ops := a.ops ++ ops.toArray }) ∧
      (∀ (a : Assembler) (ts more : List Token) (items : List Item) (ending : Option LexicalError)
        (size depth : Nat), ts.map Token.word = e.words →
        Production.expression.Ends (more.map Token.word) → more ≠ [] →
        depth + e.nesting ≤ nestingLimit →
        drive give (.production .expression :: items) ⟨ts ++ more, ending, size, depth, a⟩ =
          drive give items
            ⟨more, ending, size, depth, { a with ops := a.ops ++ ops.toArray }⟩) ∧
      (∀ op ∈ ops, op.betweenExpressions = false) ∧
      ∀ (p : Program) (m : Machine), p.Holds m.position ops →
        (e.formula.dividesByZero m.storage.get = false →
          Machine.Reaches p ops.length m { m with
            position := m.position + ops.length
            register := e.formula.value m.storage.get }) ∧
        (e.formula.dividesByZero m.storage.get = true → ∃ n m₁ m', n < ops.length ∧
          Machine.Reaches p n m m₁ ∧ m₁.position = m.position + n ∧
          Machine.step p m₁ = (.error (.runtime .divisionByZero), m') ∧
          m'.storage = m.storage ∧ m'.input = m.input ∧ m'.output = m.output) := by
  obtain ⟨ops, hs⟩ := exists_straight e rfl
  refine ⟨ops, hs.foldl_give h, fun a ts more items ending size depth hw he hm hd ↦ ?_,
    hs.not_between, fun p m hp ↦ ?_⟩
  · rw [drive_tree e rfl hw he hm hd, hs.foldl_give h]
  · have hpasses := hs.passes h hp
    constructor
    · intro hzero
      rw [Formula.evaluate, hzero] at hpasses
      exact hpasses
    · intro hzero
      rw [Formula.evaluate, hzero] at hpasses
      exact hpasses

theorem expression_code_computes_formula_remainder :
    InRange (Tree.expression (.term (.unsigned (.integer "7")) .noFactors)
      (.moreTerms .subtract rfl (.term (.unsigned (.integer "2")) .noFactors)
        (.moreTerms .subtract rfl (.term (.minus (.identifier "x"))
          (.moreFactors .modulus rfl (.integer "3") .noFactors)) .noTerms))).words ∧
    Machine.Reaches ⟨#[.load 7, .push, .load 2, .apply .subtract, .push, .loadVariable "x",
        .negate, .push, .load 3, .apply .modulus, .apply .subtract]⟩ 11
      { stack := [5], storage := ⟨[("x", 4)]⟩ }
      { position := 11, register := 6, stack := [5], storage := ⟨[("x", 4)]⟩ } := by
  have h : InRange (Tree.expression (.term (.unsigned (.integer "7")) .noFactors)
      (.moreTerms .subtract rfl (.term (.unsigned (.integer "2")) .noFactors)
        (.moreTerms .subtract rfl (.term (.minus (.identifier "x"))
          (.moreFactors .modulus rfl (.integer "3") .noFactors)) .noTerms))).words := by
    decide +kernel
  refine ⟨h, ?_⟩
  obtain ⟨ops, hgive, -, -, hrun⟩ := expression_code_computes_formula _ h
  obtain rfl : ops = [.load 7, .push, .load 2, .apply .subtract, .push, .loadVariable "x",
      .negate, .push, .load 3, .apply .modulus, .apply .subtract] := by
    have hops := congrArg (fun a ↦ a.ops.toList) (hgive {})
    calc ops
      _ = _ := by simpa using hops.symm
      _ = _ := by decide +kernel
  exact (hrun _ { stack := [5], storage := ⟨[("x", 4)]⟩ } (Program.holds_all _)).1
    (by decide +kernel)

end Grammar

end RegisterLang
