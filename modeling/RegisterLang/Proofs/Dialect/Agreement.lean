import RegisterLang.Proofs.Dialect.Jumps
import RegisterLang.Proofs.Machine.Arithmetic
import RegisterLang.Proofs.Machine.Simulation
import RegisterLang.Proofs.Text.Encoding

namespace RegisterLang

structure Runtime.Faithful (r : Runtime) : Prop where
  apply_eq : ∀ operation lhs rhs, r.apply operation lhs rhs = (operation.apply lhs rhs).toOption
  negate_eq : ∀ value, r.negate value = -value
  read_eq : ∀ {input line rest}, readLine input = (some line, rest) →
    r.read input = (Machine.integerOf line, rest)
  pop_eq : ∀ value stack, r.pop (value :: stack) = some (value, stack)

/-- A target language that does with the next op of a machine what the machine does. -/
structure Runtime.FaithfulAt (r : Runtime) (program : Program) (m : Machine) : Prop where
  apply_eq : ∀ {operation lhs stack}, program.ops[m.position]? = some (.apply operation) →
    m.stack = lhs :: stack →
      r.apply operation lhs m.register = (operation.apply lhs m.register).toOption
  negate_eq : program.ops[m.position]? = some .negate → r.negate m.register = -m.register
  read_eq : ∀ {name line rest}, program.ops[m.position]? = some (.read name) →
    readLine m.input = (some line, rest) → r.read m.input = (Machine.integerOf line, rest)

theorem Runtime.Faithful.faithfulAt {r : Runtime} (h : r.Faithful) (program : Program)
    (m : Machine) : r.FaithfulAt program m where
  apply_eq _ _ := h.apply_eq _ _ _
  negate_eq _ := h.negate_eq _
  read_eq _ hl := h.read_eq hl

namespace Machine

def place (m : Machine) : Nat × Process :=
  (m.position, { register := m.register, stack := m.stack, scene := m.view })

/-- A machine between an input that is text and an output that takes all that is written. -/
structure Connected (m : Machine) : Prop where
  healthy : m.Healthy
  valid : Utf8.Valid m.input

variable {r : Runtime} {program : Program} {m m' : Machine} {n : Nat} {y : Nat × Process}

/-- What the machine and a target language can do with the next op: both go on to the same place,
both stop at a division by zero, or none of them goes on. -/
inductive InStep (r : Runtime) (program : Program) (m : Machine) : Prop where
  | running {m' : Machine} (step_eq : step program m = (.ok .running, m'))
      (steps : Steps r program m.place m'.place) (connected : m'.Connected)
  | stopped {m' : Machine} (step_eq : step program m = (.error (.runtime .divisionByZero), m'))
      (view_eq : m'.view = m.view) (stops : Stops r program m.place)
  | ended (not_running : ∀ m', step program m ≠ (.ok .running, m'))
      (not_live : ¬ Live program m.place)

theorem inStep_apply (hpop : r.Pops) (hr : r.FaithfulAt program m) (hm : m.Connected)
    {operation : Operation} (hop : program.ops[m.position]? = some (.apply operation)) :
    InStep r program m := by
  cases hst : m.stack with
  | nil =>
    refine .ended (by simp [step, hop, runOp, hst]) ?_
    rintro ⟨op, hop', -, hne⟩
    cases hop.symm.trans hop'
    exact hne operation rfl hst
  | cons lhs stack =>
    have hready : (Simple.apply operation).Ready m.place.2 := by simp [Simple.Ready, place, hst]
    have ha := hr.apply_eq hop hst
    cases hx : operation.apply lhs m.register with
    | ok value =>
      rw [hx] at ha
      have hstep : step program m =
          (.ok .running, { m with position := m.position + 1, register := value, stack }) := by
        rw [step_eq hop]
        simp [runOp, hst, hx]
      refine .running hstep (.simple hop rfl hready ?_) ⟨hm.healthy, hm.valid⟩
      simp [Simple.run, hst, hpop _ _, ha, Except.toOption, view]
    | error fault =>
      rw [hx] at ha
      have hstep : step program m =
          (.error (.runtime fault), { m with position := m.position + 1, stack }) := by
        rw [step_eq hop]
        simp [runOp, hst, hx]
      rw [eq_divisionByZero_of_apply hx] at hstep
      refine .stopped hstep rfl ⟨_, _, hop, rfl, hready, ?_⟩
      simp [Simple.run, place, hst, hpop _ _, ha, Except.toOption]

theorem inStep (hpop : r.Pops) (hr : r.FaithfulAt program m) (hm : m.Connected) :
    InStep r program m := by
  cases hop : program.ops[m.position]? with
  | none =>
    refine .ended (by simp [step, hop]) ?_
    rintro ⟨op, hop', -⟩
    cases hop.symm.trans hop'
  | some op =>
    cases op with
    | load | loadVariable | push =>
      exact .running (step_eq hop) (.simple hop rfl trivial rfl) ⟨hm.healthy, hm.valid⟩
    | store name =>
      refine .running (step_eq hop) (.simple hop rfl trivial ?_) ⟨hm.healthy, hm.valid⟩
      exact congrArg (fun scene ↦ some (Process.mk m.register m.stack scene))
        (Grammar.view_set m name m.register).symm
    | negate =>
      refine .running (step_eq hop) (.simple hop rfl trivial ?_) ⟨hm.healthy, hm.valid⟩
      simp [Simple.run, hr.negate_eq hop, view]
    | print =>
      exact .running (step_print hop hm.healthy.1) (.simple hop rfl trivial rfl)
        ⟨hm.healthy, hm.valid⟩
    | read name =>
      obtain ⟨line, input, hl, hv⟩ := readLine_of_valid hm.valid
      have hstep : step program m = (.ok .running, { m with
          position := m.position + 1, input,
          storage := m.storage.set name (integerOf line) }) := by
        rw [step_eq hop]
        simp [runOp, readInteger, hl]
      refine .running hstep (.simple hop rfl trivial ?_) ⟨hm.healthy, hv⟩
      simp only [Simple.run, view, hr.read_eq hop hl]
      exact congrArg (fun scene ↦ some (Process.mk m.register m.stack scene))
        (Grammar.view_set { m with input } name (integerOf line)).symm
    | apply operation => exact inStep_apply hpop hr hm hop
    | jump target => exact .running (step_eq hop) (.jump hop) ⟨hm.healthy, hm.valid⟩
    | jumpUnless condition target =>
      have hsteps : Steps r program m.place
          (if condition.holds m.register then m.position + 1 else target, m.place.2) :=
        .jumpUnless hop
      have hstep := step_eq hop
      rw [runOp] at hstep
      by_cases hx : condition.holds m.register
      · rw [if_pos hx] at hstep hsteps
        exact .running hstep hsteps ⟨hm.healthy, hm.valid⟩
      · rw [if_neg hx] at hstep hsteps
        exact .running hstep hsteps ⟨hm.healthy, hm.valid⟩
    | halt => exact .ended (by simp [step, hop, runOp]) (not_live_of_halt hop)

theorem exists_reaches_of_walks (hpop : r.Pops)
    (hr : ∀ k m₁, Reaches program k m m₁ → r.FaithfulAt program m₁) (hm : m.Connected)
    (h : Walks r program n m.place y) :
    ∃ m', Reaches program n m m' ∧ m'.place = y ∧ m'.Connected := by
  induction n generalizing m with
  | zero =>
    cases h
    exact ⟨m, .refl, rfl, hm⟩
  | succ n ih =>
    cases h with
    | cons hs h =>
      cases inStep hpop (hr 0 m .refl) hm with
      | @running m₁ hstep hsteps hm₁ =>
        cases hs.unique hsteps
        obtain ⟨m', hreach, hy, hm'⟩ :=
          ih (fun k m₂ hk ↦ hr (k + 1) m₂ ⟨m₁, hstep, hk⟩) hm₁ h
        exact ⟨m', ⟨m₁, hstep, hreach⟩, hy, hm'⟩
      | stopped _ _ stops => exact absurd hs stops.not_steps
      | ended _ not_live => exact absurd (hs.live) not_live

theorem walks_of_reaches (hpop : r.Pops)
    (hr : ∀ k < n, ∀ m₁, Reaches program k m m₁ → r.FaithfulAt program m₁) (hm : m.Connected)
    (h : Reaches program n m m') : Walks r program n m.place m'.place := by
  induction n generalizing m with
  | zero =>
    cases h
    exact .refl
  | succ n ih =>
    obtain ⟨m₁, hs, h⟩ := h
    cases inStep hpop (hr 0 (Nat.succ_pos n) m .refl) hm with
    | running hstep hsteps hm₁ =>
      cases hs.symm.trans hstep
      exact .cons hsteps
        (ih (fun k hk m₂ hm₂ ↦ hr (k + 1) (by omega) m₂ ⟨m₁, hs, hm₂⟩) hm₁ h)
    | stopped hstep => cases hs.symm.trans hstep
    | ended not_running => exact absurd hs (not_running m₁)

end Machine

open Machine

def Process.start (input : List UInt8) : Process := { scene := ⟨fun _ ↦ 0, input, ""⟩ }

/-- A block does on some input what a program does on the machine: it comes to its end or stops
exactly when the machine halts or divides by zero, with the same output then, and whatever one of
them has written some time the other has written some time. -/
structure BehavesAs (program : Program) (r : Runtime) (block : Block) (input : List UInt8) :
    Prop where
  ends_iff : ∀ output,
    (∃ fuel m, Machine.execute program none fuel { input } = some (.ok (), m) ∧
      m.output.text = output) ↔
    ∃ clock p, block.run r clock (.start input) = (.finished, p) ∧ p.scene.output = output
  stops_iff : ∀ output,
    (∃ fuel m, Machine.execute program none fuel { input } =
      some (.error (.runtime .divisionByZero), m) ∧ m.output.text = output) ↔
    ∃ clock p, block.run r clock (.start input) = (.failed (), p) ∧ p.scene.output = output
  writes_iff : ∀ text : List Char,
    (∃ n, text <+: (Machine.runFor program n { input }).2.output.text.toList) ↔
    ∃ clock, text <+: (block.run r clock (.start input)).2.scene.output.toList

def Outcome.verdict? : Outcome Unit → Option (Except Fault Unit)
  | finished => some (.ok ())
  | failed () => some (.error (.runtime .divisionByZero))
  | left | unfinished => none

inductive Confirms (program : Program) (input : List UInt8) (clock : Nat)
    (q : Outcome Unit × Process) : Prop where
  | ended {fuel : Nat} {m : Machine} {result : Except Fault Unit}
      (verdict_eq : q.1.verdict? = some result)
      (execute_eq : execute program none fuel { input } = some (result, m))
      (output_eq : m.output.text = q.2.scene.output)
  | running {n : Nat} {m : Machine} (verdict_eq : q.1.verdict? = none) (le : clock ≤ n)
      (reaches : Reaches program n { input } m) (output_eq : m.output.text = q.2.scene.output)

variable {r : Runtime} {program : Program} {block : Block} {input : List UInt8}

theorem execute_of_halt {m m' : Machine} {n : Nat} (h : Reaches program n m.reset m')
    (hm : m'.Healthy) (hop : program.ops[m'.position]? = some .halt) :
    execute program none (n + 1) m = some (.ok (), { m' with position := m'.position + 1 }) := by
  rw [execute, Option.getD_none, continueTo_of_reaches h, continueTo_of_halted (step_eq hop)]
  simp [settle, Sink.flush, hm.2]

theorem execute_of_failed {m m₁ m' : Machine} {n : Nat} {fault : Fault}
    (h : Reaches program n m.reset m₁) (hs : step program m₁ = (.error fault, m')) :
    execute program none (n + 1) m = some (.error fault, m') := by
  rw [execute, Option.getD_none, continueTo_of_reaches h, continueTo_of_failed hs]

theorem execute_unique {m : Machine} {fuel fuel' : Nat} {a b : Except Fault Unit × Machine}
    (h : execute program none fuel m = some a) (h' : execute program none fuel' m = some b) :
    a = b := by
  have ha := continueTo_mono h (Nat.le_max_left fuel fuel')
  rw [continueTo_mono h' (Nat.le_max_right fuel fuel')] at ha
  exact (Option.some.inj ha).symm

theorem lt_of_execute {m m' : Machine} {fuel n : Nat} {a : Except Fault Unit × Machine}
    (h : execute program none fuel m = some a) (hreach : Reaches program n m.reset m') :
    n < fuel := by
  refine Nat.lt_of_not_le fun hle ↦ ?_
  rw [execute, Option.getD_none] at h
  cases (continueTo_of_running hreach hle).symm.trans h

namespace Confirms

variable {run : Nat → Outcome Unit × Process}

theorem exists_runFor {clock : Nat} {q : Outcome Unit × Process}
    (h : Confirms program input clock q) :
    ∃ n, clock ≤ n ∧ (runFor program n { input }).2.output.text = q.2.scene.output := by
  cases h with
  | @ended fuel m _ _ execute_eq output_eq =>
    refine ⟨max clock fuel, Nat.le_max_left .., ?_⟩
    have hx := continueTo_mono execute_eq (Nat.le_max_right clock fuel)
    rw [runFor, continueFor_of_continueTo hx, output_eq]
  | @running n m _ le reaches output_eq =>
    have reaches : Reaches program n ({ input } : Machine).reset m := reaches
    refine ⟨n, le, ?_⟩
    rw [runFor, ← Nat.add_zero n, continueFor_of_reaches reaches, continueFor, settle_snd,
      output_eq]

/-- The machine ends as the block does, since a clock that goes further than the fuel of the machine
cannot run out. -/
theorem execute_iff (h : ∀ clock, Confirms program input clock (run clock))
    (result : Except Fault Unit) (output : String) :
    (∃ fuel m, execute program none fuel { input } = some (result, m) ∧ m.output.text = output) ↔
      ∃ clock, (run clock).1.verdict? = some result ∧ (run clock).2.scene.output = output := by
  constructor
  · rintro ⟨fuel, m, hx, rfl⟩
    refine ⟨fuel, ?_⟩
    cases h fuel with
    | ended verdict_eq execute_eq output_eq =>
      cases execute_unique hx execute_eq
      exact ⟨verdict_eq, output_eq.symm⟩
    | running _ le reaches => exact absurd (lt_of_execute hx reaches) (Nat.not_lt.2 le)
  · rintro ⟨clock, hr, rfl⟩
    cases h clock with
    | ended verdict_eq execute_eq output_eq =>
      cases hr.symm.trans verdict_eq
      exact ⟨_, _, execute_eq, output_eq⟩
    | running verdict_eq => cases hr.symm.trans verdict_eq

theorem writes_iff (h : ∀ clock, Confirms program input clock (run clock)) (text : List Char) :
    (∃ n, text <+: (runFor program n { input }).2.output.text.toList) ↔
      ∃ clock, text <+: (run clock).2.scene.output.toList := by
  constructor
  · rintro ⟨n, hn⟩
    obtain ⟨k, hk, hw⟩ := (h n).exists_runFor
    refine ⟨n, ?_⟩
    rw [← hw]
    exact hn.trans (continueFor_output_mono program hk _)
  · rintro ⟨clock, ht⟩
    obtain ⟨n, -, hw⟩ := (h clock).exists_runFor
    exact ⟨n, by rwa [hw]⟩

theorem behavesAs (h : ∀ clock, Confirms program input clock (block.run r clock (.start input))) :
    BehavesAs program r block input := by
  refine ⟨fun output ↦ ?_, fun output ↦ ?_, writes_iff h⟩
  · rw [execute_iff h]
    refine exists_congr fun clock ↦ ?_
    rcases block.run r clock (.start input) with ⟨outcome, p⟩
    cases outcome <;> simp [Outcome.verdict?]
  · rw [execute_iff h]
    refine exists_congr fun clock ↦ ?_
    rcases block.run r clock (.start input) with ⟨outcome, p⟩
    cases outcome <;> simp [Outcome.verdict?]

end Confirms

namespace Grammar

variable {tree : Tree .program}

theorem getElem?_halt (hc : program.Holds 0 (tree.code 0 Op.pending)) :
    program.ops[tree.size - 1]? = some .halt := by
  cases tree
  simp only [Tree.code, Program.holds_append, Program.holds_cons, Tree.length_code,
    Nat.zero_add] at hc
  exact hc.2.1

theorem confirms (hpop : r.Pops)
    (hc : program.Holds 0 (tree.code 0 Op.pending)) (hf : tree.fault? false = none)
    (hv : Utf8.Valid input)
    (hr : ∀ n m, Reaches program n { input } m → r.FaithfulAt program m) (clock : Nat) :
    Confirms program input clock ((tree.block .done).run r clock (.start input)) := by
  have hm : ({ input } : Machine).Connected := ⟨⟨rfl, rfl⟩, hv⟩
  cases tracked hpop clock tree 0 Op.pending false hc hf (.start input) .done with
  | finished walk _ eq =>
    obtain ⟨m, hreach, hp, hm⟩ := exists_reaches_of_walks hpop hr hm walk
    obtain ⟨hat, rfl⟩ := Prod.mk.inj hp
    rw [eq]
    refine .ended rfl (execute_of_halt hreach hm.healthy ?_) rfl
    rw [hat, Nat.zero_add, getElem?_halt hc]
  | left inside => cases inside
  | stopped walk stops eq =>
    obtain ⟨m, hreach, rfl, hm⟩ := exists_reaches_of_walks hpop hr hm walk
    rw [eq]
    cases inStep hpop (hr _ m hreach) hm with
    | running _ steps => exact absurd steps stops.not_steps
    | stopped step_eq view_eq =>
      exact .ended rfl (execute_of_failed hreach step_eq) (congrArg Scene.output view_eq)
    | ended _ not_live => exact absurd (stops.live) not_live
  | unfinished le walk eq =>
    obtain ⟨m, hreach, rfl, -⟩ := exists_reaches_of_walks hpop hr hm walk
    rw [eq]
    exact .running rfl le hreach rfl

theorem behavesAs (hr : r.Faithful) (hc : program.Holds 0 (tree.code 0 Op.pending))
    (hf : tree.fault? false = none) (hv : Utf8.Valid input) :
    BehavesAs program r (tree.block .done) input :=
  Confirms.behavesAs (confirms hr.pop_eq hc hf hv fun _ _ _ ↦ hr.faithfulAt ..)

theorem exists_run_of_stops (hpop : r.Pops)
    (hc : program.Holds 0 (tree.code 0 Op.pending)) (hf : tree.fault? false = none)
    (hv : Utf8.Valid input) {n : Nat} {m : Machine} (hreach : Reaches program n { input } m)
    (hr : ∀ k < n, ∀ m₁, Reaches program k { input } m₁ → r.FaithfulAt program m₁)
    (hs : Stops r program m.place) :
    ∃ clock, (tree.block .done).run r clock (.start input) = (.failed (), m.place.2) := by
  have hm : ({ input } : Machine).Connected := ⟨⟨rfl, rfl⟩, hv⟩
  have hwalk := walks_of_reaches hpop hr hm hreach
  refine ⟨n + 1, ?_⟩
  cases tracked hpop (n + 1) tree 0 Op.pending false hc hf (.start input) .done with
  | @finished k p walk _ eq =>
    have hend : ¬ Live program (0 + (tree.size - 1), p) :=
      not_live_of_halt (by rw [Nat.zero_add, getElem?_halt hc])
    have hplace := hwalk.eq_of_stuck (fun _ ↦ hs.not_steps) walk fun _ h ↦ hend (h.live)
    exact absurd (hplace ▸ hs.live) hend
  | left inside => cases inside
  | stopped walk stops eq =>
    rw [eq, hwalk.eq_of_stuck (fun _ ↦ hs.not_steps) walk fun _ ↦ stops.not_steps]
  | @unfinished k y le walk eq =>
    obtain ⟨j, rfl⟩ : ∃ j, k = n + (j + 1) := ⟨k - n - 1, by omega⟩
    cases hwalk.from_shorter walk with
    | cons step => exact absurd step hs.not_steps

end Grammar

end RegisterLang
