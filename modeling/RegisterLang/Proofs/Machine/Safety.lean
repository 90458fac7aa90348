import RegisterLang.Proofs.Bytecode.Heights
import RegisterLang.Proofs.Machine.Run

namespace RegisterLang

def Op.betweenExpressions : Op → Bool
  | store _ | read _ | print | jumpUnless _ _ | jump _ | halt => true
  | load _ | loadVariable _ | push | apply _ | negate => false

namespace Machine

/-- The machines that calls can bring about, starting from any input and output. A call may fail and
others may follow it, and between two calls the output may begin or cease to fail. -/
inductive Reachable (p : Program) : Machine → Prop where
  | new (input : List UInt8) (output : Sink) : Reachable p { input, output }
  | reset {m : Machine} : Reachable p m → Reachable p m.reset
  | step {m : Machine} : Reachable p m → Reachable p (step p m).2
  | runFor {m : Machine} (steps : Nat) : Reachable p m → Reachable p (runFor p steps m).2
  | execute {m m' : Machine} {limit : Option Nat} {fuel : Nat} {result : Except Fault Unit} :
      Reachable p m → execute p limit fuel m = some (result, m') → Reachable p m'
  | divert {m : Machine} (output : Sink) : Reachable p m → Reachable p { m with output }

structure Level (p : Program) (m : Machine) : Prop where
  position_le : m.position ≤ p.ops.size
  length_eq : m.stack.length = p.height m.position

def Safe (p : Program) {α : Type} (r : Except Fault α × Machine) : Prop :=
  r.1 ≠ .error (.runtime .stackUnderflow) ∧ Level p r.2

variable {p : Program} {m m' : Machine} {op : Op} {P : Machine → Prop}

theorem safe_ok {α : Type} (value : α) (h : Level p m) : Safe p (.ok value, m) :=
  ⟨by simp, h⟩

theorem safe_error {α : Type} {fault : Fault} (hf : fault ≠ .runtime .stackUnderflow)
    (h : Level p m) : Safe p ((.error fault, m) : Except Fault α × Machine) :=
  ⟨by simpa using hf, h⟩

theorem level_reset (m : Machine) : Level p m.reset :=
  ⟨Nat.zero_le _, by simp [reset, Program.height]⟩

theorem apply_ne_underflow {operation : Operation} {lhs rhs : Int64} :
    operation.apply lhs rhs ≠ .error .stackUnderflow := by
  cases operation with
  | add | subtract | multiply => simp [Operation.apply]
  | divide | modulus =>
    rw [Operation.apply]
    split <;> simp

theorem step_safe (hp : p.Sound) (h : Level p m) : Safe p (step p m) := by
  cases ho : p.ops[m.position]? with
  | none =>
    rw [step, ho]
    exact safe_ok _ h
  | some op =>
    have hlt : m.position < p.ops.size := (Array.getElem?_eq_some_iff.1 ho).1
    have hnext := Program.height_succ ho
    have hfits := hp.fits _ _ ho
    have hl := h.length_eq
    rw [step_eq ho]
    cases op with
    | load | loadVariable | store | negate | halt => exact safe_ok _ ⟨hlt, hl.trans hnext.symm⟩
    | push => exact safe_ok _ ⟨hlt, (congrArg (· + 1) hl).trans hnext.symm⟩
    | jump target =>
      exact safe_ok _ ⟨Nat.le_of_lt hfits.2.1, hl.trans (hfits.1.trans hfits.2.2.symm)⟩
    | jumpUnless condition target =>
      rw [runOp]
      split
      · exact safe_ok _ ⟨hlt, hl.trans hnext.symm⟩
      · exact safe_ok _ ⟨Nat.le_of_lt hfits.2.1, hl.trans (hfits.1.trans hfits.2.2.symm)⟩
    | print =>
      rw [runOp]
      split
      · exact safe_ok _ ⟨hlt, hl.trans hnext.symm⟩
      · exact safe_error (by simp) ⟨hlt, hl.trans hnext.symm⟩
    | read name =>
      rw [runOp, readInteger]
      rcases readLine m.input with ⟨_ | line, input⟩
      · exact safe_error (by simp) ⟨hlt, hl.trans hnext.symm⟩
      · exact safe_ok _ ⟨hlt, hl.trans hnext.symm⟩
    | apply operation =>
      obtain ⟨lhs, stack, hst⟩ := List.exists_cons_of_length_pos (Nat.lt_of_lt_of_eq hfits hl.symm)
      have hl' : stack.length = p.height (m.position + 1) := by
        simp only [Op.lift] at hnext
        simp only [hst, List.length_cons] at hl
        omega
      simp only [runOp, hst]
      split
      · exact safe_ok _ ⟨hlt, hl'⟩
      · next fault hfault =>
        refine safe_error (fun h ↦ ?_) ⟨hlt, hl'⟩
        cases h
        exact apply_ne_underflow hfault

theorem settle_safe {α : Type} (value : α) (h : Level p m) : Safe p (settle value m) := by
  rw [settle]
  split
  · exact safe_ok value h
  · exact safe_error (by simp) h

theorem continueFor_safe (hp : p.Sound) (n : Nat) (h : Level p m) : Safe p (continueFor p n m) := by
  induction n generalizing m with
  | zero => exact settle_safe Flow.running h
  | succ n ih =>
    have hs := step_safe hp h
    rw [continueFor]
    generalize step p m = r at hs
    rcases r with ⟨fault | flow, m'⟩
    · exact ⟨fun he ↦ hs.1 (by cases he; rfl), hs.2⟩
    · cases flow with
      | running => exact ih hs.2
      | halted => exact settle_safe Flow.halted hs.2

theorem continueTo_safe (hp : p.Sound) {limit : Option Nat} {fuel : Nat}
    {r : Except Fault Unit × Machine} (h : Level p m)
    (hr : continueTo p limit fuel 0 m = some r) : Safe p r := by
  obtain ⟨k, m₁, hk, hc, -⟩ := closes_of_continueTo (fun _ _ ↦ Nat.zero_le _) hr
  have hl : Level p m₁ := hk.keeps (fun m h ↦ (step_safe hp h).2) h
  have hs := step_safe hp hl
  cases hc with
  | limit => exact safe_error (by simp) hl
  | fault _ h =>
    rw [h] at hs
    exact ⟨fun he ↦ hs.1 (by cases he; rfl), hs.2⟩
  | halt _ h =>
    rw [h] at hs
    exact settle_safe () hs.2

/-- What holds of every machine that is about to start, and is kept by each step and by a change of
the output, holds of all machines that calls can bring about. -/
theorem Reachable.keeps (h : Reachable p m) (hstart : ∀ input output, P { input, output })
    (hstep : ∀ m, P m → P (Machine.step p m).2)
    (hdivert : ∀ m output, P m → P { m with output }) : P m := by
  induction h with
  | new input output => exact hstart input output
  | reset _ _ => exact hstart _ _
  | step _ ih => exact hstep _ ih
  | runFor n _ _ => exact continueFor_keeps hstep n (hstart _ _)
  | execute _ hr _ => exact execute_keeps hstep (hstart _ _) hr
  | divert output _ ih => exact hdivert _ output ih

theorem Reachable.level (hp : p.Sound) (h : Reachable p m) : Level p m :=
  h.keeps (fun input output ↦ level_reset { input, output }) (fun _ h ↦ (step_safe hp h).2)
    fun _ _ h ↦ ⟨h.position_le, h.length_eq⟩

theorem op_eq_halt_of_runOp (h : runOp m op = (.ok .halted, m')) : op = .halt ∧ m' = m := by
  cases op with
  | halt => exact ⟨rfl, (Prod.mk.inj h).2.symm⟩
  | load | loadVariable | store | push | negate | jump => cases h
  | read | print | jumpUnless =>
    rw [runOp] at h
    split at h <;> cases h
  | apply =>
    rw [runOp] at h
    repeat' split at h
    all_goals cases h

theorem halted_step (hp : p.Sound) (h : Level p m) (hs : step p m = (.ok .halted, m')) :
    m' = { m with position := p.ops.size } ∧ step p m' = (.ok .halted, m') := by
  have hend : m' = { m with position := p.ops.size } := by
    cases ho : p.ops[m.position]? with
    | none =>
      rw [step, ho] at hs
      have hle := Array.getElem?_eq_none_iff.1 ho
      rw [← Nat.le_antisymm h.position_le hle]
      exact (Prod.mk.inj hs).2.symm
    | some op =>
      rw [step_eq ho] at hs
      obtain ⟨rfl, rfl⟩ := op_eq_halt_of_runOp hs
      rw [← (hp.halt_iff _).1 ho]
  subst hend
  refine ⟨rfl, ?_⟩
  rw [step, Array.getElem?_eq_none (Nat.le_refl _)]

theorem height_of_betweenExpressions {height : Nat} (h : p.Fits height op)
    (ho : op.betweenExpressions = true) : height = 0 := by
  cases op with
  | load | loadVariable | push | apply | negate => cases ho
  | store | read | print | halt => exact h
  | jump | jumpUnless => exact h.1

theorem target_of_fits {height target : Nat} (h : p.Fits height op)
    (ho : op = .jump target ∨ ∃ condition, op = .jumpUnless condition target) :
    target < p.ops.size := by
  obtain rfl | ⟨condition, rfl⟩ := ho <;> exact h.2.1

/-- Op code of a source text is safe to run. Its jumps stay inside it, and it halts at its last op
only. The index of an op alone says how high the stack is in front of it: never more than two words
for each level of nesting, and nothing between expressions. So no call on a machine ever misses a
word on the stack, even after a call has failed, and a machine that has halted stays as it is. -/
theorem assembled_machine_is_safe (source : String) (p : Program) (h : assemble source = .ok p) :
    (∀ (i target : Nat) (op : Op), p.ops[i]? = some op →
      (op = .jump target ∨ ∃ condition, op = .jumpUnless condition target) →
        target < p.ops.size ∧ target ≠ Op.pending) ∧
    (0 < p.ops.size ∧ ∀ i : Nat, p.ops[i]? = some .halt ↔ i + 1 = p.ops.size) ∧
    ∃ height : Nat → Nat, (∀ i, height i ≤ 2 * (Grammar.nestingLimit + 1)) ∧
      (∀ (i : Nat) (op : Op), p.ops[i]? = some op → op.betweenExpressions = true → height i = 0) ∧
      ∀ m, Reachable p m →
        m.position ≤ p.ops.size ∧ m.stack.length = height m.position ∧
        (step p m).1 ≠ .error (.runtime .stackUnderflow) ∧
        (∀ n, (runFor p n m).1 ≠ .error (.runtime .stackUnderflow)) ∧
        (∀ limit fuel result m', execute p limit fuel m = some (result, m') →
          result ≠ .error (.runtime .stackUnderflow)) ∧
        ∀ m', step p m = (.ok .halted, m') →
          m' = { m with position := p.ops.size } ∧ step p m' = (.ok .halted, m') := by
  have hp := Grammar.sound_of_assemble h
  have hsize : p.ops.size < Op.pending := Nat.lt_of_le_of_lt hp.size_le (by decide)
  refine ⟨fun i target op ho hj ↦ ?_, ⟨hp.size_pos, hp.halt_iff⟩, p.height, hp.height_le,
    fun i op ho hb ↦ height_of_betweenExpressions (hp.fits i op ho) hb, fun m hm ↦ ?_⟩
  · have ht := target_of_fits (hp.fits i op ho) hj
    exact ⟨ht, Nat.ne_of_lt (Nat.lt_trans ht hsize)⟩
  · have hl := hm.level hp
    exact ⟨hl.position_le, hl.length_eq, (step_safe hp hl).1,
      fun n ↦ (continueFor_safe hp n (level_reset m)).1,
      fun limit fuel result m' hr ↦ (continueTo_safe hp (level_reset m) hr).1,
      fun m' hs ↦ halted_step hp hl hs⟩

theorem assembled_machine_is_safe_division :
    assemble "BEGIN PRINT 1 + 2 / x END" = .ok ⟨#[.load 1, .push, .load 2, .push,
      .loadVariable "x", .apply .divide, .apply .add, .print, .halt]⟩ ∧
    ∀ m, Reachable ⟨#[.load 1, .push, .load 2, .push, .loadVariable "x", .apply .divide,
      .apply .add, .print, .halt]⟩ m →
      (step ⟨#[.load 1, .push, .load 2, .push, .loadVariable "x", .apply .divide, .apply .add,
        .print, .halt]⟩ m).1 ≠ .error (.runtime .stackUnderflow) := by
  have h : assemble "BEGIN PRINT 1 + 2 / x END" = .ok ⟨#[.load 1, .push, .load 2, .push,
      .loadVariable "x", .apply .divide, .apply .add, .print, .halt]⟩ := by
    refine Grammar.assemble_eq_ok_iff.2 ⟨.program (.sequence (.print (.expression
      (.term (.unsigned (.integer "1")) .noFactors) (.moreTerms .add rfl (.term
        (.unsigned (.integer "2")) (.moreFactors .divide rfl (.identifier "x") .noFactors))
        .noTerms))) .empty), ⟨by decide +kernel, by decide⟩, by decide +kernel, by decide +kernel⟩
  obtain ⟨height, -, -, hm⟩ := (assembled_machine_is_safe _ _ h).2.2
  exact ⟨h, fun m hr ↦ (hm m hr).2.2.1⟩

end Machine

end RegisterLang
