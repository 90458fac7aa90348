import RegisterLang.Proofs.Machine.Input

namespace RegisterLang

namespace Machine

/-- A whole run of the program within a limit, by the number of ops that left the machine running.
-/
def Completes (p : Program) (limit : Option Nat) (count : Nat) (m : Machine)
    (r : Except Fault Unit × Machine) : Prop :=
  ∃ m₁, Reaches p count m.reset m₁ ∧ Closes p limit count m₁ r

variable {p : Program} {m m' m₁ m₂ : Machine} {n k count : Nat} {limit : Option Nat}
variable {r : Except Fault Unit × Machine}

namespace Reaches

theorem from_shorter (h : Reaches p n m m₁) (h' : Reaches p k m m₂) (hle : n ≤ k) :
    Reaches p (k - n) m₁ m₂ := by
  induction n generalizing m k with
  | zero =>
    cases h
    exact h'
  | succ n ih =>
    obtain ⟨k, rfl⟩ : ∃ j, k = j + 1 := ⟨k - 1, by omega⟩
    obtain ⟨a, ha, h⟩ := h
    obtain ⟨b, hb, h'⟩ := h'
    cases ha.symm.trans hb
    rw [Nat.add_sub_add_right]
    exact ih h h' (by omega)

theorem output_grows (h : Reaches p n m m₁) :
    m.output.text.toList <+: m₁.output.text.toList :=
  h.keeps (P := fun m' ↦ m.output.text.toList <+: m'.output.text.toList)
    (fun m' hm' ↦ hm'.trans (step_output p m')) List.prefix_rfl

end Reaches

namespace Closes

theorem not_running (h : Closes p limit count m r) (hl : ∀ n ∈ limit, count < n) :
    step p m ≠ (.ok .running, m') := by
  intro hs
  cases h with
  | limit he => exact absurd (hl count he) (Nat.lt_irrefl count)
  | fault _ hf => cases hf.symm.trans hs
  | halt _ hh => cases hh.symm.trans hs

theorem le (h : Closes p limit count m r) : ∀ n ∈ limit, count ≤ n := by
  intro n hn
  cases h with
  | limit he =>
    cases he.symm.trans hn
    exact Nat.le_refl count
  | fault hl | halt hl => exact Nat.le_of_lt (hl n hn)

theorem output_grows (h : Closes p limit count m r) :
    m.output.text.toList <+: r.2.output.text.toList := by
  have hstep := step_output p m
  cases h with
  | limit => exact List.prefix_rfl
  | fault _ hs => rwa [hs] at hstep
  | halt _ hs =>
    rw [hs] at hstep
    simpa using hstep

end Closes

theorem fuel_pos {fuel done : Nat} (hwithin : ∀ b ∈ limit, done < b)
    (hfuel : ∀ b ∈ limit, b ≤ done + fuel) (hnone : limit = none → 0 < fuel) : 0 < fuel := by
  cases limit with
  | none => exact hnone rfl
  | some b =>
    have hlt := hwithin b rfl
    have hle := hfuel b rfl
    omega

theorem continueTo_of_closes {fuel done : Nat} (hk : Reaches p k m m₁)
    (hc : Closes p limit (done + k) m₁ r) (hfuel : ∀ b ∈ limit, b ≤ done + fuel)
    (hnone : limit = none → k < fuel) : continueTo p limit fuel done m = some r := by
  induction k generalizing m done fuel with
  | zero =>
    cases hk
    rw [Nat.add_zero] at hc
    cases hc with
    | limit hlimit => exact continueTo_at_limit hlimit
    | fault hwithin hs | halt hwithin hs =>
      obtain ⟨fuel, rfl⟩ := Nat.exists_eq_add_one.2 (fuel_pos hwithin hfuel hnone)
      rw [continueTo_succ hwithin, hs]
  | succ k ih =>
    obtain ⟨m₂, hs, hk⟩ := hk
    have hwithin : ∀ b ∈ limit, done < b := by
      intro b hb
      have hle := hc.le b hb
      omega
    obtain ⟨fuel, rfl⟩ := Nat.exists_eq_add_one.2
      (fuel_pos hwithin hfuel fun hn ↦ Nat.zero_lt_of_lt (hnone hn))
    rw [continueTo_succ hwithin, hs]
    refine ih hk ?_ (fun b hb ↦ ?_) fun hn ↦ Nat.lt_of_succ_lt_succ (hnone hn)
    · rwa [Nat.succ_add_eq_add_succ]
    · have hle := hfuel b hb
      omega

theorem execute_eq_some_iff {fuel : Nat} :
    execute p limit fuel m = some r ↔
      ∃ count, Completes p limit count m r ∧ (limit = none → count < fuel) := by
  constructor
  · intro h
    obtain ⟨k, m₁, hk, hc, hlt⟩ := closes_of_continueTo (fun b _ ↦ Nat.zero_le b) h
    rw [Nat.zero_add] at hc
    refine ⟨k, ⟨m₁, hk, hc⟩, fun hn ↦ ?_⟩
    simpa [hn] using hlt hn
  · rintro ⟨count, ⟨m₁, hk, hc⟩, hlt⟩
    refine continueTo_of_closes hk (by rwa [Nat.zero_add]) ?_ ?_
    · rintro b rfl
      simp
    · rintro rfl
      exact hlt rfl

theorem exists_completes (p : Program) (n : Nat) (m : Machine) :
    ∃ count r, Completes p (some n) count m r := by
  suffices h : ∀ fuel done m, done + fuel = n →
      ∃ k m₁ r, Reaches p k m m₁ ∧ Closes p (some n) (done + k) m₁ r by
    obtain ⟨k, m₁, r, hk, hc⟩ := h n 0 m.reset (Nat.zero_add n)
    rw [Nat.zero_add] at hc
    exact ⟨k, r, m₁, hk, hc⟩
  intro fuel
  induction fuel with
  | zero =>
    rintro done m rfl
    exact ⟨0, m, _, .refl, .limit rfl⟩
  | succ fuel ih =>
    rintro done m rfl
    have hwithin : ∀ b ∈ some (done + (fuel + 1)), done < b := by simp
    rcases hs : step p m with ⟨fault | flow, m₂⟩
    · exact ⟨0, m, _, .refl, .fault hwithin hs⟩
    · cases flow with
      | halted => exact ⟨0, m, _, .refl, .halt hwithin hs⟩
      | running =>
        obtain ⟨k, m₁, r, hk, hc⟩ := ih (done + 1) m₂ (by omega)
        rw [Nat.add_right_comm, Nat.add_assoc] at hc
        exact ⟨k + 1, m₁, r, ⟨m₂, hs, hk⟩, hc⟩

theorem settle_eq {α : Type} (value : α) (h : m.output.flushFault = none) :
    settle value m = (.ok value, m) := by
  rw [settle, Sink.flush, h]

theorem step_flushFault (p : Program) (m : Machine) :
    (step p m).2.output.flushFault = m.output.flushFault := by
  obtain ⟨taken, room, h⟩ := exists_step_output p m
  rw [h]

theorem Reaches.flushFault (h : Reaches p n m m₁) :
    m₁.output.flushFault = m.output.flushFault :=
  h.keeps (P := fun m' ↦ m'.output.flushFault = m.output.flushFault)
    (fun m' hm' ↦ (step_flushFault p m').trans hm') rfl

theorem fault_ne_stepLimit {fault : Fault} (h : step p m = (.error fault, m')) (n : Nat) :
    fault ≠ .runtime (.stepLimit n) := by
  rintro rfl
  cases ho : p.ops[m.position]? with
  | none =>
    rw [step, ho] at h
    cases h
  | some op =>
    rw [step_eq ho] at h
    cases op with
    | load | loadVariable | store | push | negate | jump | halt => cases h
    | jumpUnless | print | read =>
      rw [runOp] at h
      split at h <;> cases h
    | apply operation =>
      rw [runOp] at h
      split at h
      · cases h
      · split at h
        · cases h
        · next happly =>
          cases h
          cases eq_divisionByZero_of_apply happly

theorem settle_ne_stepLimit {α : Type} (value : α) (m : Machine) (n : Nat) :
    (settle value m).1 ≠ .error (.runtime (.stepLimit n)) := by
  rw [settle]
  split <;> simp

theorem Closes.at_limit (h : Closes p limit count m r)
    (hr : r.1 = .error (.runtime (.stepLimit n))) : limit = some n ∧ count = n ∧ r.2 = m := by
  cases h with
  | limit hlimit =>
    cases hr
    exact ⟨hlimit, rfl, rfl⟩
  | fault _ hs =>
    cases hr
    exact absurd rfl (fault_ne_stepLimit hs n)
  | halt => exact absurd hr (settle_ne_stepLimit () _ n)

theorem Closes.of_larger (h : Closes p (some n) count m r)
    (hr : r.1 ≠ .error (.runtime (.stepLimit n))) (hle : ∀ b ∈ limit, n ≤ b) :
    count < n ∧ Closes p limit count m r := by
  have hlarger (hlt : count < n) : ∀ b ∈ limit, count < b :=
    fun b hb ↦ Nat.lt_of_lt_of_le hlt (hle b hb)
  cases h with
  | limit hlimit =>
    cases hlimit
    exact absurd rfl hr
  | fault hwithin hs => exact ⟨hwithin n rfl, .fault (hlarger (hwithin n rfl)) hs⟩
  | halt hwithin hs => exact ⟨hwithin n rfl, .halt (hlarger (hwithin n rfl)) hs⟩

theorem Closes.le_of_reaches (h : Closes p limit count m₁ r) (hcount : Reaches p count m m₁)
    (hn : Reaches p n m m₂) (hle : ∀ b ∈ limit, n ≤ b) : n ≤ count := by
  refine Nat.le_of_not_lt fun hlt ↦ ?_
  have hrest := hcount.from_shorter hn (Nat.le_of_lt hlt)
  obtain ⟨k, hk⟩ : ∃ k, n - count = k + 1 := ⟨n - count - 1, by omega⟩
  rw [hk] at hrest
  obtain ⟨m', hs, -⟩ := hrest
  exact h.not_running (fun b hb ↦ Nat.lt_of_lt_of_le hlt (hle b hb)) hs

/-- A run with a limit and a run of as many steps are one and the same, if the output can be
flushed: they leave the same machine behind. One halts where the other does, fails where and as the
other fails, and is at its limit where the other is still running. What the machine did before does
not matter, but for the input that is left and the output that was written. -/
theorem limited_run_agrees_with_bounded_run (p : Program) (m : Machine) (n fuel : Nat)
    (hflush : m.output.flushFault = none) :
    (∃ result, execute p (some n) fuel m = some (result, (runFor p n m).2) ∧
      (result = .ok () ↔ (runFor p n m).1 = .ok .halted) ∧
      (result = .error (.runtime (.stepLimit n)) ↔ (runFor p n m).1 = .ok .running) ∧
      ∀ fault, fault ≠ .runtime (.stepLimit n) →
        (result = .error fault ↔ (runFor p n m).1 = .error fault)) ∧
    ∀ other : Machine, other.input = m.input → other.output = m.output →
      execute p (some n) fuel other = execute p (some n) fuel m ∧
        runFor p n other = runFor p n m := by
  constructor
  · obtain ⟨count, r, m₁, hreach, hc⟩ := exists_completes p n m
    have hx : execute p (some n) fuel m = some r :=
      execute_eq_some_iff.2 ⟨count, ⟨m₁, hreach, hc⟩, by simp⟩
    have hflush₁ : m₁.output.flushFault = none := hreach.flushFault.trans hflush
    cases hc with
    | limit hlimit =>
      cases hlimit
      have hrun : runFor p n m = (.ok .running, m₁) := by
        rw [runFor, ← Nat.add_zero n, continueFor_of_reaches hreach, continueFor,
          settle_eq _ hflush₁]
      rw [hrun]
      exact ⟨_, hx, by simp, by simp, fun fault hne ↦ by simp [Ne.symm hne]⟩
    | @fault fault m' hwithin hs =>
      obtain ⟨k, rfl⟩ : ∃ k, n = count + (k + 1) := Nat.exists_eq_add_of_lt (hwithin n rfl)
      have hrun : runFor p (count + (k + 1)) m = (.error fault, m') := by
        rw [runFor, continueFor_of_reaches hreach, continueFor, hs]
      rw [hrun]
      exact ⟨_, hx, by simp, by simpa using fault_ne_stepLimit hs _, fun fault _ ↦ by simp⟩
    | @halt m' hwithin hs =>
      obtain ⟨k, rfl⟩ : ∃ k, n = count + (k + 1) := Nat.exists_eq_add_of_lt (hwithin n rfl)
      have hflush' : m'.output.flushFault = none := by
        have hstep := step_flushFault p m₁
        rw [hs] at hstep
        exact hstep.trans hflush₁
      have hrun : runFor p (count + (k + 1)) m = (.ok .halted, m') := by
        rw [runFor, continueFor_of_reaches hreach, continueFor, hs]
        exact settle_eq _ hflush'
      rw [settle_eq _ hflush'] at hx
      rw [hrun]
      exact ⟨_, hx, by simp, by simp, fun fault _ ↦ by simp⟩
  · intro other hinput houtput
    have hreset : other.reset = m.reset := by rw [reset, reset, hinput, houtput]
    exact ⟨by rw [execute, execute, hreset], by rw [runFor, runFor, hreset]⟩

theorem limited_run_agrees_with_bounded_run_before_halt :
    let m : Machine := { position := 9, register := 3, stack := [4], output := { text := "x" } }
    m.output.flushFault = none ∧
    execute ⟨#[.load 7, .print, .halt]⟩ (some 2) 0 m =
      some (.error (.runtime (.stepLimit 2)),
        { position := 2, register := 7, output := { text := "x7\n" } }) ∧
    execute ⟨#[.load 7, .print, .halt]⟩ (some 3) 0 m =
      some (.ok (), { position := 3, register := 7, output := { text := "x7\n" } }) := by
  intro m
  obtain ⟨result, hx, -, hlimit, -⟩ :=
    (limited_run_agrees_with_bounded_run ⟨#[.load 7, .print, .halt]⟩ m 2 0 rfl).1
  obtain ⟨result', hx', hhalt, -⟩ :=
    (limited_run_agrees_with_bounded_run ⟨#[.load 7, .print, .halt]⟩ m 3 0 rfl).1
  rw [hlimit.2 (by decide +kernel)] at hx
  rw [hhalt.2 (by decide +kernel)] at hx'
  refine ⟨rfl, hx.trans ?_, hx'.trans ?_⟩ <;> decide +kernel

/-- A limit only ever cuts a run short. A run that ends within its limit ends in the same way within
any larger one, or within none. A run that its limit ends has gone through just as many ops, and
every longer run goes on from there: it adds to the output, and it goes through at least as many ops
if it ends at all. -/
theorem limit_only_cuts_run_short (p : Program) (m : Machine) (n fuel : Nat) (limit : Option Nat)
    (hle : ∀ b ∈ limit, n ≤ b) :
    ∃ result m', execute p (some n) fuel m = some (result, m') ∧
      ((∀ k, result ≠ .error (.runtime (.stepLimit k))) →
        ∀ fuel' ≥ n, execute p limit fuel' m = some (result, m')) ∧
      ∀ k, result = .error (.runtime (.stepLimit k)) →
        k = n ∧ Reaches p n m.reset m' ∧
        (∀ j m₁, n ≤ j → Reaches p j m.reset m₁ →
          Reaches p (j - n) m' m₁ ∧ m'.output.text.toList <+: m₁.output.text.toList) ∧
        ∀ fuel' result' m'', execute p limit fuel' m = some (result', m'') →
          m'.output.text.toList <+: m''.output.text.toList ∧
          ∃ count, n ≤ count ∧ Completes p limit count m (result', m'') := by
  obtain ⟨count, ⟨result, m'⟩, m₁, hreach, hc⟩ := exists_completes p n m
  refine ⟨result, m', execute_eq_some_iff.2 ⟨count, ⟨m₁, hreach, hc⟩, by simp⟩,
    fun hr fuel' hfuel ↦ ?_, fun k hr ↦ ?_⟩
  · obtain ⟨hlt, hc'⟩ := hc.of_larger (hr n) hle
    exact execute_eq_some_iff.2
      ⟨count, ⟨m₁, hreach, hc'⟩, fun _ ↦ Nat.lt_of_lt_of_le hlt hfuel⟩
  · obtain ⟨hlimit, rfl, rfl⟩ := hc.at_limit hr
    cases hlimit
    have hlonger {j : Nat} {m₁ : Machine} (hj : n ≤ j) (h : Reaches p j m.reset m₁) :
        Reaches p (j - n) m' m₁ ∧ m'.output.text.toList <+: m₁.output.text.toList :=
      ⟨hreach.from_shorter h hj, (hreach.from_shorter h hj).output_grows⟩
    refine ⟨rfl, hreach, fun j m₁ ↦ hlonger, fun fuel' result' m'' hx ↦ ?_⟩
    obtain ⟨count, ⟨m₂, hcount, hc'⟩, -⟩ := execute_eq_some_iff.1 hx
    have hn := hc'.le_of_reaches hcount hreach hle
    exact ⟨(hlonger hn hcount).2.trans hc'.output_grows, count, hn, m₂, hcount, hc'⟩

theorem limit_only_cuts_run_short_endless :
    (∀ b ∈ (none : Option Nat), 4 ≤ b) ∧
    ∀ j m₁, 4 ≤ j → Reaches ⟨#[.load 1, .print, .jump 0]⟩ j {} m₁ →
      "1\n".toList <+: m₁.output.text.toList := by
  obtain ⟨result, m', hx, -, hlimit⟩ :=
    limit_only_cuts_run_short ⟨#[.load 1, .print, .jump 0]⟩ {} 4 0 none (by simp)
  have hrun : execute ⟨#[.load 1, .print, .jump 0]⟩ (some 4) 0 {} =
      some (.error (.runtime (.stepLimit 4)),
        { position := 1, register := 1, output := { text := "1\n" } }) := by decide +kernel
  cases hx.symm.trans hrun
  exact ⟨by simp, fun j m₁ hj hreach ↦ ((hlimit 4 rfl).2.2.1 j m₁ hj hreach).2⟩

end Machine

end RegisterLang
