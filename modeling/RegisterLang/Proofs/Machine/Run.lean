import RegisterLang.Proofs.Semantics.Meaning

namespace RegisterLang

/-- What a sink takes of a text comes behind what it holds, and its faults stay set. -/
theorem Sink.exists_write_eq (s : Sink) (text : String) :
    ∃ taken room, taken <+: text.toList ∧
      (s.write text).2 = { s with text := s.text ++ String.ofList taken, room } := by
  rw [write]
  split
  · exact ⟨text.toList, s.room, List.prefix_rfl, by rw [String.ofList_toList]⟩
  · split
    · exact ⟨text.toList, s.room - text.length, List.prefix_rfl, by rw [String.ofList_toList]⟩
    · exact ⟨text.toList.take s.room, 0, List.take_prefix _ _, rfl⟩

theorem Sink.text_of_write {s s' : Sink} {text : String} (h : s.write text = (.ok (), s')) :
    s'.text = s.text ++ text := by
  rw [write] at h
  split at h
  · cases h
    rfl
  · split at h <;> cases h
    rfl

namespace Machine

def view (m : Machine) : Scene := ⟨m.storage.get, m.input, m.output.text⟩

def Healthy (m : Machine) : Prop := m.output.writeFault = none ∧ m.output.flushFault = none

def Reaches (p : Program) : Nat → Machine → Machine → Prop
  | 0, m, m' => m = m'
  | n + 1, m, m' => ∃ m₁, step p m = (.ok .running, m₁) ∧ Reaches p n m₁ m'

def Fails (p : Program) (m : Machine) (fault : Fault) (s : Scene) : Prop :=
  ∃ n m₁ m', Reaches p n m m₁ ∧ step p m₁ = (.error fault, m') ∧ m'.view = s

/-- How a run within a limit ends at the machine that a number of ops has brought it to: at the
limit, or within it at a step that fails or halts. -/
inductive Closes (p : Program) (limit : Option Nat) (count : Nat) (m : Machine) :
    Except Fault Unit × Machine → Prop where
  | limit : limit = some count → Closes p limit count m (.error (.runtime (.stepLimit count)), m)
  | fault {fault : Fault} {m' : Machine} : (∀ n ∈ limit, count < n) →
      step p m = (.error fault, m') → Closes p limit count m (.error fault, m')
  | halt {m' : Machine} : (∀ n ∈ limit, count < n) → step p m = (.ok .halted, m') →
      Closes p limit count m (settle () m')

variable {p : Program} {m m₁ m₂ m' : Machine} {n k : Nat} {op : Op}

theorem step_eq (h : p.ops[m.position]? = some op) :
    step p m = runOp { m with position := m.position + 1 } op := by
  rw [step, h]

theorem step_print (h : p.ops[m.position]? = some .print) (hw : m.output.writeFault = none) :
    step p m = (.ok .running, { m with
      position := m.position + 1,
      output.text := m.output.text ++ (Decimal.writeInt64 m.register ++ "\n") }) := by
  rw [step_eq h]
  simp [runOp, Sink.write, hw]

theorem Fails.of_step {fault : Fault} {s : Scene} (h : step p m = (.error fault, m'))
    (hv : m'.view = s) : Fails p m fault s :=
  ⟨0, m, m', rfl, h, hv⟩

namespace Reaches

theorem refl : Reaches p 0 m m := rfl

theorem one (h : p.ops[m.position]? = some op)
    (hr : runOp { m with position := m.position + 1 } op = (.ok .running, m')) :
    Reaches p 1 m m' :=
  ⟨m', (step_eq h).trans hr, rfl⟩

theorem jump {target : Nat} (h : p.ops[m.position]? = some (.jump target)) :
    Reaches p 1 m { m with position := target } :=
  one h rfl

theorem trans (h : Reaches p n m m₁) (h' : Reaches p k m₁ m') : Reaches p (n + k) m m' := by
  induction n generalizing m with
  | zero =>
    cases h
    simpa using h'
  | succ n ih =>
    obtain ⟨m₂, hs, h⟩ := h
    rw [Nat.add_right_comm]
    exact ⟨m₂, hs, ih h⟩

theorem then_fails {fault : Fault} {s : Scene} (h : Reaches p n m m₁) (h' : Fails p m₁ fault s) :
    Fails p m fault s := by
  obtain ⟨k, m₂, m', hk, hs, hv⟩ := h'
  exact ⟨n + k, m₂, m', h.trans hk, hs, hv⟩

end Reaches

section

variable {limit : Option Nat} {fuel done : Nat}

theorem any_le_of_within (h : ∀ b ∈ limit, done < b) : limit.any (· ≤ done) = false := by
  cases limit with
  | none => rfl
  | some b => simpa using h b rfl

theorem continueTo_zero (h : ∀ b ∈ limit, done < b) : continueTo p limit 0 done m = none := by
  rw [continueTo, any_le_of_within h]
  rfl

theorem continueTo_succ (h : ∀ b ∈ limit, done < b) : continueTo p limit (fuel + 1) done m =
    match step p m with
    | (.error fault, m) => some (.error fault, m)
    | (.ok .halted, m) => some (settle () m)
    | (.ok .running, m) => continueTo p limit fuel (done + 1) m := by
  rw [continueTo, any_le_of_within h]
  rfl

end

theorem continueTo_of_reaches {fuel done : Nat} (h : Reaches p n m m₁) :
    continueTo p none (n + fuel) done m = continueTo p none fuel (done + n) m₁ := by
  induction n generalizing m done with
  | zero =>
    cases h
    simp
  | succ n ih =>
    obtain ⟨m₂, hs, h⟩ := h
    rw [Nat.add_right_comm, continueTo_succ (by simp), hs]
    dsimp only
    rw [ih h, Nat.add_assoc, Nat.add_comm 1 n]

theorem continueTo_of_halted {fuel done : Nat} (h : step p m = (.ok .halted, m')) :
    continueTo p none (fuel + 1) done m = some (settle () m') := by
  rw [continueTo_succ (by simp), h]

theorem continueTo_of_failed {fuel done : Nat} {fault : Fault} (h : step p m = (.error fault, m')) :
    continueTo p none (fuel + 1) done m = some (.error fault, m') := by
  rw [continueTo_succ (by simp), h]

theorem continueTo_of_running {fuel done : Nat} (h : Reaches p n m m₁) (hf : fuel ≤ n) :
    continueTo p none fuel done m = none := by
  induction fuel generalizing m n done with
  | zero => exact continueTo_zero (by simp)
  | succ fuel ih =>
    cases n with
    | zero => omega
    | succ n =>
      obtain ⟨m₂, hs, h⟩ := h
      rw [continueTo_succ (by simp), hs]
      exact ih h (by omega)

theorem continueTo_mono {fuel more done : Nat} {r : Except Fault Unit × Machine}
    (h : continueTo p none fuel done m = some r) (hle : fuel ≤ more) :
    continueTo p none more done m = some r := by
  induction fuel generalizing m more done with
  | zero =>
    rw [continueTo_zero (by simp)] at h
    cases h
  | succ fuel ih =>
    obtain ⟨more, rfl⟩ : ∃ k, more = k + 1 := ⟨more - 1, by omega⟩
    rw [continueTo_succ (by simp)] at h ⊢
    split at h
    · exact h
    · exact h
    · exact ih h (by omega)

section

variable {limit : Option Nat} {r : Except Fault Unit × Machine}

theorem eq_limit_or_within {done : Nat} (h : ∀ b ∈ limit, done ≤ b) :
    limit = some done ∨ ∀ b ∈ limit, done < b := by
  cases limit with
  | none => exact .inr (by simp)
  | some b =>
    obtain rfl | hlt := Nat.eq_or_lt_of_le (h b rfl)
    · exact .inl rfl
    · exact .inr (by simpa using hlt)

theorem continueTo_at_limit {fuel done : Nat} (h : limit = some done) :
    continueTo p limit fuel done m = some (.error (.runtime (.stepLimit done)), m) := by
  rw [continueTo.eq_def, if_pos (by simp [h]), h]
  rfl

theorem closes_of_continueTo {fuel done : Nat} (hdone : ∀ b ∈ limit, done ≤ b)
    (h : continueTo p limit fuel done m = some r) :
    ∃ k m₁, Reaches p k m m₁ ∧ Closes p limit (done + k) m₁ r ∧ (limit = none → k < fuel) := by
  induction fuel generalizing m done with
  | zero =>
    obtain hlimit | hwithin := eq_limit_or_within hdone
    · rw [continueTo_at_limit hlimit] at h
      cases h
      exact ⟨0, m, .refl, .limit hlimit, by simp [hlimit]⟩
    · rw [continueTo_zero hwithin] at h
      cases h
  | succ fuel ih =>
    obtain hlimit | hwithin := eq_limit_or_within hdone
    · rw [continueTo_at_limit hlimit] at h
      cases h
      exact ⟨0, m, .refl, .limit hlimit, by simp [hlimit]⟩
    · rw [continueTo_succ hwithin] at h
      generalize hs : step p m = s at h
      rcases s with ⟨fault | flow, m₂⟩
      · cases h
        exact ⟨0, m, .refl, .fault hwithin hs, fun _ ↦ Nat.succ_pos fuel⟩
      · cases flow with
        | halted =>
          cases h
          exact ⟨0, m, .refl, .halt hwithin hs, fun _ ↦ Nat.succ_pos fuel⟩
        | running =>
          obtain ⟨k, m₁, hk, hc, hlt⟩ := ih hwithin h
          rw [Nat.succ_add_eq_add_succ] at hc
          exact ⟨k + 1, m₁, ⟨m₂, hs, hk⟩, hc, fun hn ↦ Nat.succ_lt_succ (hlt hn)⟩

end

theorem continueFor_of_reaches (h : Reaches p n m m₁) :
    continueFor p (n + k) m = continueFor p k m₁ := by
  induction n generalizing m with
  | zero =>
    cases h
    rw [Nat.zero_add]
  | succ n ih =>
    obtain ⟨m₂, hs, h⟩ := h
    rw [Nat.add_right_comm, continueFor, hs]
    exact ih h

@[simp]
theorem settle_snd {α : Type} (value : α) (m : Machine) : (settle value m).2 = m := by
  rw [settle]
  split <;> rfl

section

variable {P : Machine → Prop} (hstep : ∀ m, P m → P (step p m).2)
include hstep

theorem Reaches.keeps (h : Reaches p n m m₁) (hm : P m) : P m₁ := by
  induction n generalizing m with
  | zero => exact h ▸ hm
  | succ n ih =>
    obtain ⟨m₂, hs, h⟩ := h
    have hm₂ := hstep m hm
    rw [hs] at hm₂
    exact ih h hm₂

theorem continueFor_keeps (n : Nat) (h : P m) : P (continueFor p n m).2 := by
  induction n generalizing m with
  | zero => rwa [continueFor, settle_snd]
  | succ n ih =>
    have hs := hstep m h
    rw [continueFor]
    generalize step p m = r at hs
    rcases r with ⟨fault | flow, m'⟩
    · exact hs
    · cases flow with
      | running => exact ih hs
      | halted => rwa [settle_snd]

theorem execute_keeps {limit : Option Nat} {fuel : Nat} {result : Except Fault Unit}
    (h : P m.reset) (hr : execute p limit fuel m = some (result, m')) : P m' := by
  obtain ⟨k, m₁, hk, hc, -⟩ := closes_of_continueTo (fun _ _ ↦ Nat.zero_le _) hr
  have hm := hk.keeps hstep h
  generalize hend : (result, m') = r at hc
  obtain rfl : r.2 = m' := by rw [← hend]
  cases hc with
  | limit => exact hm
  | fault _ hs | halt _ hs =>
    have hm' := hstep m₁ hm
    rw [hs] at hm'
    simpa using hm'

end

theorem continueFor_of_continueTo {fuel done : Nat} {result : Except Fault Unit}
    (h : continueTo p none fuel done m = some (result, m')) : (continueFor p fuel m).2 = m' := by
  induction fuel generalizing m done with
  | zero =>
    rw [continueTo_zero (by simp)] at h
    cases h
  | succ fuel ih =>
    rw [continueTo_succ (by simp)] at h
    rw [continueFor]
    generalize step p m = s at h ⊢
    rcases s with ⟨fault | flow, m₁⟩
    · cases h
      rfl
    · cases flow with
      | running => exact ih h
      | halted =>
        have hm := congrArg Prod.snd (Option.some.inj h)
        simpa using hm

/-- What a step does to the streams: a read takes a line, a print writes one as far as there is room
for it, and nothing else touches them. -/
theorem step_streams (p : Program) (m : Machine) :
    ((step p m).2.input = m.input ∨ (∃ name, p.ops[m.position]? = some (.read name)) ∧
        (step p m).2.input = (splitLine m.input).2) ∧
      ((step p m).2.output = m.output ∨ p.ops[m.position]? = some .print ∧
        (step p m).2.output = (m.output.write (Decimal.writeInt64 m.register ++ "\n")).2) := by
  cases ho : p.ops[m.position]? with
  | none =>
    rw [step, ho]
    exact ⟨.inl rfl, .inl rfl⟩
  | some op =>
    rw [step_eq ho]
    cases op with
    | load | loadVariable | store | push | negate | jump | halt => exact ⟨.inl rfl, .inl rfl⟩
    | jumpUnless =>
      rw [runOp]
      split <;> exact ⟨.inl rfl, .inl rfl⟩
    | apply =>
      rw [runOp]
      repeat' split
      all_goals exact ⟨.inl rfl, .inl rfl⟩
    | read name =>
      simp only [runOp, readInteger, readLine]
      cases Utf8.decode? (splitLine m.input).1 <;> exact ⟨.inr ⟨⟨name, rfl⟩, rfl⟩, .inl rfl⟩
    | print =>
      rw [runOp]
      split <;> next hwrite => exact ⟨.inl rfl, .inr ⟨rfl, (congrArg Prod.snd hwrite).symm⟩⟩

/-- A step only adds to the output, and the faults that are set for it stay set. -/
theorem exists_step_output (p : Program) (m : Machine) : ∃ taken room, (step p m).2.output =
    { m.output with text := m.output.text ++ String.ofList taken, room } := by
  obtain ⟨-, h | ⟨-, h⟩⟩ := step_streams p m
  · exact ⟨[], m.output.room, by simp [h]⟩
  · obtain ⟨taken, room, -, hwrite⟩ :=
      m.output.exists_write_eq (Decimal.writeInt64 m.register ++ "\n")
    exact ⟨taken, room, h.trans hwrite⟩

theorem step_output (p : Program) (m : Machine) :
    m.output.text.toList <+: (step p m).2.output.text.toList := by
  obtain ⟨taken, room, h⟩ := exists_step_output p m
  simp [h]

theorem continueFor_output (p : Program) (n : Nat) (m : Machine) :
    m.output.text.toList <+: (continueFor p n m).2.output.text.toList :=
  continueFor_keeps (P := fun m₁ ↦ m.output.text.toList <+: m₁.output.text.toList)
    (fun m₁ h ↦ h.trans (step_output p m₁)) n List.prefix_rfl

theorem continueFor_output_mono (p : Program) {n k : Nat} (h : n ≤ k) (m : Machine) :
    (continueFor p n m).2.output.text.toList <+: (continueFor p k m).2.output.text.toList := by
  induction n generalizing m k with
  | zero => simpa [continueFor] using continueFor_output p k m
  | succ n ih =>
    obtain ⟨k, rfl⟩ : ∃ j, k = j + 1 := ⟨k - 1, by omega⟩
    rw [continueFor, continueFor]
    rcases step p m with ⟨fault | flow, m₁⟩
    · exact List.prefix_rfl
    · cases flow with
      | running => exact ih (by omega) m₁
      | halted => exact List.prefix_rfl

end Machine

end RegisterLang
