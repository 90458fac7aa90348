import Mathlib.Data.Int.ModEq
import RegisterLang.Machine.Basic

namespace RegisterLang

def Operation.exact : Operation → Int → Int → Int
  | add => (· + ·)
  | subtract => (· - ·)
  | multiply => (· * ·)
  | divide => Int.tdiv
  | modulus => Int.tmod

def Operation.divides : Operation → Bool
  | add | subtract | multiply => false
  | divide | modulus => true

theorem apply_eq (operation : Operation) (lhs rhs : Int64) :
    operation.apply lhs rhs =
      if operation.divides && rhs = 0 then .error .divisionByZero
      else .ok (.ofInt (operation.exact lhs.toInt rhs.toInt)) := by
  cases operation with
  | add | subtract | multiply =>
    simp [Operation.apply, Operation.exact, Operation.divides, Int64.ofInt_add, Int64.ofInt_sub,
      Int64.ofInt_mul]
  | divide =>
    have hdiv : lhs / rhs = .ofInt (lhs.toInt.tdiv rhs.toInt) :=
      Int64.toInt_inj.1 (by rw [Int64.toInt_ofInt, Int64.toInt_div])
    simp [Operation.apply, Operation.exact, Operation.divides, hdiv]
  | modulus =>
    have hmod : lhs % rhs = .ofInt (lhs.toInt.tmod rhs.toInt) := by
      rw [← Int64.toInt_mod, Int64.ofInt_toInt]
    simp [Operation.apply, Operation.exact, Operation.divides, hmod]

theorem toOption_apply (operation : Operation) (lhs rhs : Int64) :
    (operation.apply lhs rhs).toOption =
      if operation.divides && rhs = 0 then none
      else some (.ofInt (operation.exact lhs.toInt rhs.toInt)) := by
  rw [apply_eq]
  split <;> rfl

theorem eq_divisionByZero_of_apply {operation : Operation} {lhs rhs : Int64} {fault : RuntimeFault}
    (h : operation.apply lhs rhs = .error fault) : fault = .divisionByZero := by
  rw [apply_eq] at h
  split at h
  · exact (Except.error.inj h).symm
  · cases h

theorem toInt_modEq_iff {w : Int64} {x : Int} : w.toInt ≡ x [ZMOD 2 ^ 64] ↔ w = .ofInt x := by
  rw [← Int64.toInt_inj, Int64.toInt_ofInt]
  constructor
  · intro h
    rw [← Int64.toInt_bmod_size w, ← Int.emod_bmod, ← Int.emod_bmod x]
    exact congrArg (Int.bmod · Int64.size) h
  · intro h
    rw [h]
    exact Int.bmod_emod

theorem apply_ok_of_divides_eq_false {operation : Operation} (h : operation.divides = false)
    (lhs rhs : Int64) :
    operation.apply lhs rhs = .ok (.ofInt (operation.exact lhs.toInt rhs.toInt)) := by
  rw [apply_eq, h]
  rfl

theorem apply_eq_error_iff {operation : Operation} (h : operation.divides = true)
    (lhs rhs : Int64) (fault : RuntimeFault) :
    operation.apply lhs rhs = .error fault ↔ rhs = 0 ∧ fault = .divisionByZero := by
  rw [apply_eq, h]
  by_cases hr : rhs = 0 <;> simp [hr, eq_comm]

/-- Quotient and remainder of a division that goes toward zero. The quotient of the least word and
minus one is no word; it wraps around. -/
structure Operation.Divided (lhs rhs quotient remainder : Int64) : Prop where
  recombined : quotient.toInt * rhs.toInt + remainder.toInt ≡ lhs.toInt [ZMOD 2 ^ 64]
  small : remainder.toInt.natAbs < rhs.toInt.natAbs
  sign : remainder = 0 ∨ remainder.toInt.sign = lhs.toInt.sign
  truncated : ¬ (lhs = .minValue ∧ rhs = -1) → quotient.toInt = lhs.toInt.tdiv rhs.toInt
  wrapped : lhs = .minValue ∧ rhs = -1 → quotient = .minValue ∧ remainder = 0

theorem divided_of_ne_zero {rhs : Int64} (h : rhs ≠ 0) (lhs : Int64) :
    Operation.Divided lhs rhs (lhs / rhs) (lhs % rhs) where
  recombined := by
    have hq : (lhs / rhs).toInt ≡ lhs.toInt.tdiv rhs.toInt [ZMOD 2 ^ 64] := by
      rw [Int64.toInt_div]
      exact Int.bmod_emod
    have hsum := (hq.mul_right rhs.toInt).add_right (lhs % rhs).toInt
    rwa [Int64.toInt_mod, Int.tdiv_mul_add_tmod, ← Int64.toInt_mod] at hsum
  small := by
    have hpos : rhs.toInt.natAbs ≠ 0 := fun h0 ↦ h (Int64.toInt_inj.1 (Int.natAbs_eq_zero.1 h0))
    rw [Int64.toInt_mod, Int.natAbs_tmod]
    exact Nat.mod_lt _ (Nat.pos_of_ne_zero hpos)
  sign := by
    rw [← Int64.toInt_inj, Int64.toInt_mod, Int.sign_tmod]
    by_cases hd : rhs.toInt ∣ lhs.toInt
    · exact .inl (Int.tmod_eq_zero_of_dvd hd)
    · exact .inr (if_neg hd)
  truncated := by
    intro hn
    by_cases hl : lhs = .minValue
    · exact Int64.toInt_div_of_ne_right _ _ fun hr ↦ hn ⟨hl, hr⟩
    · exact Int64.toInt_div_of_ne_left _ _ hl
  wrapped := by
    rintro ⟨rfl, rfl⟩
    decide

/-- Sums, differences and products are the words congruent to those of the integers, division by
zero is the only fault, quotients go toward zero, and to negate is to subtract from zero. -/
theorem arithmetic_matches_integers (lhs rhs : Int64) (m : Machine) :
    (∀ operation : Operation, operation.divides = false →
        ∃ result, operation.apply lhs rhs = .ok result ∧ ∀ w : Int64,
          w.toInt ≡ operation.exact lhs.toInt rhs.toInt [ZMOD 2 ^ 64] ↔ w = result) ∧
      (∀ operation : Operation, operation.divides = true → ∀ fault,
        operation.apply lhs rhs = .error fault ↔ rhs = 0 ∧ fault = .divisionByZero) ∧
      (rhs ≠ 0 → ∃ quotient remainder, Operation.divide.apply lhs rhs = .ok quotient ∧
        Operation.modulus.apply lhs rhs = .ok remainder ∧
        Operation.Divided lhs rhs quotient remainder) ∧
      ∃ result, Operation.subtract.apply 0 m.register = .ok result ∧
        m.runOp .negate = (.ok .running, { m with register := result }) := by
  refine ⟨fun operation h ↦ ?_, fun operation h ↦ apply_eq_error_iff h lhs rhs, fun h ↦ ?_, ?_⟩
  · exact ⟨_, apply_ok_of_divides_eq_false h lhs rhs, fun w ↦ toInt_modEq_iff⟩
  · exact ⟨lhs / rhs, lhs % rhs, if_neg h, if_neg h, divided_of_ne_zero h lhs⟩
  · refine ⟨0 - m.register, rfl, ?_⟩
    rw [Int64.zero_sub]
    rfl

theorem arithmetic_matches_integers_least :
    Operation.multiply.divides = false ∧ Operation.divide.divides = true ∧ (-1 : Int64) ≠ 0 ∧
      (∃ result, Operation.multiply.apply .minValue (-1) = .ok result ∧ ∀ w : Int64,
        w.toInt ≡ Int64.minValue.toInt * (-1 : Int64).toInt [ZMOD 2 ^ 64] ↔ w = result) ∧
      (∀ fault, Operation.divide.apply .minValue (-1) = .error fault ↔
        (-1 : Int64) = 0 ∧ fault = .divisionByZero) ∧
      ∃ quotient remainder, Operation.divide.apply .minValue (-1) = .ok quotient ∧
        Operation.modulus.apply .minValue (-1) = .ok remainder ∧
        Operation.Divided .minValue (-1) quotient remainder := by
  have h : (-1 : Int64) ≠ 0 := by decide
  obtain ⟨hword, hfault, hdivided, -⟩ := arithmetic_matches_integers .minValue (-1) {}
  exact ⟨rfl, rfl, h, hword .multiply rfl, hfault .divide rfl, hdivided h⟩

end RegisterLang
