import RegisterLang.Proofs.Machine.Safety

namespace RegisterLang

namespace Op

def target? : Op → Option Nat
  | jumpUnless _ target | jump target => some target
  | _ => none

theorem target?_retarget (target : Nat) (op : Op) :
    (op.retarget target).target? = op.target?.map fun _ ↦ target := by
  cases op <;> rfl

end Op

def targetAt (ops : Array Op) (index : Nat) : Option Nat := ops[index]?.bind Op.target?

theorem targetAt_push (ops : Array Op) (op : Op) (index : Nat) :
    targetAt (ops.push op) index = if index = ops.size then op.target? else targetAt ops index := by
  rw [targetAt, Array.getElem?_push]
  split <;> rfl

theorem targetAt_modify (ops : Array Op) (i target index : Nat) :
    targetAt (ops.modify i (Op.retarget target)) index =
      if i = index then (targetAt ops index).map fun _ ↦ target else targetAt ops index := by
  rw [targetAt, targetAt, Array.getElem?_modify]
  split
  · cases ops[index]? with
    | none => rfl
    | some op => exact op.target?_retarget target
  · rfl

namespace Assembler

def patch? (a : Assembler) (index : Nat) : Option Assembler :=
  if (targetAt a.ops index).isSome then some (a.patch index) else none

def give? (a : Assembler) : Instruction → Option Assembler
  | .otherwise =>
    match a.branches with
    | index :: rest =>
      ((a.emit (.jump Op.pending)).patch? index).map ({ · with branches := a.ops.size :: rest })
    | [] => some a.otherwise
  | .branchEnd =>
    match a.branches with
    | index :: rest => (a.patch? index).map ({ · with branches := rest })
    | [] => some a.branchEnd
  | .loopEnd =>
    match a.loops with
    | ⟨start, exits⟩ :: rest =>
      (exits.foldlM patch? (a.emit (.jump start))).map ({ · with loops := rest })
    | [] => some a.loopEnd
  | i => some (a.give i)

/-- Ops of which some jumps still wait for their targets. No other jump goes beyond the end. -/
structure Sound (ops : Array Op) (waiting : List Nat) : Prop where
  isSome : ∀ i ∈ waiting, (targetAt ops i).isSome = true
  le : ∀ i target, targetAt ops i = some target → i ∈ waiting ∨ target ≤ ops.size

namespace Sound

variable {ops : Array Op} {waiting others : List Nat} {op : Op}

theorem perm (h : Sound ops waiting) (hperm : waiting.Perm others) : Sound ops others :=
  ⟨fun i hi ↦ h.isSome i (hperm.mem_iff.2 hi),
    fun i target ht ↦ (h.le i target ht).imp_left hperm.mem_iff.1⟩

theorem lt_size (h : Sound ops waiting) {i : Nat} (hi : i ∈ waiting) : i < ops.size := by
  obtain ⟨target, ht⟩ := Option.isSome_iff_exists.1 (h.isSome i hi)
  obtain ⟨op, ho, -⟩ := Option.bind_eq_some_iff.1 ht
  exact (Array.getElem?_eq_some_iff.1 ho).1

theorem push (h : Sound ops waiting) (ho : ∀ target ∈ op.target?, target ≤ ops.size) :
    Sound (ops.push op) waiting := by
  refine ⟨fun i hi ↦ ?_, fun i target ht ↦ ?_⟩
  · rw [targetAt_push, if_neg (Nat.ne_of_lt (h.lt_size hi))]
    exact h.isSome i hi
  · rw [Array.size_push]
    rw [targetAt_push] at ht
    split at ht
    · exact .inr (Nat.le_succ_of_le (ho target ht))
    · exact (h.le i target ht).imp_right Nat.le_succ_of_le

theorem push_waiting (h : Sound ops waiting) (ho : op.target?.isSome = true) :
    Sound (ops.push op) (ops.size :: waiting) := by
  refine ⟨fun i hi ↦ ?_, fun i target ht ↦ ?_⟩
  · rw [targetAt_push]
    split
    · exact ho
    · next hne => exact h.isSome i ((List.mem_cons.1 hi).resolve_left hne)
  · rw [Array.size_push, List.mem_cons]
    rw [targetAt_push] at ht
    split at ht
    · next he => exact .inl (.inl he)
    · exact (h.le i target ht).imp .inr Nat.le_succ_of_le

theorem modify {i : Nat} (h : Sound ops (i :: waiting)) :
    Sound (ops.modify i (Op.retarget ops.size)) waiting := by
  refine ⟨fun j hj ↦ ?_, fun j target ht ↦ ?_⟩
  · have hjump := h.isSome j (.tail _ hj)
    rw [targetAt_modify]
    split
    · simpa using hjump
    · exact hjump
  · rw [Array.size_modify]
    rw [targetAt_modify] at ht
    split at ht
    · obtain ⟨-, -, rfl⟩ := Option.map_eq_some_iff.1 ht
      exact .inr (Nat.le_refl _)
    · next hne =>
      have hmem := h.le j target ht
      rwa [List.mem_cons, or_iff_right (Ne.symm hne)] at hmem

end Sound

def waiting (a : Assembler) : List Nat := a.branches ++ a.loops.flatMap OpenLoop.exits

structure Consistent (a : Assembler) : Prop where
  sound : Sound a.ops a.waiting
  start_le : ∀ l ∈ a.loops, l.start ≤ a.ops.size

variable {a : Assembler}

theorem patch?_eq {i : Nat} {waiting : List Nat} (h : Sound a.ops (i :: waiting)) :
    a.patch? i = some (a.patch i) :=
  if_pos (h.isSome i (.head _))

theorem foldlM_patch? {exits waiting : List Nat} (h : Sound a.ops (exits ++ waiting)) :
    exits.foldlM patch? a = some (exits.foldl patch a) ∧
      Sound (exits.foldl patch a).ops waiting := by
  induction exits generalizing a with
  | nil => exact ⟨rfl, h⟩
  | cons i exits ih =>
    rw [List.foldlM_cons, patch?_eq h]
    exact ih h.modify

theorem exists_foldl_patch_eq (exits : List Nat) (a : Assembler) :
    ∃ ops, exits.foldl patch a = { a with ops } ∧ ops.size = a.ops.size := by
  induction exits generalizing a with
  | nil => exact ⟨a.ops, rfl, rfl⟩
  | cons i exits ih =>
    obtain ⟨ops, he, hsize⟩ := ih (a.patch i)
    exact ⟨ops, he, hsize.trans Array.size_modify⟩

theorem exists_loopEnd_eq (ops : Array Op) (branches : List Nat) (l : OpenLoop)
    (rest : List OpenLoop) (fault : Option AssemblyFault) :
    ∃ patched,
      l.exits.foldl patch (emit ⟨ops, branches, l :: rest, fault⟩ (.jump l.start)) =
        ⟨patched, branches, l :: rest, fault⟩ ∧
      loopEnd ⟨ops, branches, l :: rest, fault⟩ = ⟨patched, branches, rest, fault⟩ ∧
      patched.size = ops.size + 1 := by
  obtain ⟨patched, he, hsize⟩ := exists_foldl_patch_eq l.exits
    (emit ⟨ops, branches, l :: rest, fault⟩ (.jump l.start))
  refine ⟨patched, he, ?_, hsize.trans (Array.size_push _)⟩
  simp only [loopEnd, he]
  rfl

theorem Consistent.emit (h : a.Consistent) {op : Op} (ho : op.target? = none) :
    (a.emit op).Consistent :=
  ⟨h.sound.push (by simp [ho]), fun l hl ↦ by
    simpa [Assembler.emit] using Nat.le_succ_of_le (h.start_le l hl)⟩

theorem Consistent.fail (h : a.Consistent) (fault : AssemblyFault) : (a.fail fault).Consistent :=
  ⟨h.sound, h.start_le⟩

theorem Consistent.otherwise (h : a.Consistent) :
    a.give? .otherwise = some a.otherwise ∧ a.otherwise.Consistent := by
  obtain ⟨ops, branches, loops, fault⟩ := a
  cases branches with
  | nil => exact ⟨rfl, h.fail _⟩
  | cons index rest =>
    have hs : Sound (Assembler.emit ⟨ops, index :: rest, loops, fault⟩ (.jump Op.pending)).ops
        (index :: ops.size :: (rest ++ loops.flatMap OpenLoop.exits)) :=
      (h.sound.push_waiting rfl).perm (.swap ..)
    refine ⟨?_, hs.modify, fun l hl ↦ ?_⟩
    · simp only [give?, patch?_eq hs, Option.map_some]
      rfl
    · have hl : l.start ≤ ops.size := h.start_le l hl
      simp [Assembler.otherwise, Assembler.emit, patch]
      omega

theorem Consistent.branchEnd (h : a.Consistent) :
    a.give? .branchEnd = some a.branchEnd ∧ a.branchEnd.Consistent := by
  obtain ⟨ops, branches, loops, fault⟩ := a
  cases branches with
  | nil => exact ⟨rfl, h.fail _⟩
  | cons index rest =>
    refine ⟨?_, h.sound.modify, fun l hl ↦ ?_⟩
    · simp only [give?, patch?_eq h.sound, Option.map_some]
      rfl
    · simpa [Assembler.branchEnd, patch] using h.start_le l hl

theorem Consistent.loopEnd (h : a.Consistent) :
    a.give? .loopEnd = some a.loopEnd ∧ a.loopEnd.Consistent := by
  obtain ⟨ops, branches, loops, fault⟩ := a
  cases loops with
  | nil => exact ⟨rfl, h.fail _⟩
  | cons l rest =>
    have hl : l.start ≤ ops.size := h.start_le l (.head _)
    have hs : Sound (Assembler.emit ⟨ops, branches, l :: rest, fault⟩ (.jump l.start)).ops
        (l.exits ++ (branches ++ rest.flatMap OpenLoop.exits)) :=
      (h.sound.push (by simpa [Op.target?] using hl)).perm (List.perm_append_comm_assoc ..)
    obtain ⟨hpatch, hsound⟩ := foldlM_patch? hs
    obtain ⟨patched, he, hend, hsize⟩ := exists_loopEnd_eq ops branches l rest fault
    rw [he] at hpatch hsound
    rw [hend]
    refine ⟨?_, hsound, fun l hl ↦ ?_⟩
    · simp only [give?, hpatch, Option.map_some]
    · have hl : l.start ≤ ops.size := h.start_le l (.tail _ hl)
      exact hsize ▸ Nat.le_succ_of_le hl

theorem Consistent.exitLoop (h : a.Consistent) : a.exitLoop.Consistent := by
  obtain ⟨ops, branches, loops, fault⟩ := a
  cases loops with
  | nil => exact h.fail _
  | cons l rest =>
    obtain ⟨start, exits⟩ := l
    have hs : Sound (ops.push (.jump Op.pending)) (ops.size :: _) := h.sound.push_waiting rfl
    refine ⟨hs.perm ?_, fun l hl ↦ ?_⟩
    · simp only [waiting, Assembler.exitLoop, List.flatMap_cons, List.append_assoc]
      rw [← List.append_assoc, ← List.append_assoc]
      exact List.perm_middle.symm
    · rw [Assembler.exitLoop, Assembler.emit, Array.size_push]
      obtain rfl | hl := List.mem_cons.1 hl
      · exact Nat.le_succ_of_le (h.start_le ⟨start, exits⟩ (.head _))
      · exact Nat.le_succ_of_le (h.start_le l (.tail _ hl))

theorem Consistent.give (h : a.Consistent) (i : Instruction) :
    a.give? i = some (a.give i) ∧ (a.give i).Consistent := by
  cases i with
  | programStart =>
    exact ⟨rfl, ⟨nofun, by simp [targetAt, Assembler.give]⟩, nofun⟩
  | programEnd | print | read | loadVariable | store | push | apply | negate =>
    exact ⟨rfl, h.emit rfl⟩
  | loadInteger text =>
    refine ⟨rfl, ?_⟩
    simp only [Assembler.give, Assembler.loadInteger]
    split
    · exact h.emit rfl
    · exact h.fail _
  | branch condition =>
    refine ⟨rfl, h.sound.push_waiting rfl, fun l hl ↦ ?_⟩
    have := h.start_le l hl
    simp [Assembler.give, Assembler.branch, Assembler.emit]
    omega
  | loopStart =>
    refine ⟨rfl, h.sound, fun l hl ↦ ?_⟩
    obtain rfl | hl := List.mem_cons.1 hl
    · exact Nat.le_refl _
    · exact h.start_le l hl
  | otherwise => exact h.otherwise
  | branchEnd => exact h.branchEnd
  | loopEnd => exact h.loopEnd
  | exitLoop => exact ⟨rfl, h.exitLoop⟩

theorem Consistent.foldl (h : a.Consistent) (is : List Instruction) :
    is.foldlM give? a = some (is.foldl Assembler.give a) ∧
      (is.foldl Assembler.give a).Consistent := by
  induction is generalizing a with
  | nil => exact ⟨rfl, h⟩
  | cons i is ih =>
    rw [List.foldlM_cons, (h.give i).1]
    exact ih (h.give i).2

theorem consistent_empty : Consistent {} := ⟨⟨nofun, by simp [targetAt]⟩, nofun⟩

end Assembler

structure Opened where
  branches : Nat := 0
  loops : Nat := 0
  deriving DecidableEq, Repr

namespace Opened

def after (o : Opened) : Instruction → Opened
  | .programStart => {}
  | .branch _ => { o with branches := o.branches + 1 }
  | .branchEnd => { o with branches := o.branches - 1 }
  | .loopStart => { o with loops := o.loops + 1 }
  | .loopEnd => { o with loops := o.loops - 1 }
  | _ => o

def faultOf (o : Opened) : Instruction → Option AssemblyFault
  | .otherwise => if o.branches = 0 then some (.unbalanced .otherwiseWithoutBranch) else none
  | .branchEnd => if o.branches = 0 then some (.unbalanced .branchEndWithoutStart) else none
  | .loopEnd => if o.loops = 0 then some (.unbalanced .loopEndWithoutStart) else none
  | .exitLoop => if o.loops = 0 then some .exitOutsideLoop else none
  | .loadInteger text =>
    if Decimal.readInt64? text.toList = none then some (.integerOverflow text) else none
  | _ => none

def faults (o : Opened) : List Instruction → List AssemblyFault
  | [] => []
  | i :: is => (o.faultOf i).toList ++ (o.after i).faults is

/-- How the instructions end: a fault comes first, then a block that is left open. -/
def verdict (o : Opened) (fault : Option AssemblyFault) (p : Program) :
    Except AssemblyFault Program :=
  match fault, o with
  | some fault, _ => .error fault
  | none, ⟨_ + 1, _⟩ => .error (.unbalanced .branchLeftOpen)
  | none, ⟨0, _ + 1⟩ => .error (.unbalanced .loopLeftOpen)
  | none, ⟨0, 0⟩ => .ok p

end Opened

namespace Assembler

def opened (a : Assembler) : Opened := ⟨a.branches.length, a.loops.length⟩

theorem give_opened (a : Assembler) (i : Instruction) :
    (a.give i).opened = a.opened.after i ∧
      (a.give i).fault = a.fault.or (a.opened.faultOf i) := by
  obtain ⟨ops, branches, loops, fault⟩ := a
  cases i with
  | programStart | programEnd | print | read | loadVariable | store | push | apply | negate |
    branch | loopStart => exact ⟨rfl, by simp [Opened.faultOf, give, emit, branch, loopStart]⟩
  | loadInteger text =>
    simp only [give, loadInteger, Opened.faultOf]
    cases Decimal.readInt64? text.toList <;> exact ⟨rfl, by simp [emit, fail]⟩
  | otherwise | branchEnd =>
    cases branches <;>
      exact ⟨rfl, by simp [Opened.faultOf, opened, give, otherwise, branchEnd, emit, patch, fail]⟩
  | exitLoop =>
    cases loops <;> exact ⟨rfl, by simp [Opened.faultOf, opened, give, exitLoop, emit, fail]⟩
  | loopEnd =>
    cases loops with
    | nil => exact ⟨rfl, by simp [Opened.faultOf, opened, give, loopEnd, fail]⟩
    | cons l rest =>
      obtain ⟨patched, -, hend, -⟩ := exists_loopEnd_eq ops branches l rest fault
      rw [give, hend]
      exact ⟨rfl, by simp [Opened.faultOf, opened]⟩

theorem foldl_opened (is : List Instruction) (a : Assembler) :
    (is.foldl give a).opened = is.foldl Opened.after a.opened ∧
      (is.foldl give a).fault = a.fault.or (a.opened.faults is).head? := by
  induction is generalizing a with
  | nil => exact ⟨rfl, by simp [Opened.faults]⟩
  | cons i is ih =>
    obtain ⟨ho, hf⟩ := give_opened a i
    rw [List.foldl_cons, List.foldl_cons, (ih _).1, (ih _).2, ho, hf, Opened.faults]
    refine ⟨rfl, ?_⟩
    cases a.opened.faultOf i <;> simp

theorem finish_eq (a : Assembler) : a.finish = a.opened.verdict a.fault ⟨a.ops⟩ := by
  obtain ⟨ops, branches, loops, fault⟩ := a
  cases fault with
  | some fault => rfl
  | none => cases branches <;> cases loops <;> rfl

theorem assemble_eq_verdict (is : List Instruction) :
    assemble is = (is.foldl Opened.after {}).verdict (Opened.faults {} is).head?
      ⟨(is.foldl give {}).ops⟩ := by
  obtain ⟨ho, hf⟩ := foldl_opened is {}
  rw [assemble, finish_eq, ho, hf]
  rfl

theorem target_le_of_assemble {is : List Instruction} {p : Program} (h : assemble is = .ok p)
    {i target : Nat} (ht : targetAt p.ops i = some target) : target ≤ p.ops.size := by
  have hc := (consistent_empty.foldl is).2
  rw [assemble, finish_eq] at h
  generalize is.foldl give {} = a at h hc
  obtain ⟨ops, branches, loops, fault⟩ := a
  cases fault with
  | some fault => cases h
  | none =>
    cases branches <;> cases loops <;> cases h
    exact (hc.sound.le i target ht).resolve_left List.not_mem_nil

end Assembler

namespace Machine

variable {p : Program} {m : Machine} {P : Machine → Prop}

theorem runOp_position (m : Machine) (op : Op) :
    (runOp m op).2.position = m.position ∨ op.target? = some (runOp m op).2.position := by
  cases op with
  | load | loadVariable | store | push | negate | halt => exact .inl rfl
  | jump => exact .inr rfl
  | jumpUnless =>
    rw [runOp]
    split
    · exact .inl rfl
    · exact .inr rfl
  | print =>
    rw [runOp]
    split <;> exact .inl rfl
  | read name =>
    rw [runOp, readInteger]
    rcases readLine m.input with ⟨_ | line, input⟩ <;> exact .inl rfl
  | apply operation =>
    rw [runOp]
    repeat' split
    all_goals exact .inl rfl

theorem position_step_le (hp : ∀ i target, targetAt p.ops i = some target → target ≤ p.ops.size)
    (h : m.position ≤ p.ops.size) : (step p m).2.position ≤ p.ops.size := by
  cases ho : p.ops[m.position]? with
  | none => rwa [step, ho]
  | some op =>
    rw [step_eq ho]
    obtain he | ht := runOp_position { m with position := m.position + 1 } op
    · rw [he]
      exact (Array.getElem?_eq_some_iff.1 ho).1
    · exact hp m.position _ (by rw [targetAt, ho, Option.bind_some, ht])

theorem Reachable.position_le (h : Reachable p m)
    (hp : ∀ i target, targetAt p.ops i = some target → target ≤ p.ops.size) :
    m.position ≤ p.ops.size :=
  h.keeps (P := fun m ↦ m.position ≤ p.ops.size) (fun _ _ ↦ Nat.zero_le _)
    (fun _ ↦ position_step_le hp) fun _ _ h ↦ h

end Machine

/-- Instructions in any order are assembled soundly. No patch ever goes to an op that is missing or
is no jump. The first fault among the instructions is the answer, or else a block that is left open,
and there is a program where neither is. The jumps of a program stay inside it or go to its very
end, so no machine that runs it leaves it. -/
theorem assemble_sound_for_any_instructions (is : List Instruction) :
    is.foldlM Assembler.give? {} = some (is.foldl Assembler.give {}) ∧
    Assembler.assemble is = (is.foldl Opened.after {}).verdict (Opened.faults {} is).head?
      ⟨(is.foldl Assembler.give {}).ops⟩ ∧
    ∀ p, Assembler.assemble is = .ok p →
      (∀ i target, targetAt p.ops i = some target →
        target ≤ p.ops.size ∧ (p.ops.size < Op.pending → target ≠ Op.pending)) ∧
      ∀ m, Machine.Reachable p m → m.position ≤ p.ops.size := by
  refine ⟨(Assembler.consistent_empty.foldl is).1, Assembler.assemble_eq_verdict is,
    fun p hp ↦ ?_⟩
  have hle : ∀ i target, targetAt p.ops i = some target → target ≤ p.ops.size :=
    fun _ _ ↦ Assembler.target_le_of_assemble hp
  exact ⟨fun i target ht ↦ ⟨hle i target ht, fun hsize ↦
    Nat.ne_of_lt (Nat.lt_of_le_of_lt (hle i target ht) hsize)⟩, fun m hm ↦ hm.position_le hle⟩

example : Assembler.assemble [.branch .zero, .loopStart, .branchEnd, .exitLoop, .loopEnd] =
    .ok ⟨#[.jumpUnless .zero 1, .jump 3, .jump 1]⟩ := rfl

end RegisterLang
