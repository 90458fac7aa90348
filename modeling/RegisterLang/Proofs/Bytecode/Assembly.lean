import RegisterLang.Proofs.Bytecode.Layout
import RegisterLang.Proofs.Grammar.Acceptance
import RegisterLang.Toolchain

namespace RegisterLang.Grammar

open Assembler

def addExits (indices : List Nat) : List OpenLoop → List OpenLoop
  | [] => []
  | ⟨start, exits⟩ :: rest => ⟨start, exits ++ indices⟩ :: rest

theorem addExits_cons (indices exits : List Nat) (start : Nat) (rest : List OpenLoop) :
    addExits indices (⟨start, exits⟩ :: rest) = ⟨start, exits ++ indices⟩ :: rest := rfl

@[simp]
theorem addExits_nil (loops : List OpenLoop) : addExits [] loops = loops := by
  cases loops <;> simp [addExits]

@[simp]
theorem addExits_addExits (is js : List Nat) (loops : List OpenLoop) :
    addExits js (addExits is loops) = addExits (is ++ js) loops := by
  cases loops <;> simp [addExits]

@[simp]
theorem isEmpty_addExits (is : List Nat) (loops : List OpenLoop) :
    (addExits is loops).isEmpty = loops.isEmpty := by
  cases loops <;> rfl

/-- The assembler lays down the code of a tree. An alternative comes with the end of its branch, and
sends the jump of the failed test behind its entry. -/
def Laid : {p : Production} → Tree p → Prop
  | .program, t => ∀ a : Assembler, t.fault? false = none →
      t.instructions.foldl give a = ⟨(t.code 0 Op.pending).toArray, [], [], a.fault⟩
  | .alternative, t => ∀ (before after : List Op) (test : Op) (branches : List Nat)
      (loops : List OpenLoop) (fault : Option AssemblyFault) (base : Nat),
      base = before.length + 1 + after.length → t.fault? (!loops.isEmpty) = none →
      (t.instructions.foldl give
        ⟨(before ++ test :: after).toArray, before.length :: branches, loops, fault⟩).branchEnd =
        ⟨(before ++ test.retarget (base + t.entry) :: (after ++ t.code base Op.pending)).toArray,
          branches, addExits (t.exits base) loops, fault⟩
  | _, t => ∀ (ops : List Op) (branches : List Nat) (loops : List OpenLoop)
      (fault : Option AssemblyFault) (base : Nat),
      base = ops.length → t.fault? (!loops.isEmpty) = none →
      t.instructions.foldl give ⟨ops.toArray, branches, loops, fault⟩ =
        ⟨(ops ++ t.code base Op.pending).toArray, branches, addExits (t.exits base) loops, fault⟩

theorem patch_middle {before after : List Op} {index : Nat} (target : Nat)
    (hi : index = before.length) (ht : target = before.length + (after.length + 1)) (op : Op)
    (branches : List Nat) (loops : List OpenLoop) (fault : Option AssemblyFault) :
    patch ⟨(before ++ op :: after).toArray, branches, loops, fault⟩ index =
      ⟨(before ++ op.retarget target :: after).toArray, branches, loops, fault⟩ := by
  simp [patch, modify_middle, hi, ht]

theorem foldl_patch (indices : List Nat) (ops : List Op) (branches : List Nat)
    (loops : List OpenLoop) (fault : Option AssemblyFault) :
    indices.foldl patch ⟨ops.toArray, branches, loops, fault⟩ =
      ⟨(indices.foldl (redirect ops.length) ops).toArray, branches, loops, fault⟩ := by
  induction indices generalizing ops with
  | nil => rfl
  | cons i indices ih =>
    have hl : (redirect ops.length ops i).length = ops.length := by simp [redirect]
    simp only [List.foldl_cons, patch, List.modify_toArray, List.size_toArray]
    rw [ih, ← redirect, hl]

theorem laid {p : Production} (t : Tree p) : Laid t := by
  induction t with
  | program body ih =>
    intro a h
    simp only [Tree.instructions, List.foldl_cons, List.foldl_append, List.foldl_nil, give]
    have hb := ih [] [] [] a.fault 0 rfl h
    simp only [List.nil_append] at hb
    rw [hb]
    simp [emit, Tree.code, addExits]
  | empty | noTerms | noFactors =>
    intro ops branches loops fault base _ _
    simp [Tree.instructions, Tree.code, Tree.exits]
  | sequence first rest ihf ihr | expression first rest ihf ihr | term first rest ihf ihr =>
    intro ops branches loops fault base hb h
    simp only [Tree.fault?, Option.or_eq_none_iff] at h
    simp only [Tree.instructions, List.foldl_append, Tree.code, Tree.exits]
    rw [ihf ops branches loops fault base hb h.1,
      ihr _ branches _ fault (base + first.size) (by simp [hb]) (by simpa using h.2)]
    simp
  | moreTerms operation _ next rest ihn ihr | moreFactors operation _ next rest ihn ihr =>
    intro ops branches loops fault base hb h
    simp only [Tree.fault?, Option.or_eq_none_iff] at h
    simp only [Tree.instructions, List.foldl_append, List.foldl_cons, give, emit,
      List.push_toArray, Tree.code, Tree.exits]
    rw [ihn _ branches loops fault (base + 1) (by simp [hb]) h.1]
    simp only [List.push_toArray]
    rw [ihr _ branches _ fault (base + 1 + next.size + 1) (by simp [hb]; omega)
      (by simpa using h.2)]
    simp
  | conditional condition test body other iht ihb iho =>
    intro ops branches loops fault base hb h
    simp only [Tree.fault?, Option.or_eq_none_iff] at h
    simp only [Tree.instructions, List.foldl_append, List.foldl_cons, List.foldl_nil, Tree.code,
      Tree.exits]
    rw [iht ops branches loops fault base hb h.1]
    simp only [give, Assembler.branch, emit, List.push_toArray, List.size_toArray]
    rw [ihb _ _ _ fault (base + test.size + 1) (by simp [hb]; omega) (by simpa using h.2.1)]
    simp only [List.append_assoc, List.singleton_append]
    have ho := iho (ops ++ test.code base Op.pending)
      (body.code (base + test.size + 1) Op.pending) (.jumpUnless condition Op.pending) branches
      (addExits (body.exits (base + test.size + 1)) (addExits (test.exits base) loops)) fault
      (base + test.size + 1 + body.size) (by simp [hb]) (by simpa using h.2.2)
    simp only [List.append_assoc] at ho
    rw [ho]
    simp [Op.retarget]
  | noAlternative =>
    intro before after test branches loops fault base hb _
    simp only [Tree.instructions, List.foldl_nil, branchEnd]
    rw [patch_middle base rfl (by omega)]
    simp [Tree.code, Tree.exits, Tree.entry]
  | otherwise body ih =>
    intro before after test branches loops fault base hb h
    simp only [Tree.instructions, List.foldl_cons, give, Assembler.otherwise, emit,
      List.push_toArray, List.append_assoc, List.cons_append]
    rw [patch_middle (base + 1) rfl (by simp [hb]; omega),
      ih _ _ loops fault (base + 1) (by simp [hb]; omega) h]
    have hops : (before ++ test.retarget (base + 1) :: (after ++ [Op.jump Op.pending])) ++
        body.code (base + 1) Op.pending =
        (before ++ test.retarget (base + 1) :: after) ++
          .jump Op.pending :: body.code (base + 1) Op.pending := by simp
    simp only [branchEnd]
    rw [hops, patch_middle (base + 1 + body.size) (by simp) (by simp [hb]; omega)]
    simp [Tree.code, Tree.exits, Tree.entry, Op.retarget]
  | loop body ih =>
    intro ops branches loops fault base hb h
    simp only [Tree.instructions, List.foldl_append, List.foldl_cons, List.foldl_nil, give,
      loopStart, List.size_toArray, Tree.code, Tree.exits]
    rw [ih ops branches (⟨ops.length, []⟩ :: loops) fault base hb h]
    have hr := redirects_exits body base Op.pending (base + body.size + 1) ops [.jump base] hb.symm
    simp only [addExits_cons, loopEnd, emit, List.push_toArray, List.nil_append, foldl_patch,
      List.append_assoc, addExits_nil, List.length_append, Tree.length_code,
      List.length_singleton, ← hb]
    rw [← Nat.add_assoc, hr]
  | leave =>
    intro ops branches loops fault base hb h
    cases loops with
    | nil => cases h
    | cons l loops =>
      simp [Tree.instructions, give, exitLoop, emit, Tree.code, Tree.exits, addExits, hb]
  | print value ih | assign _ value ih | minus value ih =>
    intro ops branches loops fault base hb h
    simp only [Tree.instructions, List.foldl_append]
    rw [ih ops branches loops fault base hb h]
    simp [give, emit, Tree.code, Tree.exits]
  | read into ih =>
    intro ops branches loops fault base hb _
    exact ih ops branches loops fault base hb (by cases into; rfl)
  | unsigned factor ih | plus factor ih => exact ih
  | group inner ih => exact ih
  | target name | identifier name =>
    intro ops branches loops fault base hb h
    simp [Tree.instructions, give, emit, Tree.code, Tree.exits]
  | integer text =>
    intro ops branches loops fault base hb h
    obtain ⟨value, hv⟩ : ∃ value, Decimal.readInt64? text.toList = some value := by
      simpa [Tree.fault?, Option.isSome_iff_exists] using h
    simp [Tree.instructions, give, loadInteger, hv, emit, Tree.code, Tree.exits, Tree.literal]

structure Notes (fault : Option AssemblyFault) (a b : Assembler) : Prop where
  fault_eq : b.fault = a.fault.or fault
  branches : b.branches.length = a.branches.length
  loops : b.loops.length = a.loops.length

namespace Notes

variable {f g : Option AssemblyFault} {a b c : Assembler}

theorem refl : Notes none a a := ⟨by simp, rfl, rfl⟩

theorem trans (h : Notes f a b) (h' : Notes g b c) : Notes (f.or g) a c :=
  ⟨by rw [h'.fault_eq, h.fault_eq, Option.or_assoc], h'.branches.trans h.branches,
    h'.loops.trans h.loops⟩

theorem isEmpty_loops (h : Notes f a b) : b.loops.isEmpty = a.loops.isEmpty := by
  rw [Bool.eq_iff_iff, List.isEmpty_iff_length_eq_zero, List.isEmpty_iff_length_eq_zero, h.loops]

theorem then_emit (op : Op) (h : Notes f a b) : Notes f a (b.emit op) :=
  ⟨h.fault_eq, h.branches, h.loops⟩

theorem of_branch {condition : Condition} (h : Notes f (a.branch condition) b) :
    Notes f a b.branchEnd := by
  have hl : b.branches.length = a.branches.length + 1 := h.branches
  obtain ⟨index, rest, hi⟩ := List.exists_cons_of_length_eq_add_one hl
  have hb : b.branchEnd = { b.patch index with branches := rest } := by rw [branchEnd, hi]
  rw [hb]
  exact ⟨h.fault_eq, by simpa [hi] using hl, h.loops⟩

theorem foldl_patch (indices : List Nat) (h : Notes f a b) : Notes f a (indices.foldl patch b) := by
  induction indices generalizing b with
  | nil => exact h
  | cons i indices ih => exact ih ⟨h.fault_eq, h.branches, h.loops⟩

theorem of_loop (h : Notes f a.loopStart b) : Notes f a b.loopEnd := by
  have hl : b.loops.length = a.loops.length + 1 := h.loops
  obtain ⟨⟨start, exits⟩, rest, hi⟩ := List.exists_cons_of_length_eq_add_one hl
  have hb : b.loopEnd = { exits.foldl patch (b.emit (.jump start)) with loops := rest } := by
    rw [loopEnd, hi]
  have hp := foldl_patch exits (h.then_emit (.jump start))
  rw [hb]
  exact ⟨hp.fault_eq, hp.branches, by simpa [hi] using hl⟩

end Notes

/-- The assembler notes the fault of a tree. An alternative stands in an open branch. -/
def Noted : {p : Production} → Tree p → Prop
  | .program, _ => True
  | .alternative, t => ∀ a : Assembler, a.branches ≠ [] →
      Notes (t.fault? (!a.loops.isEmpty)) a (t.instructions.foldl give a)
  | _, t => ∀ a : Assembler, Notes (t.fault? (!a.loops.isEmpty)) a (t.instructions.foldl give a)

theorem noted {p : Production} (t : Tree p) : Noted t := by
  induction t with
  | program => trivial
  | empty | noTerms | noFactors => exact fun _ ↦ .refl
  | noAlternative => exact fun _ _ ↦ .refl
  | sequence first rest ihf ihr | expression first rest ihf ihr | term first rest ihf ihr =>
    intro a
    have hf := ihf a
    have hr := ihr (first.instructions.foldl give a)
    rw [hf.isEmpty_loops] at hr
    rw [Tree.instructions, List.foldl_append]
    exact hf.trans hr
  | moreTerms operation _ next rest ihn ihr | moreFactors operation _ next rest ihn ihr =>
    intro a
    have hn := (ihn (a.emit .push)).then_emit (.apply operation)
    have hr := ihr ((next.instructions.foldl give (a.emit .push)).emit (.apply operation))
    rw [hn.isEmpty_loops] at hr
    simp only [Tree.instructions, List.foldl_cons, List.foldl_append, give]
    exact ((Notes.refl.then_emit .push).trans hn).trans hr
  | conditional condition test body other iht ihb iho =>
    intro a
    have ht := iht a
    have hb := ihb ((test.instructions.foldl give a).branch condition)
    have ho := iho _ fun h ↦ by
      have hl := hb.branches
      rw [h] at hl
      simp [Assembler.branch] at hl
    rw [hb.isEmpty_loops] at ho
    have hend := (hb.trans ho).of_branch
    simp only [Assembler.branch, emit, ht.isEmpty_loops] at hend
    simp only [Tree.instructions, List.foldl_cons, List.foldl_append, List.foldl_nil, give]
    exact ht.trans hend
  | otherwise body ih =>
    intro a hb
    obtain ⟨index, rest, hi⟩ := List.exists_cons_of_ne_nil hb
    have ho : Notes none a a.otherwise := by
      constructor <;> simp [Assembler.otherwise, hi, patch, emit]
    have h := ih a.otherwise
    rw [ho.isEmpty_loops] at h
    exact ho.trans h
  | loop body ih =>
    intro a
    simp only [Tree.instructions, List.foldl_cons, List.foldl_append, List.foldl_nil, give]
    exact (ih a.loopStart).of_loop
  | leave =>
    intro a
    simp only [Tree.instructions, List.foldl_cons, List.foldl_nil, give, Tree.fault?]
    cases hl : a.loops <;> constructor <;> simp [exitLoop, hl, fail, emit]
  | print value ih | assign _ value ih | minus value ih =>
    intro a
    rw [Tree.instructions, List.foldl_append]
    exact (ih a).then_emit _
  | read into ih =>
    cases into
    exact fun _ ↦ Notes.refl.then_emit _
  | unsigned factor ih | plus factor ih | group factor ih => exact ih
  | target name | identifier name => exact fun _ ↦ Notes.refl.then_emit _
  | integer text =>
    intro a
    simp only [Tree.instructions, List.foldl_cons, List.foldl_nil, give, Tree.fault?]
    cases hv : Decimal.readInt64? text.toList <;> constructor <;>
      simp [loadInteger, hv, fail, emit]

theorem finish_instructions (t : Tree .program) :
    (t.instructions.foldl give {}).finish =
      match t.fault? false with
      | some fault => .error fault
      | none => .ok ⟨(t.code 0 Op.pending).toArray⟩ := by
  cases hf : t.fault? false with
  | none => rw [laid t {} hf]; rfl
  | some fault =>
    cases t with
    | program body =>
      have h : (body.instructions.foldl give {}).fault = some fault :=
        (noted body {}).fault_eq.trans hf
      simp [Tree.instructions, give, finish, emit, h]

theorem assemble_eq_ok_iff {source : String} {program : Program} :
    assemble source = .ok program ↔ ∃ tree : Tree .program, IsTreeOf tree source ∧
      tree.fault? false = none ∧ program = ⟨(tree.code 0 Op.pending).toArray⟩ := by
  constructor
  · intro h
    unfold RegisterLang.assemble at h
    split at h
    · cases h
    · rename_i a hc
      obtain ⟨tree, ht, rfl⟩ := exists_isTreeOf_of_compile hc
      rw [finish_instructions] at h
      refine ⟨tree, ht, ?_⟩
      cases hf : tree.fault? false with
      | none => rw [hf] at h; cases h; exact ⟨rfl, rfl⟩
      | some fault => rw [hf] at h; cases h
  · rintro ⟨tree, ht, hf, rfl⟩
    unfold RegisterLang.assemble
    rw [compile_of_isTreeOf ht]
    simp only [finish_instructions, hf]

end RegisterLang.Grammar
