import RegisterLang.Proofs.Bytecode.Patches

namespace RegisterLang

def Op.shift (distance : Nat) : Op → Op
  | .jumpUnless condition target => .jumpUnless condition (target + distance)
  | .jump target => .jump (target + distance)
  | op => op

namespace Grammar

open Assembler

/-- Every instruction that leaves a loop stands behind the start of one that has not ended yet. -/
def LeavesOwnLoops (is : List Instruction) : Prop :=
  ∀ before after, is = before ++ .exitLoop :: after →
    before.count .loopEnd < before.count .loopStart

def LoadsWords (is : List Instruction) : Prop :=
  ∀ text, .loadInteger text ∈ is → (Decimal.readInt64? text.toList).isSome = true

section

variable {is js : List Instruction} {i : Instruction}

@[simp]
theorem loadsWords_cons : LoadsWords (i :: is) ↔
    (∀ text, i = .loadInteger text → (Decimal.readInt64? text.toList).isSome = true) ∧
      LoadsWords is := by
  simp only [LoadsWords, List.mem_cons, or_imp, forall_and, eq_comm]

@[simp]
theorem loadsWords_append : LoadsWords (is ++ js) ↔ LoadsWords is ∧ LoadsWords js := by
  simp only [LoadsWords, List.mem_append, or_imp, forall_and]

namespace LeavesOwnLoops

theorem of_append (h : LeavesOwnLoops (is ++ js)) : LeavesOwnLoops is := by
  rintro before after rfl
  exact h before (after ++ js) (by simp)

theorem of_cons (h : LeavesOwnLoops (i :: is)) (hi : i ≠ .loopStart) : LeavesOwnLoops is := by
  rintro before after rfl
  have hcount := h (i :: before) after rfl
  rw [List.count_cons_of_ne hi] at hcount
  exact Nat.lt_of_le_of_lt (List.count_le_count_cons ..) hcount

theorem behind (h : LeavesOwnLoops (is ++ js))
    (hbalanced : is.count .loopStart = is.count .loopEnd) : LeavesOwnLoops js := by
  rintro before after rfl
  have hcount := h (is ++ before) after (by simp)
  simp only [List.count_append] at hcount
  omega

end LeavesOwnLoops

end

namespace Tree

variable {p : Production}

theorem count_loopStart_instructions (t : Tree p) :
    t.instructions.count .loopStart = t.instructions.count .loopEnd := by
  induction t <;> simp [instructions, *]

theorem fault?_true_eq_none (t : Tree p) (h : LoadsWords t.instructions) :
    t.fault? true = none := by
  induction t with
  | empty | noAlternative | noTerms | noFactors | target | identifier | read | leave => rfl
  | integer text =>
    have hsome := h text (by simp [instructions])
    simp [fault?, hsome]
  | program _ ih | loop _ ih | otherwise _ ih | print _ ih | assign _ _ ih | minus _ ih =>
    exact ih (by simp_all [instructions])
  | unsigned factor ih | plus factor ih | group factor ih => exact ih h
  | sequence first rest ihf ihr | expression first rest ihf ihr | term first rest ihf ihr =>
    obtain ⟨hf, hr⟩ := loadsWords_append.1 h
    rw [fault?, ihf hf, ihr hr]
    rfl
  | moreTerms _ _ next rest ihn ihr | moreFactors _ _ next rest ihn ihr =>
    simp only [instructions, loadsWords_cons, loadsWords_append] at h
    rw [fault?, ihn h.2.1, ihr h.2.2.2]
    rfl
  | conditional _ test body other iht ihb iho =>
    simp only [instructions, loadsWords_cons, loadsWords_append] at h
    rw [fault?, iht h.1, ihb h.2.2.1, iho h.2.2.2.1]
    rfl

theorem fault?_false_eq_none (t : Tree p) (hl : LeavesOwnLoops t.instructions)
    (h : LoadsWords t.instructions) : t.fault? false = none := by
  induction t with
  | empty | noAlternative | noTerms | noFactors | target | identifier | read => rfl
  | leave => exact absurd (hl [] [] rfl) (Nat.lt_irrefl 0)
  | loop body => exact body.fault?_true_eq_none (by simp_all [instructions])
  | integer text => exact fault?_true_eq_none (.integer text) h
  | program body ih =>
    exact ih (hl.of_cons (by simp)).of_append (by simp_all [instructions])
  | otherwise body ih => exact ih (hl.of_cons (by simp)) (by simp_all [instructions])
  | print _ ih | assign _ _ ih | minus _ ih => exact ih hl.of_append (by simp_all [instructions])
  | unsigned factor ih | plus factor ih | group factor ih => exact ih hl h
  | sequence first rest ihf ihr | expression first rest ihf ihr | term first rest ihf ihr =>
    obtain ⟨hf, hr⟩ := loadsWords_append.1 h
    rw [fault?, ihf hl.of_append hf, ihr (hl.behind first.count_loopStart_instructions) hr]
    rfl
  | moreTerms _ _ next rest ihn ihr | moreFactors _ _ next rest ihn ihr =>
    simp only [instructions, loadsWords_cons, loadsWords_append] at h
    have hl := hl.of_cons (by simp)
    have hrest := (hl.behind next.count_loopStart_instructions).of_cons (by simp)
    rw [fault?, ihn hl.of_append h.2.1, ihr hrest h.2.2.2]
    rfl
  | conditional _ test body other iht ihb iho =>
    simp only [instructions, loadsWords_cons, loadsWords_append] at h
    have hbody := (hl.behind test.count_loopStart_instructions).of_cons (by simp)
    have hother := (hbody.behind body.count_loopStart_instructions).of_append
    rw [fault?, iht hl.of_append h.1, ihb hbody.of_append h.2.2.1, iho hother h.2.2.2.1]
    rfl

theorem exits_eq_nil (t : Tree p) (h : t.fault? false = none) (base : Nat) :
    t.exits base = [] := by
  induction t generalizing base with
  | leave => cases h
  | read into => cases into; rfl
  | _ => simp_all [fault?, exits]

/-- Code that is laid down further on, in a loop that ends as much further on, is the same code
moved as a whole. -/
theorem code_shift (t : Tree p) (base exit distance : Nat) :
    t.code (base + distance) (exit + distance) = (t.code base exit).map (Op.shift distance) := by
  induction t generalizing base exit with
  | empty | noAlternative | noTerms | noFactors | target | identifier | integer | leave => rfl
  | program _ ih | print _ ih | assign _ _ ih | minus _ ih => simp [code, ih, Op.shift]
  | read _ ih | unsigned _ ih | plus _ ih | group _ ih => exact ih base exit
  | sequence first rest ihf ihr | expression first rest ihf ihr | term first rest ihf ihr =>
    rw [code, ihf, Nat.add_right_comm, ihr, code, List.map_append]
  | moreTerms operation _ next rest ihn ihr | moreFactors operation _ next rest ihn ihr =>
    have hnext : base + distance + 1 = base + 1 + distance := by omega
    have hrest : base + 1 + distance + next.size + 1 = base + 1 + next.size + 1 + distance := by
      omega
    simp only [code, hnext, hrest, ihn, ihr, List.map_cons, List.map_append, Op.shift]
  | otherwise body ih =>
    have hbody : base + distance + 1 = base + 1 + distance := by omega
    have hend : base + 1 + distance + body.size = base + 1 + body.size + distance := by omega
    simp only [code, hbody, hend, ih, List.map_cons, Op.shift]
  | loop body ih =>
    have hend : base + distance + body.size + 1 = base + body.size + 1 + distance := by omega
    simp only [code, hend, ih, List.map_append, List.map_cons, List.map_nil, Op.shift]
  | conditional condition test body other iht ihb iho =>
    have hbody : base + distance + test.size + 1 = base + test.size + 1 + distance := by omega
    have hother : base + test.size + 1 + distance + body.size =
        base + test.size + 1 + body.size + distance := by omega
    have hentry : base + test.size + 1 + body.size + distance + other.entry =
        base + test.size + 1 + body.size + other.entry + distance := by omega
    simp only [code, hbody, hother, hentry, iht, ihb, iho, List.map_append, List.map_cons, Op.shift]

theorem code_eq_of_exits_eq_nil (t : Tree p) {base : Nat} (h : t.exits base = [])
    (exit other : Nat) : t.code base exit = t.code base other := by
  have hr := redirects_exits t base exit other (List.replicate base .halt) [] (by simp)
  rw [h] at hr
  simpa using hr

theorem code_shift_of_exits_eq_nil (t : Tree p) (h : ∀ base, t.exits base = [])
    (exit distance : Nat) :
    t.code distance exit = (t.code 0 exit).map (Op.shift distance) := by
  rw [← code_shift, Nat.zero_add]
  exact t.code_eq_of_exits_eq_nil (h distance) exit (exit + distance)

end Tree

theorem foldl_give_block (block : Tree .block) (h : block.fault? false = none)
    (hloop : block.fault? true = none) (a : Assembler) :
    block.instructions.foldl give a =
      { a with
        ops := a.ops ++ (block.instructions.foldl give {}).ops.map (Op.shift a.ops.size) } := by
  have hexits := block.exits_eq_nil h
  have hfresh := laid block [] [] [] none 0 rfl h
  obtain ⟨⟨ops⟩, branches, loops, fault⟩ := a
  have hfault : block.fault? (!loops.isEmpty) = none := by cases loops <;> assumption
  have hlaid := laid block ops branches loops fault ops.length rfl hfault
  rw [hexits, addExits_nil] at hfresh hlaid
  rw [hlaid, block.code_shift_of_exits_eq_nil hexits]
  have hops : (block.instructions.foldl give {}).ops = (block.code 0 Op.pending).toArray := by
    exact congrArg Assembler.ops hfresh
  simp [hops]

/-- What the grammar says for a block is relocatable. Whatever instructions came before, the
assembler goes on by the code that the block has on its own, with every target moved behind what was
there; no jump of before is touched, and the open branches, the open loops with the exits that wait
and the fault stay as they were. -/
theorem block_code_is_relocatable {tokens : List Token} {ending : Option LexicalError}
    {size depth : Nat} {s : Progress (Array Instruction)} (hdepth : depth ≤ nestingLimit)
    (hblock : drive Array.push [.production .block] ⟨tokens, ending, size, depth, #[]⟩ =
      (s, .ok ()))
    (hexits : LeavesOwnLoops s.backend.toList) (hloads : LoadsWords s.backend.toList)
    (earlier : List Instruction) :
    let g := earlier.foldl give {}
    s.backend.toList.foldlM give? g = some (s.backend.toList.foldl give g) ∧
    s.backend.toList.foldl give g =
      ⟨g.ops ++ (s.backend.toList.foldl give {}).ops.map (Op.shift g.ops.size),
        g.branches, g.loops, g.fault⟩ := by
  intro g
  obtain ⟨is, hp, hb⟩ := passes_of_drive hdepth hblock
  obtain ⟨block, taken, more, after, -, rfl, -, -, hrest⟩ := hp.derives rfl
  cases hrest
  rw [List.append_nil, List.foldl_push_eq_append] at hb
  have his : s.backend.toList = block.instructions := by rw [hb]; simp
  rw [his] at hexits hloads ⊢
  exact ⟨((consistent_empty.foldl earlier).2.foldl _).1, foldl_give_block block
    (block.fault?_false_eq_none hexits hloads) (block.fault?_true_eq_none hloads) g⟩

theorem block_code_is_relocatable_loop :
    let tokens : List Token :=
      [⟨.loop, ⟨0, 4⟩, ""⟩, ⟨.ifZero, ⟨5, 3⟩, ""⟩, ⟨.identifier, ⟨9, 1⟩, "x"⟩,
      ⟨.leave, ⟨11, 5⟩, ""⟩, ⟨.blockEnd, ⟨17, 3⟩, ""⟩, ⟨.blockEnd, ⟨21, 3⟩, ""⟩]
    let last : Token := ⟨.blockEnd, ⟨25, 3⟩, ""⟩
    let is : Array Instruction := #[.loopStart, .loadVariable "x", .branch .zero, .exitLoop,
      .branchEnd, .loopEnd]
    drive Array.push [.production .block] ⟨tokens ++ [last], none, 28, 2, #[]⟩ =
      (⟨[last], none, 28, 2, is⟩, .ok ()) ∧
    LeavesOwnLoops is.toList ∧ LoadsWords is.toList ∧
    is.toList.foldl give ([.loopStart, .exitLoop, .branch .positive].foldl give {}) =
      ⟨#[.jump Op.pending, .jumpUnless .positive Op.pending, .loadVariable "x", .jumpUnless .zero 5,
        .jump 6, .jump 2], [1], [⟨0, [0]⟩], none⟩ := by
  intro tokens last is
  have hdrive : drive Array.push [.production .block] ⟨tokens ++ [last], none, 28, 2, #[]⟩ =
      (⟨[last], none, 28, 2, is⟩, .ok ()) := by
    rw [drive_tree (.sequence (.loop (.sequence (.conditional .zero
      (.expression (.term (.unsigned (.identifier "x")) .noFactors) .noTerms)
      (.sequence .leave .empty) .noAlternative) .empty)) .empty) rfl (by decide)
      (Production.ends_cons_of rfl) (by simp) (by decide), drive]
    rfl
  have hexits : LeavesOwnLoops is.toList := by
    rintro (_ | ⟨a, _ | ⟨b, _ | ⟨c, _ | ⟨d, _ | ⟨e, _ | ⟨f, before⟩⟩⟩⟩⟩⟩) after h <;> simp [is] at h
    obtain ⟨rfl, rfl, rfl, -⟩ := h
    decide
  have hloads : LoadsWords is.toList := by simp [LoadsWords, is]
  exact ⟨hdrive, hexits, hloads,
    (block_code_is_relocatable (by decide) hdrive hexits hloads _).2.trans (by decide +kernel)⟩

end Grammar

end RegisterLang
