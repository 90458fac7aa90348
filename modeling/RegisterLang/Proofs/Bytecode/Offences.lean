import RegisterLang.Proofs.Bytecode.Constants
import RegisterLang.Proofs.Bytecode.Patches
import RegisterLang.Proofs.Dialect.Pieces
import RegisterLang.Proofs.Grammar.Discipline

namespace RegisterLang

open Discipline

/-- An instruction that has no op code behind the instructions before it. It does not matter how
many branches stand between it and a loop. -/
inductive Offends (before : List Instruction) : Instruction → AssemblyFault → Prop where
  | tooLarge {text : String} : 2 ^ 63 - 1 < Decimal.valueOf text.toList →
      Offends before (.loadInteger text) (.integerOverflow text)
  | outside : Frame.loop ∉ (pendingAfter before).blocks → Offends before .exitLoop .exitOutsideLoop

def FirstOffence (is : List Instruction) (fault : AssemblyFault) : Prop :=
  ∃ before i after, is = before ++ i :: after ∧ Offends before i fault ∧
    ∀ b j a, before = b ++ j :: a → ∀ f, ¬ Offends b j f

namespace Discipline

def Pending.opened (p : Pending) : Opened := ⟨p.blocks.countP (· ≠ .loop), p.blocks.count .loop⟩

variable {p : Pending} {i : Instruction} {is before after : List Instruction}

theorem exists_blocks {f : Frame} (h : p.blocks.head? = some f) :
    ∃ rest, p = ⟨f :: rest, p.pushed⟩ := by
  obtain ⟨rest, hrest⟩ := List.head?_eq_some_iff.1 h
  exact ⟨rest, by rw [← hrest]⟩

theorem opened_after (hstart : i ≠ .programStart) (h : p.Admits i) :
    p.opened.after i = (p.after i).opened := by
  cases i with
  | programStart => exact absurd rfl hstart
  | branch | loopStart => simp [Opened.after, Pending.opened, Pending.after]
  | otherwise | loopEnd =>
    obtain ⟨rest, hp⟩ := exists_blocks h.1
    rw [hp]
    simp [Opened.after, Pending.opened, Pending.after]
  | branchEnd =>
    obtain hb | hb := h.1
    all_goals
      obtain ⟨rest, hp⟩ := exists_blocks hb
      rw [hp]
      simp [Opened.after, Pending.opened, Pending.after]
  | programEnd | exitLoop | print | read | loadVariable | loadInteger | store | push | apply |
    negate => rfl

theorem Kept.opened_eq (h : Kept is) (his : is = before ++ after) :
    before.foldl Opened.after {} = (pendingAfter before).opened := by
  induction before using List.reverseRecOn generalizing after with
  | nil => rfl
  | append_singleton before i ih =>
    rw [List.append_assoc, List.singleton_append] at his
    rw [pendingAfter, List.foldl_concat, List.foldl_concat, ih his]
    by_cases hi : i = .programStart
    · obtain rfl := (h.start_iff before i after his).1 hi
      rw [hi]
      rfl
    · exact opened_after hi (h.admits before i after his)

theorem branches_opened_ne_zero {f : Frame} (h : p.blocks.head? = some f) (hf : f ≠ .loop) :
    p.opened.branches ≠ 0 :=
  (List.countP_pos_iff.2 ⟨f, List.mem_of_mem_head? h, by simpa using hf⟩).ne'

theorem loops_opened_eq_zero_iff : p.opened.loops = 0 ↔ Frame.loop ∉ p.blocks :=
  List.count_eq_zero

theorem faultOf_eq_some_iff {fault : AssemblyFault} (h : (pendingAfter before).Admits i)
    (hn : ∀ text, i = .loadInteger text → Decimal.Numeral text.toList) :
    (pendingAfter before).opened.faultOf i = some fault ↔ Offends before i fault := by
  cases i with
  | loadInteger text =>
    have hnone := Decimal.readInt64?_eq_none_iff (hn text rfl)
    simp only [Opened.faultOf, hnone, Option.ite_none_right_eq_some, Option.some_inj]
    constructor
    · rintro ⟨hlarge, rfl⟩
      exact .tooLarge hlarge
    · rintro ⟨hlarge⟩
      exact ⟨hlarge, rfl⟩
  | exitLoop =>
    simp only [Opened.faultOf, loops_opened_eq_zero_iff, Option.ite_none_right_eq_some,
      Option.some_inj]
    constructor
    · rintro ⟨hloop, rfl⟩
      exact .outside hloop
    · intro ho
      cases ho with
      | outside hloop => exact ⟨hloop, rfl⟩
  | otherwise =>
    have hopen := branches_opened_ne_zero h.1 (by simp)
    exact iff_of_false (by simp [Opened.faultOf, hopen]) (fun ho ↦ by cases ho)
  | branchEnd =>
    have hopen := h.1.elim (branches_opened_ne_zero · (by simp))
      (branches_opened_ne_zero · (by simp))
    exact iff_of_false (by simp [Opened.faultOf, hopen]) (fun ho ↦ by cases ho)
  | loopEnd =>
    have hopen := mt loops_opened_eq_zero_iff.1 (not_not.2 (List.mem_of_mem_head? h.1))
    exact iff_of_false (by simp [Opened.faultOf, hopen]) (fun ho ↦ by cases ho)
  | programStart | programEnd | branch | loopStart | print | read | loadVariable | store | push |
    apply | negate => exact iff_of_false (by simp [Opened.faultOf]) (fun ho ↦ by cases ho)

end Discipline

namespace Opened

variable {o : Opened} {is : List Instruction} {fault : AssemblyFault}

theorem head?_faults_eq_some_iff : (o.faults is).head? = some fault ↔
    ∃ before i after, is = before ++ i :: after ∧
      (before.foldl Opened.after o).faultOf i = some fault ∧
      ∀ b j a, before = b ++ j :: a → (b.foldl Opened.after o).faultOf j = none := by
  induction is generalizing o with
  | nil => simp [faults]
  | cons i is ih =>
    rw [faults]
    cases hi : o.faultOf i with
    | some f =>
      simp only [Option.toList_some, List.singleton_append, List.head?_cons, Option.some_inj]
      constructor
      · rintro rfl
        exact ⟨[], i, is, rfl, hi, by simp⟩
      · rintro ⟨before, j, after, his, hj, hb⟩
        cases before with
        | nil =>
          obtain ⟨rfl, -⟩ := List.cons.inj his
          simpa [hi] using hj
        | cons i' before =>
          obtain ⟨rfl, -⟩ := List.cons.inj his
          have hnone := hb [] i before rfl
          simp [hi] at hnone
    | none =>
      simp only [Option.toList_none, List.nil_append, ih]
      constructor
      · rintro ⟨before, j, after, rfl, hj, hb⟩
        refine ⟨i :: before, j, after, rfl, hj, fun b k a hbk ↦ ?_⟩
        cases b with
        | nil =>
          obtain ⟨rfl, -⟩ := List.cons.inj hbk
          exact hi
        | cons i' b =>
          obtain ⟨rfl, hbefore⟩ := List.cons.inj hbk
          exact hb b k a hbefore
      · rintro ⟨before, j, after, his, hj, hb⟩
        cases before with
        | nil =>
          obtain ⟨rfl, -⟩ := List.cons.inj his
          simp [hi] at hj
        | cons i' before =>
          obtain ⟨rfl, rfl⟩ := List.cons.inj his
          exact ⟨before, j, after, rfl, hj, fun b k a hbk ↦ hb (i :: b) k a (by simp [hbk])⟩

theorem mem_faults_iff : fault ∈ o.faults is ↔
    ∃ before i after, is = before ++ i :: after ∧
      (before.foldl Opened.after o).faultOf i = some fault := by
  induction is generalizing o with
  | nil => simp [faults]
  | cons i is ih =>
    rw [faults, List.mem_append, ih, Option.mem_toList]
    constructor
    · rintro (hi | ⟨before, j, after, rfl, hj⟩)
      · exact ⟨[], i, is, rfl, hi⟩
      · exact ⟨i :: before, j, after, rfl, hj⟩
    · rintro ⟨before, j, after, his, hj⟩
      cases before with
      | nil =>
        obtain ⟨rfl, -⟩ := List.cons.inj his
        exact .inl hj
      | cons i' before =>
        obtain ⟨rfl, hrest⟩ := List.cons.inj his
        exact .inr ⟨before, j, after, hrest, hj⟩

end Opened

namespace Discipline

variable {i : Instruction} {is before after : List Instruction} {fault : AssemblyFault}

theorem Kept.faultOf_iff (h : Kept is)
    (hn : ∀ text, .loadInteger text ∈ is → Decimal.Numeral text.toList)
    (his : is = before ++ i :: after) :
    (before.foldl Opened.after {}).faultOf i = some fault ↔ Offends before i fault := by
  rw [h.opened_eq his]
  refine faultOf_eq_some_iff (h.admits before i after his) fun text hi ↦ hn text ?_
  rw [his, hi]
  simp

theorem Kept.head?_faults_eq_some_iff (h : Kept is)
    (hn : ∀ text, .loadInteger text ∈ is → Decimal.Numeral text.toList) :
    (Opened.faults {} is).head? = some fault ↔ FirstOffence is fault := by
  rw [Opened.head?_faults_eq_some_iff]
  refine exists_congr fun before ↦ exists_congr fun i ↦ exists_congr fun after ↦
    and_congr_right fun his ↦ and_congr (h.faultOf_iff hn his) ?_
  refine forall_congr' fun b ↦ forall_congr' fun j ↦ forall_congr' fun a ↦
    imp_congr_right fun hb ↦ ?_
  have his' : is = b ++ j :: (a ++ i :: after) := by simp [his, hb]
  rw [Option.eq_none_iff_forall_ne_some]
  exact forall_congr' fun f ↦ not_congr (h.faultOf_iff hn his')

theorem follows_of_accepted {source : String} (h : (Grammar.instructions source).2 = .ok ()) :
    Follows .before (Grammar.instructions source).1.toList .behind := by
  obtain ⟨s, hs, hend⟩ := exists_follows source
  rwa [hend.1 h] at hs

end Discipline

open Grammar

section

variable {source : String} {fault : AssemblyFault}

theorem numeral_of_loadInteger (h : (instructions source).2 = .ok ()) :
    ∀ text, .loadInteger text ∈ (instructions source).1.toList → Decimal.Numeral text.toList := by
  intro text ht
  obtain ⟨tree, htree⟩ := compile_ok_iff.1 h
  rw [instructions_of_isTreeOf htree, Tree.loadInteger_mem_instructions] at ht
  exact spells_of_mem_words htree (.integer, text) (by simpa [integers] using ht)

theorem firstOffence_iff (h : (instructions source).2 = .ok ()) :
    (Opened.faults {} (instructions source).1.toList).head? = some fault ↔
      FirstOffence (instructions source).1.toList fault :=
  (follows_of_accepted h).kept.head?_faults_eq_some_iff (numeral_of_loadInteger h)

/-- An accepted text leaves no block open, so that nothing but a fault keeps it from having op
code. -/
theorem exists_assemble_eq (h : (instructions source).2 = .ok ()) :
    ∃ p, assemble source = match (Opened.faults {} (instructions source).1.toList).head? with
      | some fault => .error (.assembly fault)
      | none => .ok p := by
  have hfollows := follows_of_accepted h
  obtain ⟨tree, htree⟩ := compile_ok_iff.1 h
  rw [instructions_of_isTreeOf htree] at hfollows ⊢
  have hpending := (hfollows.shows (show Stage.before.Shows [] from rfl)).2
  have hopened : tree.instructions.foldl Opened.after {} = {} := by
    rw [hfollows.kept.opened_eq (List.append_nil _).symm, ← List.nil_append tree.instructions,
      hpending]
    rfl
  have hverdict := Assembler.assemble_eq_verdict tree.instructions
  rw [hopened, Assembler.assemble] at hverdict
  refine ⟨⟨(tree.instructions.foldl Assembler.give {}).ops⟩, ?_⟩
  simp only [assemble, compile_of_isTreeOf htree, hverdict]
  cases (Opened.faults {} tree.instructions).head? <;> rfl

theorem assemble_eq_error_iff (h : (instructions source).2 = .ok ()) {e : Failure} :
    assemble source = .error e ↔
      ∃ fault, FirstOffence (instructions source).1.toList fault ∧ e = .assembly fault := by
  obtain ⟨p, hp⟩ := exists_assemble_eq h
  simp only [← firstOffence_iff h, hp]
  cases (Opened.faults {} (instructions source).1.toList).head? with
  | none => simp
  | some fault => simp [eq_comm]

theorem exists_program_iff (h : (instructions source).2 = .ok ()) :
    (∃ p, assemble source = .ok p) ↔ ∀ before i after,
      (instructions source).1.toList = before ++ i :: after →
        ∀ fault, ¬ Offends before i fault := by
  obtain ⟨p, hp⟩ := exists_assemble_eq h
  have hok : (∃ p, assemble source = .ok p) ↔
      ∀ fault, fault ∉ Opened.faults {} (instructions source).1.toList := by
    rw [hp, ← List.eq_nil_iff_forall_not_mem, ← List.head?_eq_none_iff]
    cases (Opened.faults {} (instructions source).1.toList).head? <;> simp
  rw [hok]
  constructor
  · intro hnone before i after his fault ho
    refine hnone fault (Opened.mem_faults_iff.2 ⟨before, i, after, his, ?_⟩)
    exact ((follows_of_accepted h).kept.faultOf_iff (numeral_of_loadInteger h) his).2 ho
  · intro hnone fault hf
    obtain ⟨before, i, after, his, hi⟩ := Opened.mem_faults_iff.1 hf
    exact hnone before i after his fault
      (((follows_of_accepted h).kept.faultOf_iff (numeral_of_loadInteger h) his).1 hi)

theorem exists_constants_eq {p : Program} (hp : assemble source = .ok p) :
    ∃ tree, IsTreeOf tree source ∧ p.constants.map Int64.toInt =
      (integers tree.words).map fun text ↦ (Decimal.valueOf text.toList : Int) := by
  obtain ⟨tree, htree, -, rfl⟩ := assemble_eq_ok_iff.1 hp
  have h : (instructions source).2 = .ok () := compile_ok_iff.2 ⟨tree, htree⟩
  refine ⟨tree, htree, ?_⟩
  rw [Program.constants, List.toList_toArray, tree.filterMap_constant?_code, List.map_map]
  refine List.map_congr_left fun text ht ↦ ?_
  rw [← Tree.loadInteger_mem_instructions, ← instructions_of_isTreeOf htree] at ht
  obtain ⟨before, after, his⟩ := List.append_of_mem ht
  have hle : ¬ 2 ^ 63 - 1 < Decimal.valueOf text.toList := fun hlarge ↦
    (exists_program_iff h).1 ⟨_, hp⟩ before _ after his _ (.tooLarge hlarge)
  exact Tree.toInt_literal (numeral_of_loadInteger h text ht) (Nat.not_lt.1 hle)

/-- A text of the grammar has no op code for two reasons only. The first of its instructions that
loads too large an integer, or leaves a loop where none is open, is the one that is reported. The op
code of all other texts loads their integers, with as many zeros in front as there may be. -/
theorem assemble_error_iff_first_offence (source : String)
    (h : (instructions source).2 = .ok ()) :
    (∀ e, assemble source = .error e ↔
      ∃ fault, FirstOffence (instructions source).1.toList fault ∧ e = .assembly fault) ∧
    ((∃ p, assemble source = .ok p) ↔ ∀ before i after,
      (instructions source).1.toList = before ++ i :: after →
        ∀ fault, ¬ Offends before i fault) ∧
    (∀ imbalance, assemble source ≠ .error (.assembly (.unbalanced imbalance))) ∧
    ∀ p, assemble source = .ok p → ∃ tree, IsTreeOf tree source ∧
      p.constants.map Int64.toInt =
        (integers tree.words).map fun text ↦ (Decimal.valueOf text.toList : Int) := by
  refine ⟨fun e ↦ assemble_eq_error_iff h, exists_program_iff h, fun imbalance he ↦ ?_,
    fun p ↦ exists_constants_eq⟩
  obtain ⟨fault, ⟨before, i, after, -, ho, -⟩, hfault⟩ := (assemble_eq_error_iff h).1 he
  cases hfault
  cases ho

end

/-- The exit inside of the branch leaves the loop. The one behind it has no loop to leave, and the
integer behind that one comes too late to be reported. -/
theorem assemble_error_iff_first_offence_exit :
    (instructions "BEGIN LOOP IFP 007 BREAK END END BREAK PRINT 9223372036854775808 END").2 =
      .ok () ∧
    assemble "BEGIN LOOP IFP 007 BREAK END END BREAK PRINT 9223372036854775808 END" =
      .error (.assembly .exitOutsideLoop) := by
  have htree : IsTreeOf (.program (.sequence
      (.loop (.sequence (.conditional .positive
        (.expression (.term (.unsigned (.integer "007")) .noFactors) .noTerms)
        (.sequence .leave .empty) .noAlternative) .empty))
      (.sequence .leave (.sequence (.print
        (.expression (.term (.unsigned (.integer "9223372036854775808")) .noFactors) .noTerms))
        .empty))))
      "BEGIN LOOP IFP 007 BREAK END END BREAK PRINT 9223372036854775808 END" :=
    ⟨by decide +kernel, by decide⟩
  have h : (instructions _).2 = .ok () := compile_ok_iff.2 ⟨_, htree⟩
  refine ⟨h, ((assemble_error_iff_first_offence _ h).1 _).2 ⟨_, (firstOffence_iff h).1 ?_, rfl⟩⟩
  rw [instructions_of_isTreeOf htree]
  decide +kernel

end RegisterLang
