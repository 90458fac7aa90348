import Mathlib.Logic.ExistsUnique
import RegisterLang.Proofs.Dialect.Statements
import RegisterLang.Proofs.Grammar.Acceptance

namespace RegisterLang

namespace Instruction

def isOpening : Instruction → Bool
  | .branch _ | .loopStart => true
  | _ => false

def isClosing : Instruction → Bool
  | .branchEnd | .loopEnd => true
  | _ => false

def Opens : Instruction → Instruction → Prop
  | .branch _, .otherwise | .branch _, .branchEnd | .loopStart, .loopEnd => True
  | _, _ => False

theorem Opens.outdent_eq {i j : Instruction} (h : j.Opens i) : j.outdent = 0 ∧ i.outdent = 1 := by
  unfold Opens at h
  split at h
  · exact ⟨rfl, rfl⟩
  · exact ⟨rfl, rfl⟩
  · exact ⟨rfl, rfl⟩
  · exact h.elim

end Instruction

namespace Discipline

inductive Body : List Instruction → Pending → Prop where
  | nil : Body [] {}
  | snoc {is : List Instruction} {p : Pending} {i : Instruction} (h : Body is p)
      (hstart : i ≠ .programStart) (hend : i ≠ .programEnd) (ha : p.Admits i) :
      Body (is ++ [i]) (p.after i)

theorem Body.of_follows {is js : List Instruction} {p : Pending} {s : Stage} (hb : Body is p)
    (h : Follows (.inside p) js s) :
    (∃ q, s = .inside q ∧ Body (is ++ js) q) ∨
      s = .behind ∧ ∃ body, js = body ++ [.programEnd] ∧ Body (is ++ body) {} := by
  induction js generalizing is p with
  | nil =>
    cases h
    exact .inl ⟨p, rfl, by simpa using hb⟩
  | cons i js ih =>
    cases h with
    | cons hi more =>
      cases hi with
      | give hstart hend ha =>
        obtain ⟨q, hq, hb⟩ | ⟨hs, body, rfl, hb⟩ := ih (hb.snoc hstart hend ha) more
        · exact .inl ⟨q, hq, by simpa using hb⟩
        · exact .inr ⟨hs, i :: body, rfl, by simpa using hb⟩
      | finish =>
        cases more with
        | nil => exact .inr ⟨rfl, [], rfl, by simpa using hb⟩
        | cons hj => cases hj

theorem Body.take {is : List Instruction} {p : Pending} (h : Body is p) {n : Nat}
    {i : Instruction} (hi : is[n]? = some i) :
    ∃ q, Body (is.take n) q ∧ i ≠ .programStart ∧ i ≠ .programEnd ∧ q.Admits i := by
  induction h with
  | nil => simp at hi
  | @snoc is p j h hstart hend ha ih =>
    obtain hn | rfl | hn := Nat.lt_trichotomy n is.length
    · rw [List.getElem?_append_left hn] at hi
      rw [List.take_append_of_le_length (Nat.le_of_lt hn)]
      exact ih hi
    · obtain rfl : j = i := by simpa using hi
      exact ⟨p, by simpa using h, hstart, hend, ha⟩
    · rw [List.getElem?_eq_none (by simpa using Nat.succ_le_of_lt hn)] at hi
      cases hi

def openPlaces (is : List Instruction) : List Nat := is.zipIdx.foldl after []
where
  after (places : List Nat) : Instruction × Nat → List Nat
    | (i, n) => if i.isOpening then n :: places else if i.isClosing then places.tail else places

theorem openPlaces_append_singleton (is : List Instruction) (i : Instruction) :
    openPlaces (is ++ [i]) = openPlaces.after (openPlaces is) (i, is.length) := by
  simp [openPlaces, List.zipIdx_append]

def Frame.OpenedBy : Frame → Instruction → Prop
  | .branch, .branch _ | .alternative, .branch _ | .loop, .loopStart => True
  | _, _ => False

/-- Places of open blocks, as they stand around the end of a list of instructions. What is open
around a block was open where it starts. -/
inductive Stacked (is : List Instruction) : List Nat → List Frame → Prop where
  | nil : Stacked is [] []
  | cons {k : Nat} {j : Instruction} {places : List Nat} {frame : Frame} {frames : List Frame}
      (hk : is[k]? = some j) (hj : frame.OpenedBy j) (hrest : openPlaces (is.take k) = places)
      (more : Stacked is places frames) : Stacked is (k :: places) (frame :: frames)

section

variable {is : List Instruction} {places : List Nat} {frames : List Frame}

theorem Stacked.length_eq (h : Stacked is places frames) : places.length = frames.length := by
  induction h with
  | nil => rfl
  | cons _ _ _ _ ih => simp [ih]

theorem Stacked.lt_length (h : Stacked is places frames) : ∀ k ∈ places, k < is.length := by
  induction h with
  | nil => exact List.forall_mem_nil _
  | cons hk _ _ _ ih => exact List.forall_mem_cons.2 ⟨(List.getElem?_eq_some_iff.1 hk).1, ih⟩

theorem Stacked.append (h : Stacked is places frames) (more : List Instruction) :
    Stacked (is ++ more) places frames := by
  induction h with
  | nil => exact .nil
  | @cons k j places frame frames hk hj hrest _ ih =>
    have hlt : k < is.length := (List.getElem?_eq_some_iff.1 hk).1
    refine .cons (by rwa [List.getElem?_append_left hlt]) hj ?_ ih
    rwa [List.take_append_of_le_length (Nat.le_of_lt hlt)]

theorem Stacked.tail (h : Stacked is places frames) : Stacked is places.tail frames.tail := by
  cases h with
  | nil => exact .nil
  | cons _ _ _ more => exact more

theorem Stacked.otherwise (h : Stacked is places frames) (hf : frames.head? = some .branch) :
    Stacked is places (.alternative :: frames.tail) := by
  cases h with
  | nil => cases hf
  | @cons k j _ frame _ hk hj hrest more =>
    obtain rfl : frame = .branch := by simpa using hf
    refine .cons hk ?_ hrest more
    cases j <;> exact hj

end

theorem Body.stacked {is : List Instruction} {p : Pending} (h : Body is p) :
    Stacked is (openPlaces is) p.blocks := by
  induction h with
  | nil => exact .nil
  | @snoc is p i h _ _ ha ih =>
    have hs := ih.append [i]
    rw [openPlaces_append_singleton]
    cases i with
    | branch condition => exact .cons (j := .branch condition) (by simp) trivial (by simp) hs
    | loopStart => exact .cons (j := .loopStart) (by simp) trivial (by simp) hs
    | otherwise => exact hs.otherwise ha.1
    | branchEnd | loopEnd => exact hs.tail
    | _ => exact hs

section

variable {is body : List Instruction} {p : Pending} {i j : Instruction} {k n : Nat}

theorem Body.lt_of_mem_openPlaces (h : Body (is.take n) p) (hk : k ∈ openPlaces (is.take n)) :
    k < n :=
  Nat.lt_of_lt_of_le (h.stacked.lt_length k hk) (List.length_take_le n is)

theorem Body.outdent_le (h : Body is p) (ha : p.Admits i) : i.outdent ≤ (openPlaces is).length := by
  rw [h.stacked.length_eq]
  have hpos {frame : Frame} (hf : p.blocks.head? = some frame) : 1 ≤ p.blocks.length := by
    cases hb : p.blocks with
    | nil => simp [hb] at hf
    | cons => simp
  cases i with
  | otherwise | loopEnd => exact hpos ha.1
  | branchEnd => exact ha.1.elim hpos hpos
  | _ => exact Nat.zero_le _

theorem length_after {places : List Nat} (h : i.outdent ≤ places.length) :
    (openPlaces.after places (i, n)).length = places.length - i.outdent + i.indent := by
  cases i with
  | otherwise => exact (Nat.sub_add_cancel h).symm
  | branchEnd | loopEnd => exact List.length_tail
  | _ => rfl

def around (is : List Instruction) (i : Instruction) : List Nat := (openPlaces is).drop i.outdent

theorem opens_of_admits {frame : Frame} {frames : List Frame} (hp : p.blocks = frame :: frames)
    (ha : p.Admits i) (ho : 0 < i.outdent) (hj : frame.OpenedBy j) : j.Opens i := by
  cases i with
  | otherwise =>
    obtain rfl : frame = .branch := by simpa [hp] using ha.1
    cases j <;> trivial
  | branchEnd =>
    obtain rfl | rfl : frame = .branch ∨ frame = .alternative := by simpa [hp] using ha.1
    all_goals cases j <;> trivial
  | loopEnd =>
    obtain rfl : frame = .loop := by simpa [hp] using ha.1
    cases j <;> trivial
  | _ => cases ho

/-- A line that goes on with a block or ends it has the same blocks around it as the line that opens
the block. -/
theorem Body.exists_opening (h : Body body p) (hi : body[n]? = some i) (ho : 0 < i.outdent) :
    ∃ k j, (openPlaces (body.take n)).head? = some k ∧ k < n ∧ body[k]? = some j ∧ j.Opens i ∧
      around (body.take k) j = around (body.take n) i := by
  obtain ⟨q, hb, -, -, ha⟩ := h.take hi
  have hle := hb.outdent_le ha
  have hlt {k : Nat} := hb.lt_of_mem_openPlaces (k := k)
  have hs := hb.stacked
  unfold around
  generalize openPlaces (body.take n) = places at hle hlt hs
  generalize hq : q.blocks = frames at hs
  cases hs with
  | nil => exact absurd (Nat.lt_of_lt_of_le ho hle) (Nat.lt_irrefl 0)
  | @cons k j places frame frames hk hj hrest more =>
    have hkn : k < n := hlt (.head _)
    rw [List.take_take, Nat.min_eq_left (Nat.le_of_lt hkn)] at hrest
    rw [List.getElem?_take_of_lt hkn] at hk
    have hopens := opens_of_admits hq ha ho hj
    refine ⟨k, j, rfl, hkn, hk, hopens, ?_⟩
    rw [hrest, hopens.outdent_eq.1, hopens.outdent_eq.2]
    rfl

theorem openPlaces_take_succ (hi : body[n]? = some i) :
    openPlaces (body.take (n + 1)) = openPlaces.after (openPlaces (body.take n)) (i, n) := by
  have hn : n < body.length := (List.getElem?_eq_some_iff.1 hi).1
  rw [List.take_add_one, hi, Option.toList_some, openPlaces_append_singleton, List.length_take,
    Nat.min_eq_left (Nat.le_of_lt hn)]

def Closes (body : List Instruction) (k n : Nat) : Prop :=
  ∃ i, body[n]? = some i ∧ i.isClosing = true ∧ (openPlaces (body.take n)).head? = some k

theorem mem_openPlaces_or_closes (hj : body[k]? = some j) (ho : j.isOpening = true) {m : Nat}
    (hk : k < m) (hm : m ≤ body.length) :
    k ∈ openPlaces (body.take m) ∨ ∃ n, Closes body k n := by
  induction hk with
  | refl => exact .inl (by simp [openPlaces_take_succ hj, openPlaces.after, ho])
  | @step m hkm ih =>
    have hi : body[m]? = some body[m] := List.getElem?_eq_getElem (Nat.lt_of_succ_le hm)
    obtain hmem | hend := ih (Nat.le_of_succ_le hm)
    · rw [openPlaces_take_succ hi, openPlaces.after]
      split
      · exact .inl (.tail _ hmem)
      split
      · next hc =>
        cases hp : openPlaces (body.take m) with
        | nil => simp [hp] at hmem
        | cons k' places =>
          rw [hp] at hmem
          obtain rfl | hmem := List.mem_cons.1 hmem
          · exact .inr ⟨m, _, hi, hc, by rw [hp]; rfl⟩
          · exact .inl hmem
      · exact .inl hmem
    · exact .inr hend

theorem Body.lt_of_mem_tail {places : List Nat} (h : Body is p)
    (hp : openPlaces is = k :: places) : ∀ k' ∈ places, k' < k := by
  have hs := h.stacked
  rw [hp] at hs
  generalize p.blocks = frames at hs
  cases hs with
  | cons hk _ hrest _ =>
    obtain ⟨q, hb, -⟩ := h.take hk
    exact fun k' hk' ↦ hb.lt_of_mem_openPlaces (hrest ▸ hk')

theorem Body.notMem_openPlaces (h : Body body p) (hc : Closes body k n) {m : Nat} (hn : n < m)
    (hm : m ≤ body.length) : k ∉ openPlaces (body.take m) := by
  obtain ⟨i, hi, hclosing, hhead⟩ := hc
  obtain ⟨q, hb, -⟩ := h.take hi
  obtain ⟨places, hp⟩ := List.head?_eq_some_iff.1 hhead
  have hkn : k < n := hb.lt_of_mem_openPlaces (List.mem_of_head? hhead)
  induction hn with
  | refl =>
    have hopening : i.isOpening = false := by cases i <;> first | rfl | cases hclosing
    rw [openPlaces_take_succ hi, hp]
    simp only [openPlaces.after, hopening, hclosing, Bool.false_eq_true, if_false, if_true]
    exact fun hk ↦ absurd (hb.lt_of_mem_tail hp k hk) (Nat.lt_irrefl k)
  | @step m hnm ih =>
    have hi : body[m]? = some body[m] := List.getElem?_eq_getElem (Nat.lt_of_succ_le hm)
    have hk := ih (Nat.le_of_succ_le hm)
    have hkm : k ≠ m := Nat.ne_of_lt (Nat.lt_trans hkn hnm)
    rw [openPlaces_take_succ hi, openPlaces.after]
    split
    · simp [hk, hkm]
    split
    · exact fun hmem ↦ hk (List.mem_of_mem_tail hmem)
    · exact hk

theorem Body.existsUnique_closes (h : Body body p) (hp : openPlaces body = [])
    (hj : body[k]? = some j) (ho : j.isOpening = true) : ∃! n, Closes body k n := by
  have hk : k < body.length := (List.getElem?_eq_some_iff.1 hj).1
  obtain hmem | ⟨n, hn⟩ := mem_openPlaces_or_closes hj ho hk (Nat.le_refl _)
  · simp [hp] at hmem
  have hopen {m : Nat} (hm : Closes body k m) : k ∈ openPlaces (body.take m) := by
    obtain ⟨i, -, -, hhead⟩ := hm
    exact List.mem_of_head? hhead
  have hle {m : Nat} (hm : Closes body k m) : m ≤ body.length := by
    obtain ⟨i, hi, -⟩ := hm
    exact Nat.le_of_lt (List.getElem?_eq_some_iff.1 hi).1
  refine ⟨n, hn, fun m hm ↦ ?_⟩
  obtain hlt | heq | hlt := Nat.lt_trichotomy m n
  · exact absurd (hopen hn) (h.notMem_openPlaces hm hlt (hle hn))
  · exact heq
  · exact absurd (hopen hm) (h.notMem_openPlaces hn hlt (hle hm))

end

end Discipline

namespace Dialect

open Discipline Grammar

def bodyLines (d : Dialect) (body : List Instruction) : List String :=
  body.mapIdx fun n i ↦ line (d.bodyDepth + (around (body.take n) i).length) (d.code i)

def draft (d : Dialect) (body : List Instruction) : Draft :=
  body.foldl (Draft.give d) (Draft.give d {} .programStart)

/-- A body in the text of a dialect. The depth follows the open blocks and is never taken below what
the header leaves, and a line that goes on with a block or ends it stands where the block was
opened. -/
structure Laid (d : Dialect) (body : List Instruction) : Prop where
  inside : ∀ i ∈ body, i ≠ .programStart ∧ i ≠ .programEnd
  statement : ∀ i ∈ body, IsStatement (d.code i)
  depth_eq : ∀ n, (d.draft (body.take n)).depth = d.bodyDepth + (openPlaces (body.take n)).length
  outdent_le : ∀ n i, body[n]? = some i → d.bodyDepth + i.outdent ≤ (d.draft (body.take n)).depth
  opening : ∀ n i, body[n]? = some i → 0 < i.outdent →
    ∃ k j, (openPlaces (body.take n)).head? = some k ∧ k < n ∧ body[k]? = some j ∧ j.Opens i ∧
      around (body.take k) j = around (body.take n) i

structure Settled (d : Dialect) (body : List Instruction) : Prop where
  depth_eq : (d.draft body).depth = d.bodyDepth
  closed : ∀ k j, body[k]? = some j → j.isOpening = true → ∃! n, Closes body k n

section

variable {d : Dialect} {body : List Instruction} {p : Pending} {i : Instruction}

theorem draft_append_singleton :
    d.draft (body ++ [i]) = Draft.give d (d.draft body) i := by
  simp [draft]

theorem bodyLines_append_singleton : d.bodyLines (body ++ [i]) =
    d.bodyLines body ++ [line (d.bodyDepth + (around body i).length) (d.code i)] := by
  rw [bodyLines, List.mapIdx_concat, List.take_left]
  refine congrArg (· ++ _) (List.mapIdx_eq_mapIdx_iff.2 fun n hn ↦ ?_)
  rw [List.take_append_of_le_length (Nat.le_of_lt hn)]

theorem depth_draft (h : Body body p) :
    (d.draft body).depth = d.bodyDepth + (openPlaces body).length := by
  induction h with
  | nil => rfl
  | snoc h hstart hend ha ih =>
    have hle := h.outdent_le ha
    rw [draft_append_singleton, openPlaces_append_singleton, length_after hle, Draft.give,
      write_eq _ _ hstart hend, ih]
    dsimp only
    omega

theorem text_draft (h : Body body p) :
    (d.draft body).text = d.header ++ String.join (d.bodyLines body) := by
  induction h with
  | nil => simp [draft, Draft.give, write, bodyLines]
  | @snoc body p i h hstart hend ha ih =>
    have hle := h.outdent_le ha
    have hlevel : (d.draft body).depth - i.outdent = d.bodyDepth + (around body i).length := by
      rw [depth_draft h, around, List.length_drop]
      omega
    rw [draft_append_singleton, bodyLines_append_singleton, Draft.give,
      write_eq _ _ hstart hend, ih, hlevel]
    simp [String.append_assoc]

theorem laid (h : Body body p) (hd : d.Lined) (hw : ∀ i ∈ body, i.Worded) : d.Laid body where
  inside i hi := by
    obtain ⟨n, hn⟩ := List.mem_iff_getElem?.1 hi
    obtain ⟨q, -, hstart, hend, -⟩ := h.take hn
    exact ⟨hstart, hend⟩
  statement i hi := by
    obtain ⟨n, hn⟩ := List.mem_iff_getElem?.1 hi
    obtain ⟨q, -, hstart, hend, -⟩ := h.take hn
    exact hd i hstart hend (hw i hi)
  depth_eq n := by
    cases hn : body[n]? with
    | none => rw [List.take_of_length_le (List.getElem?_eq_none_iff.1 hn), depth_draft h]
    | some i =>
      obtain ⟨q, hb, -⟩ := h.take hn
      exact depth_draft hb
  outdent_le n i hn := by
    obtain ⟨q, hb, -, -, ha⟩ := h.take hn
    rw [depth_draft hb]
    exact Nat.add_le_add_left (hb.outdent_le ha) _
  opening n i hn ho := h.exists_opening hn ho

theorem settled (h : Body body {}) : d.Settled body := by
  have hp : openPlaces body = [] := List.eq_nil_of_length_eq_zero h.stacked.length_eq
  refine ⟨by simp [depth_draft h, hp], fun k j hj ho ↦ h.existsUnique_closes hp hj ho⟩

end

/-- How a source text comes out: nothing is written, a body is left open behind an error, or the
body of an accepted text stands between header and footer. -/
inductive Written (d : Dialect) : List Instruction → String × Except SourceError Unit → Prop where
  | nothing {e : SourceError} : Written d [] ("", .error e)
  | stopped {body : List Instruction} {p : Pending} {e : SourceError} (h : Body body p) :
      Written d (.programStart :: body) (d.header ++ String.join (d.bodyLines body), .error e)
  | finished {body : List Instruction} (h : Body body {}) :
      Written d (.programStart :: (body ++ [.programEnd]))
        (d.header ++ String.join (d.bodyLines body) ++ d.footer, .ok ())

theorem written (d : Dialect) (source : String) :
    Written d (instructions source).1.toList (renderIn d source) := by
  obtain ⟨s, hs, hend⟩ := exists_follows source
  simp only [renderIn, compile_eq_foldl]
  generalize (instructions source).1.toList = is at hs
  generalize (instructions source).2 = result at hend
  have herror (hs : s ≠ .behind) : ∃ e, result = .error e := by
    cases result with
    | error e => exact ⟨e, rfl⟩
    | ok => exact absurd (hend.1 rfl) hs
  cases hs with
  | nil =>
    obtain ⟨e, rfl⟩ := herror (by simp)
    exact .nothing
  | cons hi more =>
    cases hi
    obtain ⟨q, rfl, hb⟩ | ⟨rfl, body, rfl, hb⟩ := Body.nil.of_follows more
    · obtain ⟨e, rfl⟩ := herror (by simp)
      rw [List.nil_append] at hb
      rw [List.foldl_cons, ← draft, text_draft hb]
      exact .stopped hb
    · obtain rfl := hend.2 rfl
      rw [List.nil_append] at hb
      rw [List.foldl_cons, List.foldl_append, ← draft, List.foldl_cons, List.foldl_nil, Draft.give,
        text_draft hb]
      exact .finished hb

/-- A text is empty, or it is the header and one line for each instruction inside the program, as
far in as there are blocks open around it. The footer is written if and only if the source text is
accepted, and then the depth is what the header left and each block has ended once. -/
theorem text_is_laid_out {d : Dialect} (hd : d = .rust ∨ d = .swift) (source : String) :
    ((instructions source).1.toList = [] ∧ (renderIn d source).1 = "" ∧
      (renderIn d source).2 ≠ .ok ()) ∨
    ∃ body, d.Laid body ∧
      ((instructions source).1.toList = .programStart :: body ∧
          (renderIn d source).1 = d.header ++ String.join (d.bodyLines body) ∧
          (renderIn d source).2 ≠ .ok () ∨
        (instructions source).1.toList = .programStart :: (body ++ [.programEnd]) ∧
          (renderIn d source).1 = d.header ++ String.join (d.bodyLines body) ++ d.footer ∧
          (renderIn d source).2 = .ok () ∧ d.Settled body) := by
  have h := written d source
  have hw := worded_of_mem_instructions source
  generalize (instructions source).1.toList = is at h hw
  generalize renderIn d source = written at h
  cases h with
  | nothing => exact .inl ⟨rfl, rfl, by simp⟩
  | stopped hb =>
    have hw := (List.forall_mem_cons.1 hw).2
    exact .inr ⟨_, laid hb (lined hd) hw, .inl ⟨rfl, rfl, by simp⟩⟩
  | finished hb =>
    have hw := (List.forall_mem_append.1 (List.forall_mem_cons.1 hw).2).1
    exact .inr ⟨_, laid hb (lined hd) hw, .inr ⟨rfl, rfl, rfl, settled hb⟩⟩

theorem text_is_laid_out_loop : (swift = .rust ∨ swift = .swift) ∧
    (renderIn swift "BEGIN LOOP IFZ x BREAK ELSE PRINT x END END END").1 = swiftHeader ++ lines
      [ "while true \x7b",
        "    register = variables[\"x\"]",
        "    if register == 0 \x7b",
        "        break",
        "    \x7d else \x7b",
        "        register = variables[\"x\"]",
        "        print(register)",
        "    \x7d",
        "\x7d" ] ++ swiftFooter := by
  have htree : IsTreeOf (.program (.sequence (.loop (.sequence (.conditional .zero
      (.expression (.term (.unsigned (.identifier "x")) .noFactors) .noTerms)
      (.sequence .leave .empty) (.otherwise (.sequence (.print (.expression (.term (.unsigned
        (.identifier "x")) .noFactors) .noTerms)) .empty))) .empty)) .empty))
      "BEGIN LOOP IFZ x BREAK ELSE PRINT x END END END" := ⟨by decide +kernel, by decide⟩
  have hx := instructions_of_isTreeOf htree
  refine ⟨.inr rfl, ?_⟩
  obtain ⟨h, -⟩ | ⟨body, hl, ⟨h, -⟩ | ⟨h, ht, -⟩⟩ := text_is_laid_out (.inr rfl)
    "BEGIN LOOP IFZ x BREAK ELSE PRINT x END END END"
  · cases hx.symm.trans h
  · cases hx.symm.trans h
    exact absurd rfl (hl.inside .programEnd (by decide)).2
  · obtain rfl := List.append_cancel_right (List.cons.inj (h.symm.trans hx)).2
    rw [ht]
    decide +kernel

end Dialect

end RegisterLang
