import RegisterLang.Proofs.Bytecode.Assembly
import RegisterLang.Proofs.Token.Scan

namespace RegisterLang

def Op.lift (height : Nat) : Op → Nat
  | push => height + 1
  | apply _ => height - 1
  | _ => height

namespace Program

def height (p : Program) (index : Nat) : Nat := (p.ops.toList.take index).foldl Op.lift 0

def Lands (p : Program) (target : Nat) : Prop := target < p.ops.size ∧ p.height target = 0

def Fits (p : Program) (height : Nat) : Op → Prop
  | .apply _ => 0 < height
  | .jump target | .jumpUnless _ target => height = 0 ∧ p.Lands target
  | .print | .store _ | .read _ | .halt => height = 0
  | .load _ | .loadVariable _ | .push | .negate => True

/-- A stretch of op code where each op gets what it asks for, and the stack stays low. -/
def Fit (p : Program) (base size bound : Nat) : Prop :=
  ∀ i op, base ≤ i → i < base + size → p.ops[i]? = some op →
    p.Fits (p.height i) op ∧ p.height i ≤ bound

variable {p : Program} {base size more bound : Nat} {op : Op}

theorem height_zero : p.height 0 = 0 := by simp [height]

theorem height_succ (h : p.ops[base]? = some op) :
    p.height (base + 1) = op.lift (p.height base) := by
  have hl : p.ops.toList[base]? = some op := by simpa using h
  simp [height, List.take_add_one, hl]

theorem height_end (h : p.ops.size ≤ base) : p.height base = p.height p.ops.size := by
  rw [height, height, List.take_of_length_le (by simpa using h), List.take_of_length_le (by simp)]

theorem height_of_holds {ops : List Op} (h : p.Holds base ops) :
    p.height (base + ops.length) = ops.foldl Op.lift (p.height base) := by
  induction ops generalizing base with
  | nil => rfl
  | cons op ops ih =>
    rw [List.length_cons, Nat.add_comm ops.length, ← Nat.add_assoc, ih h.2, height_succ h.1]
    rfl

namespace Fit

theorem nil : p.Fit base 0 bound := fun i op h h' ↦ absurd h' (by omega)

theorem one (h : p.ops[base]? = some op) (hop : p.Fits (p.height base) op)
    (hb : p.height base ≤ bound) : p.Fit base 1 bound := by
  intro i o hi hi' ho
  obtain rfl : i = base := by omega
  cases h.symm.trans ho
  exact ⟨hop, hb⟩

theorem append (h : p.Fit base size bound) (h' : p.Fit (base + size) more bound) :
    p.Fit base (size + more) bound := by
  intro i op hi hi' ho
  by_cases hlt : i < base + size
  · exact h i op hi hlt ho
  · exact h' i op (by omega) (by omega) ho

theorem mono {bound' : Nat} (h : p.Fit base size bound) (hb : bound ≤ bound') :
    p.Fit base size bound' :=
  fun i op hi hi' ho ↦ ⟨(h i op hi hi' ho).1, Nat.le_trans (h i op hi hi' ho).2 hb⟩

end Fit

end Program

namespace Grammar

def Production.slack : Production → Nat
  | signed | factor => 0
  | term | moreFactors => 1
  | _ => 2

def Production.isStatement : Production → Bool
  | block | statement | alternative | readTarget => true
  | _ => false

variable {p : Program} {base exit : Nat}

@[simp]
theorem Tree.lift_code {q : Production} (t : Tree q) (height : Nat) :
    (t.code base exit).foldl Op.lift height = height := by
  induction t generalizing base exit height <;> simp_all [Tree.code, Op.lift]

theorem height_code {q : Production} {t : Tree q} (h : p.Holds base (t.code base exit)) :
    p.height (base + t.size) = p.height base := by
  have hh := Program.height_of_holds h
  rwa [Tree.length_code, Tree.lift_code] at hh

/-- A place for a statement: the stack is empty, more code follows, and the loop around it can be
left. -/
structure Placed (p : Program) (base size exit : Nat) (inLoop : Bool) : Prop where
  height_eq : p.height base = 0
  lt_size : base + size < p.ops.size
  lands : inLoop = true → p.Lands exit

theorem Placed.of_expression {q : Production} {size : Nat} {inLoop : Bool}
    (hq : q.isStatement = false) : q.isStatement = true → Placed p base size exit inLoop :=
  fun h ↦ absurd (hq.symm.trans h) Bool.false_ne_true

theorem lands_entry {other : Tree .alternative} (hc : p.Holds base (other.code base exit))
    (hz : p.height base = 0) (hlt : base + other.size < p.ops.size) :
    p.Lands (base + other.entry) := by
  cases other with
  | noAlternative => exact ⟨hlt, hz⟩
  | otherwise body =>
    simp only [Tree.size] at hlt
    exact ⟨by simp only [Tree.entry]; omega, (Program.height_succ hc.1).trans hz⟩

theorem fit {q : Production} (t : Tree q) (base exit : Nat) (inLoop : Bool)
    (hq : q.isProgram = false) (hc : p.Holds base (t.code base exit)) (hf : t.fault? inLoop = none)
    (hs : q.isStatement = true → Placed p base t.size exit inLoop) :
    p.Fit base t.size (p.height base + q.slack + 2 * t.nesting) := by
  induction t generalizing base exit inLoop with
  | program => cases hq
  | empty | noAlternative | noTerms | noFactors => exact .nil
  | sequence first rest ihf ihr =>
    obtain ⟨hz, hlt, hl⟩ := hs rfl
    simp only [Tree.code, Program.holds_append, Tree.length_code] at hc
    simp only [Tree.fault?, Option.or_eq_none_iff] at hf
    simp only [Tree.size] at hlt ⊢
    have hm := height_code hc.1
    have h₁ := ihf base exit inLoop rfl hc.1 hf.1 fun _ ↦ ⟨hz, by omega, hl⟩
    have h₂ := ihr _ exit inLoop rfl hc.2 hf.2 fun _ ↦ ⟨hm.trans hz, by omega, hl⟩
    simp only [Tree.nesting, Production.slack] at h₁ h₂ ⊢
    exact (h₁.mono (by omega)).append (h₂.mono (by omega))
  | conditional condition test body other iht ihb iho =>
    obtain ⟨hz, hlt, hl⟩ := hs rfl
    simp only [Tree.code, Program.holds_append, Program.holds_cons, Tree.length_code] at hc
    simp only [Tree.fault?, Option.or_eq_none_iff] at hf
    simp only [Tree.size] at hlt ⊢
    obtain ⟨hct, hj, hcb, hco⟩ := hc
    have hm := (height_code hct).trans hz
    have hb : p.height (base + test.size + 1) = 0 := (Program.height_succ hj).trans hm
    have ho := (height_code hcb).trans hb
    have h₁ := iht base exit inLoop rfl hct hf.1 (Placed.of_expression rfl)
    have h₂ : p.Fit (base + test.size) 1 0 :=
      .one hj ⟨hm, lands_entry hco ho (by omega)⟩ (by omega)
    have h₃ := ihb _ exit inLoop rfl hcb hf.2.1 fun _ ↦ ⟨hb, by omega, hl⟩
    have h₄ := iho _ exit inLoop rfl hco hf.2.2 fun _ ↦ ⟨ho, by omega, hl⟩
    rw [hb, Nat.add_assoc base test.size 1] at h₃
    rw [ho, Nat.add_assoc base test.size 1, Nat.add_assoc base] at h₄
    simp only [Tree.nesting, Production.slack] at h₁ h₃ h₄ ⊢
    exact (((h₁.mono (by omega)).append (h₂.mono (by omega))).append
      (h₃.mono (by omega))).append (h₄.mono (by omega))
  | loop body ih =>
    obtain ⟨hz, hlt, hl⟩ := hs rfl
    simp only [Tree.code, Program.holds_append, Program.holds_cons, Tree.length_code] at hc
    simp only [Tree.size] at hlt ⊢
    obtain ⟨hcb, hj, -⟩ := hc
    have hm := (height_code hcb).trans hz
    have hx : p.Lands (base + body.size + 1) := ⟨by omega, (Program.height_succ hj).trans hm⟩
    have h₁ := ih base _ true rfl hcb hf fun _ ↦ ⟨hz, by omega, fun _ ↦ hx⟩
    have h₂ : p.Fit (base + body.size) 1 0 := .one hj ⟨hm, by omega, hz⟩ (by omega)
    simp only [Tree.nesting, Production.slack] at h₁ ⊢
    exact (h₁.mono (by omega)).append (h₂.mono (by omega))
  | leave =>
    obtain ⟨hz, hlt, hl⟩ := hs rfl
    cases inLoop with
    | false => cases hf
    | true => exact .one hc.1 ⟨hz, hl rfl⟩ (by omega)
  | print value ih | assign _ value ih =>
    obtain ⟨hz, hlt, hl⟩ := hs rfl
    simp only [Tree.code, Program.holds_append, Program.holds_cons, Tree.length_code] at hc
    have hm := height_code hc.1
    have h₁ := ih base exit inLoop rfl hc.1 hf (Placed.of_expression rfl)
    exact h₁.append (.one hc.2.1 (hm.trans hz) (by omega))
  | minus factor ih =>
    simp only [Tree.code, Program.holds_append, Program.holds_cons, Tree.length_code] at hc
    have hm := height_code hc.1
    have h₁ := ih base exit inLoop rfl hc.1 hf (Placed.of_expression rfl)
    exact h₁.append (.one hc.2.1 trivial (by omega))
  | read into ih => exact ih base exit inLoop rfl hc (by cases into; rfl) fun _ ↦ hs rfl
  | otherwise body ih =>
    obtain ⟨hz, hlt, hl⟩ := hs rfl
    simp only [Tree.size] at hlt ⊢
    have hm : p.height (base + 1) = 0 := (Program.height_succ hc.1).trans hz
    have h₁ := ih (base + 1) exit inLoop rfl hc.2 hf fun _ ↦ ⟨hm, by omega, hl⟩
    have ht : p.Lands (base + 1 + body.size) := ⟨by omega, (height_code hc.2).trans hm⟩
    have h₂ : p.Fit base 1 0 := .one hc.1 ⟨hz, ht⟩ (by omega)
    simp only [Tree.nesting, Production.slack] at h₁ ⊢
    exact (h₂.mono (by omega)).append (h₁.mono (by omega))
  | target name => exact .one hc.1 (hs rfl).height_eq (by omega)
  | expression first rest ihf ihr | term first rest ihf ihr =>
    simp only [Tree.code, Program.holds_append, Tree.length_code] at hc
    simp only [Tree.fault?, Option.or_eq_none_iff] at hf
    have hm := height_code hc.1
    have h₁ := ihf base exit inLoop rfl hc.1 hf.1 (Placed.of_expression rfl)
    have h₂ := ihr _ exit inLoop rfl hc.2 hf.2 (Placed.of_expression rfl)
    simp only [Tree.nesting, Production.slack] at h₁ h₂ ⊢
    exact (h₁.mono (by omega)).append (h₂.mono (by omega))
  | moreTerms operation _ next rest ihn ihr | moreFactors operation _ next rest ihn ihr =>
    simp only [Tree.code, Program.holds_append, Program.holds_cons, Tree.length_code] at hc
    simp only [Tree.fault?, Option.or_eq_none_iff] at hf
    obtain ⟨hp, hcn, ha, hcr⟩ := hc
    have hm : p.height (base + 1) = p.height base + 1 := Program.height_succ hp
    have hn := height_code hcn
    have hr : p.height (base + 1 + next.size + 1) = p.height (base + 1 + next.size) - 1 :=
      Program.height_succ ha
    have h₁ : p.Fit base 1 (p.height base) := .one hp trivial (Nat.le_refl _)
    have h₂ := ihn _ exit inLoop rfl hcn hf.1 (Placed.of_expression rfl)
    have h₃ : p.Fit (base + 1 + next.size) 1 (p.height base + 1) :=
      .one ha (show 0 < _ by omega) (by omega)
    have h₄ := ihr _ exit inLoop rfl hcr hf.2 (Placed.of_expression rfl)
    rw [Nat.add_assoc base 1] at h₃
    rw [hr, hn, Nat.add_assoc base 1, Nat.add_assoc base] at h₄
    simp only [Tree.nesting, Production.slack] at h₂ h₄ ⊢
    exact (((h₁.mono (by omega)).append (h₂.mono (by omega))).append
      (h₃.mono (by omega))).append (h₄.mono (by omega))
  | unsigned factor ih | plus factor ih =>
    exact ih base exit inLoop rfl hc hf (Placed.of_expression rfl)
  | group inner ih =>
    refine (ih base exit inLoop rfl hc hf (Placed.of_expression rfl)).mono ?_
    simp only [Production.slack, Tree.nesting]
    omega
  | integer text | identifier name => exact .one hc.1 trivial (by omega)

theorem halt_notMem_code {q : Production} (t : Tree q) (hq : q.isProgram = false) :
    .halt ∉ t.code base exit := by
  induction t generalizing base exit with
  | program => cases hq
  | _ => simp_all [Tree.code, Production.isProgram]

theorem size_le_words {q : Production} (t : Tree q) : t.size ≤ 2 * t.words.length := by
  induction t <;> simp only [Tree.size, Tree.words, List.length_append, List.length_cons,
    List.length_nil] <;> omega

theorem length_words_le {tree : Tree .program} {source : String} (h : IsTreeOf tree source) :
    tree.words.length ≤ sourceLimit := by
  calc tree.words.length
    _ ≤ (Tokens.ofSource source).words.length := h.derives.length_le
    _ = ((Tokens.ofSource source).tokens.filter _).length := List.length_map _
    _ ≤ (Tokens.ofSource source).tokens.length := List.length_filter_le ..
    _ ≤ sourceLimit := Tokens.length_ofSource_le source

end Grammar

/-- Op code that keeps to its heights, from the first op to a `HALT` that is its last. -/
structure Program.Sound (p : Program) : Prop where
  size_pos : 0 < p.ops.size
  fits : ∀ i op, p.ops[i]? = some op → p.Fits (p.height i) op
  height_le : ∀ i, p.height i ≤ 2 * (Grammar.nestingLimit + 1)
  halt_iff : ∀ i, p.ops[i]? = some .halt ↔ i + 1 = p.ops.size
  size_le : p.ops.size ≤ 2 * sourceLimit

namespace Grammar

theorem getElem?_code_eq_halt {body : Tree .block} {i : Nat} :
    ((Tree.program body).code base exit)[i]? = some .halt ↔ i = body.size := by
  rw [Tree.code, List.getElem?_append, Tree.length_code]
  split
  · next hi =>
    have hne : (body.code base exit)[i]? ≠ some .halt :=
      fun h ↦ halt_notMem_code body rfl (List.mem_of_getElem? h)
    exact iff_of_false hne (Nat.ne_of_lt hi)
  · rw [List.getElem?_singleton]
    split <;> simp <;> omega

theorem sound_of_assemble {source : String} {p : Program} (h : assemble source = .ok p) :
    p.Sound := by
  obtain ⟨tree, ht, hf, hp⟩ := assemble_eq_ok_iff.1 h
  have hc : p.Holds 0 (tree.code 0 Op.pending) := hp ▸ Program.holds_all _
  have hsize : p.ops.size = tree.size := by simp [hp]
  have hops : ∀ i : Nat, p.ops[i]? = (tree.code 0 Op.pending)[i]? := by simp [hp]
  have hwords := length_words_le ht
  have hle := size_le_words tree
  have hn := ht.nesting_le
  cases tree with
  | program body =>
    simp only [Tree.code, Program.holds_append, Program.holds_cons, Tree.length_code,
      Nat.zero_add] at hc
    simp only [Tree.size] at hsize hle
    simp only [Tree.nesting] at hn
    have hbody := fit body 0 Op.pending false rfl hc.1 hf
      fun _ ↦ ⟨Program.height_zero, by omega, fun h ↦ by cases h⟩
    simp only [Program.height_zero, Production.slack, Nat.zero_add] at hbody
    have hz : p.height body.size = 0 := by
      simpa [Program.height_zero] using height_code hc.1
    have hlast : p.Fit body.size 1 0 := .one hc.2.1 hz (by omega)
    have hall : p.Fit 0 (body.size + 1) (2 + 2 * body.nesting) :=
      hbody.append (by simpa using hlast.mono (Nat.zero_le _))
    have hlt : ∀ {i : Nat} {op : Op}, p.ops[i]? = some op → i < 0 + (body.size + 1) := fun ho ↦ by
      have := (Array.getElem?_eq_some_iff.1 ho).1
      omega
    refine ⟨by omega, fun i op ho ↦ (hall i op (Nat.zero_le i) (hlt ho) ho).1, fun i ↦ ?_,
      fun i ↦ ?_, ?_⟩
    · by_cases hi : i < p.ops.size
      · have ho := Array.getElem?_eq_getElem hi
        have := (hall i _ (Nat.zero_le i) (hlt ho) ho).2
        omega
      · rw [Program.height_end (by omega), hsize, Program.height_succ hc.2.1]
        simp [Op.lift, hz]
    · rw [hops, getElem?_code_eq_halt, hsize]
      omega
    · omega

end Grammar

end RegisterLang
