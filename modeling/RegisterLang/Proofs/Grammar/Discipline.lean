import RegisterLang.Proofs.Grammar.Runs

namespace RegisterLang.Discipline

/-- An open block: a branch in front of its alternative or behind it, or a loop. -/
inductive Frame where
  | branch
  | alternative
  | loop
  deriving DecidableEq, Repr

/-- What instructions leave open: blocks, innermost first, and pushed words that no operation has
used. -/
structure Pending where
  blocks : List Frame := []
  pushed : Nat := 0
  deriving DecidableEq, Repr

namespace Pending

def after (p : Pending) : Instruction → Pending
  | .branch _ => { p with blocks := .branch :: p.blocks }
  | .loopStart => { p with blocks := .loop :: p.blocks }
  | .otherwise => { p with blocks := .alternative :: p.blocks.tail }
  | .branchEnd | .loopEnd => { p with blocks := p.blocks.tail }
  | .push => { p with pushed := p.pushed + 1 }
  | .apply _ => { p with pushed := p.pushed - 1 }
  | _ => p

/-- What has to be open where an instruction is given. An alternative belongs to a branch that has
none yet. Only what makes up an expression may stand where pushed words wait. -/
def Admits (p : Pending) : Instruction → Prop
  | .loadVariable _ | .loadInteger _ | .negate | .push => True
  | .apply _ => 0 < p.pushed
  | .otherwise => p.blocks.head? = some .branch ∧ p.pushed = 0
  | .branchEnd =>
    (p.blocks.head? = some .branch ∨ p.blocks.head? = some .alternative) ∧ p.pushed = 0
  | .loopEnd => p.blocks.head? = some .loop ∧ p.pushed = 0
  | .programEnd => p.blocks = [] ∧ p.pushed = 0
  | .programStart | .branch _ | .loopStart | .exitLoop | .print | .read _ | .store _ =>
    p.pushed = 0

end Pending

def pendingAfter (is : List Instruction) : Pending := is.foldl Pending.after {}

structure Kept (is : List Instruction) : Prop where
  start_iff : ∀ before i after, is = before ++ i :: after → (i = .programStart ↔ before = [])
  end_last : ∀ before after, is = before ++ .programEnd :: after → after = []
  admits : ∀ before i after, is = before ++ i :: after → (pendingAfter before).Admits i

inductive Stage where
  | before
  | inside (p : Pending)
  | behind
  deriving DecidableEq, Repr

/-- The instructions that may be given at a stage, and the stage that they lead to. -/
inductive Next : Stage → Instruction → Stage → Prop where
  | start : Next .before .programStart (.inside {})
  | give {p : Pending} {i : Instruction} (hstart : i ≠ .programStart) (hend : i ≠ .programEnd)
      (h : p.Admits i) : Next (.inside p) i (.inside (p.after i))
  | finish : Next (.inside {}) .programEnd .behind

inductive Follows : Stage → List Instruction → Stage → Prop where
  | nil {s : Stage} : Follows s [] s
  | cons {s s' s'' : Stage} {i : Instruction} {is : List Instruction} (h : Next s i s')
      (more : Follows s' is s'') : Follows s (i :: is) s''

def Stage.Shows : Stage → List Instruction → Prop
  | .before, is => is = []
  | .inside p, is => is ≠ [] ∧ pendingAfter is = p
  | .behind, is => is ≠ [] ∧ pendingAfter is = {}

theorem Next.shows {s s' : Stage} {i : Instruction} {is : List Instruction} (h : Next s i s')
    (hs : s.Shows is) : s'.Shows (is ++ [i]) := by
  cases h with
  | start =>
    obtain rfl : is = [] := hs
    exact ⟨by simp, rfl⟩
  | give => exact ⟨by simp, by simp [pendingAfter, ← hs.2]⟩
  | finish =>
    refine ⟨by simp, ?_⟩
    rw [pendingAfter, List.foldl_append, ← pendingAfter, hs.2]
    rfl

theorem Follows.split {s s' : Stage} {is before after : List Instruction} {i : Instruction}
    (h : Follows s (before ++ i :: after) s') (hs : s.Shows is) :
    ∃ s₁ s₂, s₁.Shows (is ++ before) ∧ Next s₁ i s₂ ∧ Follows s₂ after s' := by
  induction before generalizing s is with
  | nil =>
    cases h with
    | cons hi hafter => exact ⟨s, _, by simpa using hs, hi, hafter⟩
  | cons j before ih =>
    cases h with
    | cons hj hmore =>
      obtain ⟨s₁, s₂, hs₁, hi, hafter⟩ := ih hmore (hj.shows hs)
      exact ⟨s₁, s₂, by simpa using hs₁, hi, hafter⟩

theorem Follows.shows {s s' : Stage} {is js : List Instruction} (h : Follows s js s')
    (hs : s.Shows is) : s'.Shows (is ++ js) := by
  induction h generalizing is with
  | nil => simpa using hs
  | cons hi _ ih => simpa using ih (hi.shows hs)

theorem Follows.kept {is : List Instruction} {s : Stage} (h : Follows .before is s) : Kept is where
  start_iff before i after his := by
    subst his
    obtain ⟨s₁, s₂, hs, hi, -⟩ := h.split (show Stage.before.Shows [] from rfl)
    rw [List.nil_append] at hs
    cases hi with
    | start => exact ⟨fun _ ↦ hs, fun _ ↦ rfl⟩
    | give hstart => exact ⟨fun he ↦ absurd he hstart, fun he ↦ absurd he hs.1⟩
    | finish => exact ⟨nofun, fun he ↦ absurd he hs.1⟩
  end_last before after his := by
    subst his
    obtain ⟨s₁, s₂, -, hi, hafter⟩ := h.split (show Stage.before.Shows [] from rfl)
    cases hi with
    | give _ hend => exact absurd rfl hend
    | finish =>
      cases hafter with
      | nil => rfl
      | cons hj => cases hj
  admits before i after his := by
    subst his
    obtain ⟨s₁, s₂, hs, hi, -⟩ := h.split (show Stage.before.Shows [] from rfl)
    rw [List.nil_append] at hs
    cases hi with
    | start =>
      obtain rfl : before = [] := hs
      exact rfl
    | give _ _ h => exact hs.2 ▸ h
    | finish => exact hs.2 ▸ ⟨rfl, rfl⟩

theorem Follows.behind_iff {s s' : Stage} {is : List Instruction} (h : Follows s is s')
    (hs : s ≠ .behind) : s' = .behind ↔ .programEnd ∈ is := by
  induction h with
  | nil => simp [hs]
  | cons hi hmore ih =>
    cases hi with
    | start => simpa using ih nofun
    | give _ hend => simpa [hend.symm] using ih nofun
    | finish =>
      cases hmore with
      | nil => simp
      | cons hj => cases hj

open Grammar Grammar.Item

def inExpression : Production → Bool
  | .expression | .moreTerms | .term | .moreFactors | .signed | .factor => true
  | _ => false

/-- Items that can be run along from a stage: what they give may be given, and at their end the
program has ended. -/
def Keeps : List Item → Stage → Prop
  | [], s => s = .behind
  | give i :: rest, s => ∃ s', Next s i s' ∧ Keeps rest s'
  | production .program :: rest, s => s = .before ∧ Keeps rest .behind
  | production .alternative :: rest, s => ∃ blocks, s = .inside ⟨.branch :: blocks, 0⟩ ∧
      Keeps rest s ∧ Keeps rest (.inside ⟨.alternative :: blocks, 0⟩)
  | production p :: rest, s =>
    ∃ q, s = .inside q ∧ (inExpression p = false → q.pushed = 0) ∧ Keeps rest s
  | _ :: rest, s => s ≠ .behind ∧ Keeps rest s

section

variable {q : Pending} {rest : List Item}

theorem keeps_give {i : Instruction} (hi : i ≠ .programStart ∧ i ≠ .programEnd) (ha : q.Admits i)
    (h : Keeps rest (.inside (q.after i))) : Keeps (give i :: rest) (.inside q) :=
  ⟨_, .give hi.1 hi.2 ha, h⟩

theorem keeps_token {kind : Kind} (h : Keeps rest (.inside q)) :
    Keeps (token kind :: rest) (.inside q) :=
  ⟨by simp, h⟩

theorem keeps_enter (h : Keeps rest (.inside q)) : Keeps (enter :: rest) (.inside q) :=
  ⟨by simp, h⟩

theorem keeps_leave (h : Keeps rest (.inside q)) : Keeps (leave :: rest) (.inside q) :=
  ⟨by simp, h⟩

theorem keeps_operand {p : Production} (hp : inExpression p = true) (h : Keeps rest (.inside q)) :
    Keeps (production p :: rest) (.inside q) := by
  cases p with
  | expression | moreTerms | term | moreFactors | signed | factor =>
    exact ⟨q, rfl, by simp [inExpression], h⟩
  | program | block | statement | alternative | readTarget => cases hp

theorem keeps_block (hq : q.pushed = 0) (h : Keeps rest (.inside q)) :
    Keeps (production .block :: rest) (.inside q) :=
  ⟨q, rfl, fun _ ↦ hq, h⟩

theorem keeps_statementItems (ahead : Token) {blocks : List Frame}
    (h : Keeps rest (.inside ⟨blocks, 0⟩)) :
    Keeps (statementItems ahead ++ rest) (.inside ⟨blocks, 0⟩) := by
  unfold statementItems
  split
  · have hend (frame : Frame) (hf : frame = .branch ∨ frame = .alternative) :
        Keeps (token .blockEnd :: give .branchEnd :: leave :: rest)
          (.inside ⟨frame :: blocks, 0⟩) :=
      keeps_token (keeps_give (by simp) ⟨by simpa using hf, rfl⟩ (keeps_leave h))
    refine keeps_enter (keeps_token (keeps_operand rfl (keeps_give (by simp) rfl ?_)))
    exact keeps_block rfl ⟨blocks, rfl, hend _ (.inl rfl), hend _ (.inr rfl)⟩
  · refine keeps_enter (keeps_token (keeps_give (by simp) rfl (keeps_block rfl ?_)))
    exact keeps_token (keeps_give (by simp) ⟨rfl, rfl⟩ (keeps_leave h))
  · exact keeps_token (keeps_give (by simp) rfl h)
  · exact keeps_token (keeps_operand rfl (keeps_give (by simp) rfl h))
  · exact keeps_token ⟨_, rfl, fun _ ↦ rfl, h⟩
  · exact keeps_token (keeps_token (keeps_operand rfl (keeps_give (by simp) rfl h)))

theorem keeps_operatorTail {kind : Kind} {operation : Operation} {operand more : Production}
    (ho : inExpression operand = true) (hm : inExpression more = true)
    (h : Keeps rest (.inside q)) :
    Keeps (operatorTail kind operation operand more ++ rest) (.inside q) := by
  refine keeps_give (by simp) trivial (keeps_token (keeps_operand ho ?_))
  exact keeps_give (by simp) (Nat.succ_pos _) (keeps_operand hm h)

theorem keeps_parenthesised (h : Keeps rest (.inside q)) :
    Keeps (parenthesised ++ rest) (.inside q) :=
  keeps_enter (keeps_token (keeps_operand rfl (keeps_token (keeps_leave h))))

end

theorem keeps_expand (p : Production) (ahead : Option Token) {rest : List Item} {s : Stage}
    (h : Keeps (production p :: rest) s) : Keeps (expand p ahead ++ rest) s := by
  cases p with
  | program =>
    obtain ⟨rfl, h⟩ := h
    have hend : Keeps (sight .blockEnd :: give .programEnd :: rest) (.inside {}) :=
      ⟨by simp, _, .finish, h⟩
    exact ⟨by simp, _, .start, keeps_block rfl hend⟩
  | block =>
    obtain ⟨q, rfl, hq, h⟩ := h
    cases ahead with
    | none => exact h
    | some t =>
      simp only [expand]
      split
      · exact h
      · exact ⟨q, rfl, fun _ ↦ hq rfl, keeps_block (hq rfl) h⟩
  | statement =>
    obtain ⟨⟨blocks, pushed⟩, rfl, hq, h⟩ := h
    obtain rfl : pushed = 0 := hq rfl
    cases ahead with
    | none => exact keeps_token h
    | some t => exact keeps_statementItems t h
  | alternative =>
    obtain ⟨blocks, rfl, h, h'⟩ := h
    simp only [expand]
    split
    · exact keeps_token (keeps_give (by simp) ⟨rfl, rfl⟩ (keeps_block rfl h'))
    · exact h
  | readTarget =>
    obtain ⟨q, rfl, hq, h⟩ := h
    cases ahead with
    | none => exact keeps_token h
    | some t => exact keeps_token (keeps_give (by simp) (hq rfl) h)
  | expression | term =>
    obtain ⟨q, rfl, -, h⟩ := h
    exact keeps_operand rfl (keeps_operand rfl h)
  | moreTerms | moreFactors =>
    obtain ⟨q, rfl, -, h⟩ := h
    simp only [expand]
    split
    · exact h
    · exact keeps_operatorTail rfl rfl h
  | signed =>
    obtain ⟨q, rfl, -, h⟩ := h
    simp only [expand]
    split
    · exact keeps_token (keeps_operand rfl h)
    · exact keeps_token (keeps_operand rfl (keeps_give (by simp) trivial h))
    · exact keeps_operand rfl h
  | factor =>
    obtain ⟨q, rfl, -, h⟩ := h
    cases ahead with
    | none => exact keeps_parenthesised h
    | some t =>
      simp only [expand]
      split
      · exact keeps_token (keeps_give (by simp) trivial h)
      · exact keeps_token (keeps_give (by simp) trivial h)
      · exact keeps_parenthesised h

theorem Follows.of_runs {ending : Option LexicalError} {size depth : Nat} {items : List Item}
    {ts left : List Token} {is : List Instruction} {result : Except SourceError Unit}
    (h : Runs ending size items depth ts is left result) {s : Stage} (hs : Keeps items s) :
    ∃ s', Follows s is s' ∧ (result = .ok () ↔ s' = .behind) := by
  induction h generalizing s with
  | done => exact ⟨s, .nil, fun _ ↦ hs, fun _ ↦ rfl⟩
  | give _ ih =>
    obtain ⟨s₁, hi, hrest⟩ := hs
    obtain ⟨s', hmore, hend⟩ := ih hrest
    exact ⟨s', .cons hi hmore, hend⟩
  | enter _ _ ih | leave _ ih | sight _ ih | token _ _ ih => exact ih hs.2
  | production _ ih => exact ih (keeps_expand _ _ hs)
  | tooDeep | broken => exact ⟨s, .nil, nofun, fun he ↦ absurd he hs.1⟩
  | unmet hitem =>
    obtain rfl | rfl := hitem <;> exact ⟨s, .nil, nofun, fun he ↦ absurd he hs.1⟩

theorem exists_follows (source : String) :
    ∃ s, Follows .before (instructions source).1.toList s ∧
      ((instructions source).2 = .ok () ↔ s = .behind) := by
  obtain ⟨is, left, result, h⟩ := exists_reading source
  rw [h.instructions_eq]
  cases h with
  | refused => exact ⟨.before, .nil, by simp⟩
  | run _ _ h => exact Follows.of_runs h ⟨rfl, rfl⟩

/-- The instructions that any source text gives, whether it is accepted or refused, keep to the
discipline. They come to the end of the program if and only if the text is accepted, and then
nothing is left open. -/
theorem instructions_kept (source : String) :
    Kept (instructions source).1.toList ∧
    (.programEnd ∈ (instructions source).1.toList ↔ (instructions source).2 = .ok ()) ∧
    ((instructions source).2 = .ok () → pendingAfter (instructions source).1.toList = {}) := by
  obtain ⟨s, hs, hend⟩ := exists_follows source
  refine ⟨hs.kept, (hs.behind_iff nofun).symm.trans hend.symm, fun hok ↦ ?_⟩
  have hshows := hs.shows (show Stage.before.Shows [] from rfl)
  rw [hend.1 hok] at hshows
  exact hshows.2

end RegisterLang.Discipline
