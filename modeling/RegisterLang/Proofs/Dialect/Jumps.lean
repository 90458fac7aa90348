import RegisterLang.Proofs.Dialect.Block

namespace RegisterLang

def Op.simple? : Op → Option Simple
  | .load value => some (.load value)
  | .loadVariable name => some (.loadVariable name)
  | .store name => some (.store name)
  | .read name => some (.read name)
  | .print => some .print
  | .push => some .push
  | .apply operation => some (.apply operation)
  | .negate => some .negate
  | .jumpUnless .. | .jump _ | .halt => none

def Simple.Ready (p : Process) : Simple → Prop
  | .apply _ => p.stack ≠ []
  | _ => True

def Runtime.Pops (r : Runtime) : Prop :=
  ∀ value stack, r.pop (value :: stack) = some (value, stack)

variable {r : Runtime} {program : Program}

/-- One op in a target language. A place in a run is the index of the next op with a process. -/
inductive Steps (r : Runtime) (program : Program) : Nat × Process → Nat × Process → Prop where
  | simple {i : Nat} {op : Op} {statement : Simple} {p p' : Process}
      (at_op : program.ops[i]? = some op) (stands : op.simple? = some statement)
      (ready : statement.Ready p) (run : statement.run r p = some p') :
      Steps r program (i, p) (i + 1, p')
  | jump {i target : Nat} {p : Process} (at_op : program.ops[i]? = some (.jump target)) :
      Steps r program (i, p) (target, p)
  | jumpUnless {i target : Nat} {condition : Condition} {p : Process}
      (at_op : program.ops[i]? = some (.jumpUnless condition target)) :
      Steps r program (i, p) (if condition.holds p.register then i + 1 else target, p)

def Stops (r : Runtime) (program : Program) (x : Nat × Process) : Prop :=
  ∃ op statement, program.ops[x.1]? = some op ∧ op.simple? = some statement ∧
    statement.Ready x.2 ∧ statement.run r x.2 = none

inductive Walks (r : Runtime) (program : Program) : Nat → Nat × Process → Nat × Process → Prop where
  | refl {x : Nat × Process} : Walks r program 0 x x
  | cons {n : Nat} {x y z : Nat × Process} (step : Steps r program x y)
      (walk : Walks r program n y z) : Walks r program (n + 1) x z

theorem Steps.unique {x y z : Nat × Process} (h : Steps r program x y) (h' : Steps r program x z) :
    y = z := by
  cases h with
  | simple hop hs _ hr =>
    cases h' with
    | simple hop' hs' _ hr' =>
      cases hop.symm.trans hop'
      cases hs.symm.trans hs'
      cases hr.symm.trans hr'
      rfl
    | jump hop' | jumpUnless hop' =>
      cases hop.symm.trans hop'
      cases hs
  | jump hop =>
    cases h' with
    | simple hop' hs' =>
      cases hop.symm.trans hop'
      cases hs'
    | jump hop' =>
      cases hop.symm.trans hop'
      rfl
    | jumpUnless hop' => cases hop.symm.trans hop'
  | jumpUnless hop =>
    cases h' with
    | simple hop' hs' =>
      cases hop.symm.trans hop'
      cases hs'
    | jump hop' => cases hop.symm.trans hop'
    | jumpUnless hop' =>
      cases hop.symm.trans hop'
      rfl

theorem Stops.not_steps {x y : Nat × Process} (h : Stops r program x) : ¬ Steps r program x y := by
  obtain ⟨op, statement, hop, hs, -, hr⟩ := h
  intro h
  cases h with
  | simple hop' hs' _ hr' =>
    cases hop.symm.trans hop'
    cases hs.symm.trans hs'
    cases hr.symm.trans hr'
  | jump hop' | jumpUnless hop' =>
    cases hop.symm.trans hop'
    cases hs

def Live (program : Program) (x : Nat × Process) : Prop :=
  ∃ op, program.ops[x.1]? = some op ∧ op ≠ .halt ∧
    ∀ operation, op = .apply operation → x.2.stack ≠ []

theorem live_of_ready {i : Nat} {p : Process} {op : Op} {statement : Simple}
    (hop : program.ops[i]? = some op) (hs : op.simple? = some statement)
    (hready : statement.Ready p) : Live program (i, p) := by
  refine ⟨op, hop, ?_, ?_⟩
  · rintro rfl
    cases hs
  · rintro operation rfl
    cases hs
    exact hready

theorem Steps.live {x y : Nat × Process} (h : Steps r program x y) : Live program x := by
  cases h with
  | simple hop hs hready => exact live_of_ready hop hs hready
  | jump hop | jumpUnless hop => exact ⟨_, hop, by simp, by simp⟩

theorem Stops.live {x : Nat × Process} (h : Stops r program x) : Live program x := by
  obtain ⟨op, statement, hop, hs, hready, -⟩ := h
  exact live_of_ready hop hs hready

theorem not_live_of_halt {x : Nat × Process} (h : program.ops[x.1]? = some .halt) :
    ¬ Live program x := by
  rintro ⟨op, hop, hne, -⟩
  cases h.symm.trans hop
  exact hne rfl

namespace Walks

variable {n k : Nat} {x y z : Nat × Process}

theorem one (h : Steps r program x y) : Walks r program 1 x y := .cons h .refl

theorem trans (h : Walks r program n x y) (h' : Walks r program k y z) :
    Walks r program (n + k) x z := by
  induction h with
  | refl => simpa using h'
  | cons hs _ ih =>
    rw [Nat.add_right_comm]
    exact .cons hs (ih h')

theorem from_shorter (h : Walks r program n x y) (h' : Walks r program (n + k) x z) :
    Walks r program k y z := by
  induction h with
  | refl => simpa using h'
  | cons hs _ ih =>
    rw [Nat.add_right_comm] at h'
    cases h' with
    | cons hs' h' =>
      cases hs.unique hs'
      exact ih h'

theorem eq_of_stuck (h : Walks r program n x y) (hy : ∀ w, ¬ Steps r program y w)
    (h' : Walks r program k x z) (hz : ∀ w, ¬ Steps r program z w) : y = z := by
  obtain ⟨j, rfl⟩ | ⟨j, rfl⟩ := (Nat.le_total n k).imp Nat.exists_eq_add_of_le
    Nat.exists_eq_add_of_le
  · cases h.from_shorter h' with
    | refl => rfl
    | cons hs => exact absurd hs (hy _)
  · cases h'.from_shorter h with
    | refl => rfl
    | cons hs => exact absurd hs (hz _)

end Walks

/-- From a place on, op code does what a block does: it comes to the code behind it, and the block
goes on with what follows it; it leaves the loop around it; it stops; or it does not end within a
bound on its steps. Where it goes on, the stack is as high as before. -/
inductive Tracks (r : Runtime) (program : Program) (bound finish exit : Nat) (inLoop : Bool)
    (next : Process → Outcome Unit × Process) (x : Nat × Process) (q : Outcome Unit × Process) :
    Prop where
  | finished {n : Nat} {p : Process} (walk : Walks r program n x (finish, p))
      (stack_eq : p.stack = x.2.stack) (eq : q = next p)
  | left {n : Nat} {p : Process} (inside : inLoop = true) (walk : Walks r program n x (exit, p))
      (stack_eq : p.stack = x.2.stack) (eq : q = (.left, p))
  | stopped {n : Nat} {y : Nat × Process} (walk : Walks r program n x y)
      (stops : Stops r program y) (eq : q = (.failed (), y.2))
  | unfinished {n : Nat} {y : Nat × Process} (le : bound ≤ n) (walk : Walks r program n x y)
      (eq : q = (.unfinished, y.2))

namespace Tracks

variable {bound clock mid finish exit n : Nat} {inLoop : Bool} {x y : Nat × Process}
  {next : Process → Outcome Unit × Process} {q : Outcome Unit × Process} {p : Process}

theorem mono {bound' : Nat} (h : Tracks r program bound finish exit inLoop next x q)
    (hb : bound' ≤ bound) : Tracks r program bound' finish exit inLoop next x q := by
  cases h with
  | finished walk stack_eq eq => exact .finished walk stack_eq eq
  | left inside walk stack_eq eq => exact .left inside walk stack_eq eq
  | stopped walk stops eq => exact .stopped walk stops eq
  | unfinished le walk eq => exact .unfinished (Nat.le_trans hb le) walk eq

theorem in_loop (h : Tracks r program bound finish exit false next x q) :
    Tracks r program bound finish exit inLoop next x q := by
  cases h with
  | finished walk stack_eq eq => exact .finished walk stack_eq eq
  | left inside => cases inside
  | stopped walk stops eq => exact .stopped walk stops eq
  | unfinished le walk eq => exact .unfinished le walk eq

theorem of_walks (h : Walks r program n x y) (hst : y.2.stack = x.2.stack)
    (h' : Tracks r program bound finish exit inLoop next y q) :
    Tracks r program (n + bound) finish exit inLoop next x q := by
  cases h' with
  | finished walk stack_eq eq => exact .finished (h.trans walk) (stack_eq.trans hst) eq
  | left inside walk stack_eq eq => exact .left inside (h.trans walk) (stack_eq.trans hst) eq
  | stopped walk stops eq => exact .stopped (h.trans walk) stops eq
  | unfinished le walk eq => exact .unfinished (Nat.add_le_add_left le n) (h.trans walk) eq

theorem andThen {middle : Process → Outcome Unit × Process}
    (h : Tracks r program bound mid exit inLoop middle x q)
    (h' : ∀ p, Tracks r program bound finish exit inLoop next (mid, p) (middle p)) :
    Tracks r program bound finish exit inLoop next x q := by
  cases h with
  | finished walk stack_eq eq =>
    subst eq
    exact (of_walks walk stack_eq (h' _)).mono (Nat.le_add_left _ _)
  | left inside walk stack_eq eq => exact .left inside walk stack_eq eq
  | stopped walk stops eq => exact .stopped walk stops eq
  | unfinished le walk eq => exact .unfinished le walk eq

theorem simple {i : Nat} {op : Op} {statement : Simple} {rest : Block}
    (hop : program.ops[i]? = some op) (hs : op.simple? = some statement)
    (hready : statement.Ready p)
    (hst : ∀ p', statement.run r p = some p' → p'.stack = p.stack) :
    Tracks r program bound (i + 1) exit inLoop (rest.run r clock) (i, p)
      ((Block.simple statement rest).run r clock p) := by
  rw [Block.run]
  cases hr : statement.run r p with
  | some p' => exact .finished (.one (.simple hop hs hready hr)) (hst p' hr) rfl
  | none => exact .stopped .refl ⟨op, statement, hop, hs, hready, hr⟩ rfl

/-- The register is kept on the stack while the right operand is computed. -/
theorem push_apply (hpop : r.Pops) {i : Nat}
    {operation : Operation} {block rest : Block} (hpush : program.ops[i]? = some .push)
    (h : Tracks r program bound mid exit false
      ((Block.simple (.apply operation) rest).run r clock)
      (i + 1, { p with stack := p.register :: p.stack })
      (block.run r clock { p with stack := p.register :: p.stack }))
    (happly : program.ops[mid]? = some (.apply operation)) :
    Tracks r program bound (mid + 1) exit false (rest.run r clock) (i, p)
      ((Block.simple .push block).run r clock p) := by
  have hp : Walks r program 1 (i, p) (i + 1, { p with stack := p.register :: p.stack }) :=
    .one (.simple hpush rfl trivial rfl)
  rw [Block.run]
  change Tracks _ _ _ _ _ _ _ _ (block.run r clock { p with stack := p.register :: p.stack })
  cases h with
  | @finished n p' walk stack_eq eq =>
    rw [eq, Block.run]
    have hready : (Simple.apply operation).Ready p' := by simp [Simple.Ready, stack_eq]
    cases hr : (Simple.apply operation).run r p' with
    | none => exact .stopped (hp.trans walk) ⟨_, _, happly, rfl, hready, hr⟩ rfl
    | some p'' =>
      refine .finished ((hp.trans walk).trans (.one (.simple happly rfl hready hr))) ?_ rfl
      simp only [Simple.run, stack_eq, hpop _ _, Option.bind_eq_bind, Option.bind_some] at hr
      obtain ⟨register, -, hr⟩ := Option.bind_eq_some_iff.1 hr
      cases hr
      rfl
  | left inside => cases inside
  | stopped walk stops eq => exact .stopped (hp.trans walk) stops eq
  | unfinished le walk eq =>
    exact .unfinished (Nat.le_trans le (Nat.le_add_left _ _)) (hp.trans walk) eq

theorem inner (h : Tracks r program bound mid exit inLoop (Block.done.run r clock) x q)
    (h' : ∀ p, ∃ n, Walks r program n (mid, p) (finish, p)) (rest : Block) :
    Tracks r program bound finish exit inLoop (rest.run r clock) x
      (Outcome.andThen q (rest.run r clock)) := by
  cases h with
  | @finished n p walk stack_eq eq =>
    obtain ⟨k, hk⟩ := h' p
    exact .finished (walk.trans hk) stack_eq (by rw [eq]; rfl)
  | left inside walk stack_eq eq => exact .left inside walk stack_eq (by rw [eq]; rfl)
  | stopped walk stops eq => exact .stopped walk stops (by rw [eq]; rfl)
  | unfinished le walk eq => exact .unfinished le walk (by rw [eq]; rfl)

theorem rounds {base : Nat} {body : Block}
    (hbody : ∀ p, Tracks r program clock mid finish true (Block.done.run r clock) (base, p)
      (body.run r clock p))
    (hback : program.ops[mid]? = some (.jump base)) (n : Nat) (hn : n ≤ clock) (outer : Nat)
    (p : Process) :
    Tracks r program n finish outer false (Block.done.run r clock) (base, p)
      (Outcome.rounds (body.run r clock) n p) := by
  induction n generalizing p with
  | zero => exact .unfinished (Nat.le_refl 0) .refl rfl
  | succ n ih =>
    rw [Outcome.rounds]
    cases hbody p with
    | @finished k p' walk stack_eq eq =>
      rw [eq]
      have hround := walk.trans (.one (.jump hback))
      exact (of_walks hround stack_eq (ih (by omega) p')).mono (by omega)
    | left _ walk stack_eq eq =>
      rw [eq]
      exact .finished walk stack_eq rfl
    | stopped walk stops eq =>
      rw [eq]
      exact .stopped walk stops rfl
    | unfinished le walk eq =>
      rw [eq]
      exact .unfinished (Nat.le_trans hn le) walk rfl

end Tracks

namespace Grammar

/-- The code of a tree at an index does what the block of the tree does. A failed test enters an
alternative behind its entry, and a program ends in front of its last op. -/
def Tracked (r : Runtime) (program : Program) (clock base exit : Nat) (inLoop : Bool) :
    {q : Production} → Tree q → Prop
  | .program, t => ∀ p rest, Tracks r program clock (base + (t.size - 1)) exit inLoop
      (Block.run r clock rest) (base, p) ((t.block rest).run r clock p)
  | .alternative, t => ∀ p rest, Tracks r program clock (base + t.size) exit inLoop
      (Block.run r clock rest) (base + t.entry, p) ((t.block rest).run r clock p)
  | .block, t | .statement, t | .readTarget, t => ∀ p rest,
      Tracks r program clock (base + t.size) exit inLoop (Block.run r clock rest) (base, p)
        ((t.block rest).run r clock p)
  | _, t => ∀ p rest, Tracks r program clock (base + t.size) exit false (Block.run r clock rest)
      (base, p) ((t.block rest).run r clock p)

theorem walks_alternative {other : Tree .alternative} {base exit : Nat}
    (hc : program.Holds base (other.code base exit)) (p : Process) :
    ∃ n, Walks r program n (base, p) (base + other.size, p) := by
  cases other with
  | noAlternative => exact ⟨0, .refl⟩
  | otherwise body =>
    refine ⟨1, ?_⟩
    rw [Tree.size, ← Nat.add_assoc]
    exact .one (.jump hc.1)

theorem tracked (hpop : r.Pops) (clock : Nat)
    {q : Production} (t : Tree q) (base exit : Nat) (inLoop : Bool)
    (hc : program.Holds base (t.code base exit)) (hf : t.fault? inLoop = none) :
    Tracked r program clock base exit inLoop t := by
  induction t generalizing base exit inLoop with
  | program body ih =>
    simp only [Tree.code, Program.holds_append] at hc
    exact ih base exit inLoop hc.1 hf
  | empty | noAlternative | noTerms | noFactors => exact fun p rest ↦ .finished .refl rfl rfl
  | sequence first more ihf ihm | expression first more ihf ihm | term first more ihf ihm =>
    simp only [Tree.code, Program.holds_append, Tree.length_code] at hc
    simp only [Tree.fault?, Option.or_eq_none_iff] at hf
    intro p rest
    rw [Tree.size, ← Nat.add_assoc]
    exact (ihf base exit inLoop hc.1 hf.1 p _).andThen fun p' ↦ ihm _ exit inLoop hc.2 hf.2 p' rest
  | conditional condition test body other iht ihb iho =>
    simp only [Tree.code, Program.holds_append, Program.holds_cons, Tree.length_code] at hc
    simp only [Tree.fault?, Option.or_eq_none_iff] at hf
    obtain ⟨ht, hj, hb, ho⟩ := hc
    intro p rest
    refine (iht base exit inLoop ht hf.1 p _).in_loop.andThen fun p' ↦ ?_
    rw [Tree.size, ← Nat.add_assoc, ← Nat.add_assoc, ← Nat.add_assoc, Block.run]
    have hstep : Walks r program 1 (base + test.size, p') _ := .one (.jumpUnless hj)
    by_cases hx : condition.holds p'.register
    · rw [if_pos hx] at hstep
      rw [if_pos ((condition.holds_iff_sign _).1 hx)]
      have hbody := (ihb _ exit inLoop hb hf.2.1 p' .done).inner (walks_alternative ho) rest
      exact (Tracks.of_walks hstep rfl hbody).mono (Nat.le_add_left _ _)
    · rw [if_neg hx] at hstep
      rw [if_neg (mt (condition.holds_iff_sign _).2 hx)]
      have hother := (iho _ exit inLoop ho hf.2.2 p' .done).inner (fun p'' ↦ ⟨0, .refl⟩) rest
      exact (Tracks.of_walks hstep rfl hother).mono (Nat.le_add_left _ _)
  | loop body ih =>
    simp only [Tree.code, Program.holds_append, Program.holds_cons, Tree.length_code] at hc
    intro p rest
    have hrounds := Tracks.rounds (fun p' ↦ ih base _ true hc.1 hf p' .done) hc.2.1 clock
      (Nat.le_refl _) exit p
    exact hrounds.in_loop.inner (fun p' ↦ ⟨0, .refl⟩) rest
  | leave =>
    intro p rest
    cases inLoop with
    | false => cases hf
    | true => exact .left rfl (.one (.jump hc.1)) rfl rfl
  | print value ih | assign _ value ih =>
    simp only [Tree.code, Program.holds_append, Program.holds_cons, Tree.length_code] at hc
    intro p rest
    refine (ih base exit inLoop hc.1 hf p _).in_loop.andThen fun p' ↦ ?_
    exact .simple hc.2.1 rfl trivial fun _ h ↦ by cases h; rfl
  | read into ih => exact ih base exit inLoop hc (by cases into; rfl)
  | otherwise body ih =>
    intro p rest
    rw [Tree.size, ← Nat.add_assoc]
    exact ih (base + 1) exit inLoop hc.2 hf p rest
  | target name | integer text | identifier name =>
    exact fun p rest ↦ .simple hc.1 rfl trivial fun _ h ↦ by cases h; rfl
  | moreTerms operation _ next more ihn ihm | moreFactors operation _ next more ihn ihm =>
    simp only [Tree.code, Program.holds_append, Program.holds_cons, Tree.length_code] at hc
    simp only [Tree.fault?, Option.or_eq_none_iff] at hf
    obtain ⟨hp, hn, ha, hm⟩ := hc
    intro p rest
    rw [Tree.size, ← Nat.add_assoc, ← Nat.add_assoc, ← Nat.add_assoc]
    exact (Tracks.push_apply hpop hp (ihn _ exit inLoop hn hf.1 _ _) ha).andThen
      fun p' ↦ ihm _ exit inLoop hm hf.2 p' rest
  | unsigned factor ih | plus factor ih | group factor ih => exact ih base exit inLoop hc hf
  | minus factor ih =>
    simp only [Tree.code, Program.holds_append, Program.holds_cons, Tree.length_code] at hc
    intro p rest
    refine (ih base exit inLoop hc.1 hf p _).andThen fun p' ↦ ?_
    exact .simple hc.2.1 rfl trivial fun _ h ↦ by cases h; rfl

end Grammar

end RegisterLang
