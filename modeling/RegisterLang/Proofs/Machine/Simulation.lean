import RegisterLang.Proofs.Bytecode.Assembly
import RegisterLang.Proofs.Machine.Run

namespace RegisterLang

open Machine

variable {p : Program}

/-- From a machine on, an expression ends at an index with its value in the register and all else as
it was, or it fails. -/
def Evaluates (p : Program) (m : Machine) (finish : Nat) : Except RuntimeFault Int64 → Prop
  | .ok value => ∃ n, Reaches p n m { m with position := finish, register := value }
  | .error fault => Fails p m (.runtime fault) m.view

namespace Evaluates

variable {m : Machine} {mid finish : Nat} {value : Except RuntimeFault Int64}

theorem bind {next : Int64 → Except RuntimeFault Int64} (h : Evaluates p m mid value)
    (h' : ∀ x, Evaluates p { m with position := mid, register := x } finish (next x)) :
    Evaluates p m finish (value >>= next) := by
  cases value with
  | error fault => exact h
  | ok x =>
    obtain ⟨n, hn⟩ := h
    have hx := h' x
    change Evaluates p m finish (next x)
    generalize next x = r at hx
    cases r with
    | ok y =>
      obtain ⟨k, hk⟩ := hx
      exact ⟨n + k, hn.trans hk⟩
    | error fault => exact hn.then_fails hx

theorem push_apply {operation : Operation} (hpush : p.ops[m.position]? = some .push)
    (h : Evaluates p { m with position := m.position + 1, stack := m.register :: m.stack } mid
      value)
    (happly : p.ops[mid]? = some (.apply operation)) :
    Evaluates p m (mid + 1) (value >>= operation.apply m.register) := by
  have hp : Reaches p 1 m { m with position := m.position + 1, stack := m.register :: m.stack } :=
    .one hpush rfl
  cases value with
  | error fault => exact hp.then_fails h
  | ok x =>
    obtain ⟨n, hn⟩ := h
    change Evaluates p m (mid + 1) (operation.apply m.register x)
    cases hr : operation.apply m.register x with
    | ok y =>
      refine ⟨1 + n + 1, (hp.trans hn).trans (.one happly ?_)⟩
      simp [runOp, hr]
    | error fault =>
      have hs : step p ⟨mid, x, m.register :: m.stack, m.storage, m.input, m.output⟩ =
          (.error (.runtime fault), { m with position := mid + 1, register := x }) := by
        rw [step_eq happly]
        simp [runOp, hr]
      exact (hp.trans hn).then_fails (.of_step hs rfl)

end Evaluates

structure Shows (m : Machine) (position : Nat) (s : Scene) : Prop where
  at_position : m.position = position
  healthy : m.Healthy
  view_eq : m.view = s

/-- From a machine on, a statement ends as it should: in front of the code behind it, in front of
the code behind the loop around it, with a fault, or not within as many steps as the clock says. -/
def Reflects (p : Program) (m : Machine) (finish exit clock : Nat) :
    Outcome Machine.Fault × Scene → Prop
  | (.finished, s) => ∃ n m', Reaches p n m m' ∧ Shows m' finish s
  | (.left, s) => ∃ n m', Reaches p n m m' ∧ Shows m' exit s
  | (.failed fault, s) => Fails p m fault s
  | (.unfinished, s) => ∃ n m', clock ≤ n ∧ Reaches p n m m' ∧ m'.view = s

namespace Reflects

variable {m m' : Machine} {n finish mid exit clock : Nat} {s : Scene}
  {r : Outcome Machine.Fault × Scene}

theorem mono {clock' : Nat} (h : Reflects p m finish exit clock r) (hc : clock' ≤ clock) :
    Reflects p m finish exit clock' r := by
  obtain ⟨outcome, s⟩ := r
  cases outcome with
  | finished | left | failed => exact h
  | unfinished =>
    obtain ⟨k, m₁, hk, h⟩ := h
    exact ⟨k, m₁, Nat.le_trans hc hk, h⟩

theorem of_reaches (h : Reaches p n m m') (h' : Reflects p m' finish exit clock r) :
    Reflects p m finish exit (n + clock) r := by
  obtain ⟨outcome, s⟩ := r
  cases outcome with
  | finished | left =>
    obtain ⟨k, m₁, hk, hs⟩ := h'
    exact ⟨n + k, m₁, h.trans hk, hs⟩
  | failed fault => exact h.then_fails h'
  | unfinished =>
    obtain ⟨k, m₁, hc, hk, hs⟩ := h'
    exact ⟨n + k, m₁, by omega, h.trans hk, hs⟩

theorem andThen {next : Scene → Outcome Machine.Fault × Scene}
    (h : Reflects p m mid exit clock r)
    (h' : ∀ m' s', Shows m' mid s' → Reflects p m' finish exit clock (next s')) :
    Reflects p m finish exit clock (Outcome.andThen r next) := by
  obtain ⟨outcome, s⟩ := r
  cases outcome with
  | finished =>
    obtain ⟨n, m', hn, hs⟩ := h
    exact (of_reaches hn (h' m' s hs)).mono (by omega)
  | left | failed | unfinished => exact h

theorem then_reaches (h : Reflects p m mid exit clock r)
    (h' : ∀ m' s', Shows m' mid s' → ∃ n m'', Reaches p n m' m'' ∧ Shows m'' finish s') :
    Reflects p m finish exit clock r := by
  obtain ⟨outcome, s⟩ := r
  cases outcome with
  | finished =>
    obtain ⟨n, m', hn, hs⟩ := h
    obtain ⟨k, m'', hk, hs'⟩ := h' m' s hs
    exact ⟨n + k, m'', hn.trans hk, hs'⟩
  | left | failed | unfinished => exact h

theorem given {value : Except RuntimeFault Int64} {next : Int64 → Outcome Machine.Fault × Scene}
    (h : Evaluates p m mid value) (hv : m.view = s)
    (h' : ∀ x, Reflects p { m with position := mid, register := x } finish exit clock (next x)) :
    Reflects p m finish exit clock (s.given value next) := by
  cases value with
  | ok x =>
    obtain ⟨n, hn⟩ := h
    exact (of_reaches hn (h' x)).mono (by omega)
  | error fault => exact hv ▸ h

theorem rounds {base outer : Nat} {body : Scene → Outcome Machine.Fault × Scene}
    (hbody : ∀ m s, Shows m base s → Reflects p m mid finish clock (body s))
    (hback : p.ops[mid]? = some (.jump base)) (n : Nat) (hn : n ≤ clock) (hs : Shows m base s) :
    Reflects p m finish outer n (Outcome.rounds body n s) := by
  induction n generalizing m s with
  | zero => exact ⟨0, m, Nat.le_refl 0, .refl, hs.view_eq⟩
  | succ n ih =>
    have h := hbody m s hs
    rw [Outcome.rounds]
    generalize body s = r at h
    obtain ⟨outcome, s'⟩ := r
    cases outcome with
    | finished =>
      obtain ⟨k, m₁, hk, hm₁⟩ := h
      have hj := Reaches.jump (hm₁.at_position ▸ hback)
      have hr := ih (by omega) ⟨(rfl : ({ m₁ with position := base } : Machine).position = base),
        hm₁.healthy, hm₁.view_eq⟩
      exact (of_reaches (hk.trans hj) hr).mono (by omega)
    | left => exact h
    | failed fault => exact h
    | unfinished =>
      obtain ⟨k, m₁, hc, hk, hv⟩ := h
      exact ⟨k, m₁, by omega, hk, hv⟩

end Reflects

namespace Grammar

/-- The machine runs the code of a tree at an index as the tree means it. A failed test enters an
alternative behind its entry, and a program ends in front of its last op. -/
def Simulates (p : Program) (base exit : Nat) : {q : Production} → Tree q → Prop
  | .expression, t | .term, t | .signed, t | .factor, t => ∀ m, m.position = base →
      Evaluates p m (base + t.size) (t.meaning m.storage.get)
  | .moreTerms, t | .moreFactors, t => ∀ m, m.position = base →
      Evaluates p m (base + t.size) (t.meaning m.storage.get m.register)
  | .alternative, t => ∀ m clock s, Shows m (base + t.entry) s →
      Reflects p m (base + t.size) exit clock (t.meaning clock s)
  | .block, t | .statement, t | .readTarget, t => ∀ m clock s, Shows m base s →
      Reflects p m (base + t.size) exit clock (t.meaning clock s)
  | .program, t => ∀ m clock s, Shows m base s →
      Reflects p m (base + (t.size - 1)) exit clock (t.meaning clock s)

variable {m : Machine} {base exit : Nat} {s : Scene}

theorem view_set (m : Machine) (name : String) (value : Int64) :
    ({ m with storage := m.storage.set name value } : Machine).view = m.view.set name value := by
  simp only [view, Scene.set, Scene.mk.injEq, and_true]
  exact funext fun other ↦ m.storage.get_set name other value

theorem skip_alternative {other : Tree .alternative} (hc : p.Holds base (other.code base exit))
    (hs : Shows m base s) : ∃ n m', Reaches p n m m' ∧ Shows m' (base + other.size) s := by
  cases other with
  | noAlternative => exact ⟨0, m, .refl, hs⟩
  | otherwise body =>
    obtain ⟨rfl, hh, rfl⟩ := hs
    exact ⟨1, _, .jump hc.1, by simp [Tree.size, Nat.add_assoc], hh, rfl⟩

theorem simulates {q : Production} (t : Tree q) (base exit : Nat)
    (hc : p.Holds base (t.code base exit)) : Simulates p base exit t := by
  induction t generalizing base exit with
  | program body ih =>
    simp only [Tree.code, Program.holds_append] at hc
    exact ih base exit hc.1
  | empty | noAlternative =>
    intro m clock s hs
    exact ⟨0, m, .refl, hs⟩
  | sequence first rest ihf ihr =>
    simp only [Tree.code, Program.holds_append, Tree.length_code] at hc
    intro m clock s hs
    have hr := ihr _ exit hc.2
    rw [Tree.size, ← Nat.add_assoc]
    exact (ihf base exit hc.1 m clock s hs).andThen fun m' s' hs' ↦ hr m' clock s' hs'
  | conditional condition test body other iht ihb iho =>
    simp only [Tree.code, Program.holds_append, Program.holds_cons, Tree.length_code] at hc
    obtain ⟨ht, hj, hb, ho⟩ := hc
    rintro m clock s ⟨rfl, hh, rfl⟩
    refine .given (iht _ exit ht m rfl) rfl fun x ↦ ?_
    rw [Tree.size, ← Nat.add_assoc, ← Nat.add_assoc, ← Nat.add_assoc]
    by_cases hx : condition.holds x
    · have hstep : Reaches p 1 { m with position := m.position + test.size, register := x }
          { m with position := m.position + test.size + 1, register := x } :=
        .one hj (by rw [runOp, if_pos hx])
      rw [if_pos ((condition.holds_iff_sign x).1 hx)]
      refine (Reflects.of_reaches hstep ?_).mono (Nat.le_add_left clock 1)
      exact .then_reaches (ihb _ exit hb _ clock _ ⟨rfl, hh, rfl⟩) fun _ _ ↦ skip_alternative ho
    · have hstep : Reaches p 1 { m with position := m.position + test.size, register := x }
          { m with
            position := m.position + test.size + 1 + body.size + other.entry, register := x } :=
        .one hj (by rw [runOp, if_neg hx])
      rw [if_neg (mt (condition.holds_iff_sign x).2 hx)]
      refine (Reflects.of_reaches hstep ?_).mono (Nat.le_add_left clock 1)
      exact iho _ exit ho _ clock _ ⟨rfl, hh, rfl⟩
  | loop body ih =>
    simp only [Tree.code, Program.holds_append, Program.holds_cons, Tree.length_code] at hc
    intro m clock s hs
    exact .rounds (fun m s h ↦ ih base _ hc.1 m clock s h) hc.2.1 clock (Nat.le_refl _) hs
  | leave =>
    rintro m clock s ⟨rfl, hh, rfl⟩
    exact ⟨1, _, .jump hc.1, rfl, hh, rfl⟩
  | print value ih =>
    simp only [Tree.code, Program.holds_append, Program.holds_cons, Tree.length_code] at hc
    rintro m clock s ⟨rfl, hh, rfl⟩
    refine .given (ih _ exit hc.1 m rfl) rfl fun x ↦ ?_
    have hw : runOp { m with position := m.position + value.size + 1, register := x } .print =
        (.ok .running, { m with
          position := m.position + value.size + 1, register := x,
          output.text := m.output.text ++ (Decimal.writeInt64 x ++ "\n") }) := by
      simp [runOp, Sink.write, hh.1]
    exact ⟨1, _, .one hc.2.1 hw, rfl, hh, rfl⟩
  | read into ih => exact ih base exit hc
  | assign name value ih =>
    simp only [Tree.code, Program.holds_append, Program.holds_cons, Tree.length_code] at hc
    rintro m clock s ⟨rfl, hh, rfl⟩
    refine .given (ih _ exit hc.1 m rfl) rfl fun x ↦ ?_
    exact ⟨1, _, .one hc.2.1 rfl, rfl, hh, view_set m name x⟩
  | otherwise body ih =>
    intro m clock s hs
    rw [Tree.size, ← Nat.add_assoc]
    exact ih (base + 1) exit hc.2 m clock s hs
  | target name =>
    rintro m clock s ⟨rfl, hh, rfl⟩
    change Reflects p m (m.position + 1) exit clock (m.view.read name)
    rcases hl : readLine m.input with ⟨_ | line, input⟩
    · have hr : m.view.read name = (.failed (.system .invalidText), { m.view with input }) := by
        simp [Scene.read, view, hl]
      have hs : step p m =
          (.error (.system .invalidText), { m with position := m.position + 1, input }) := by
        rw [step_eq hc.1]
        simp [runOp, readInteger, hl]
      rw [hr]
      exact .of_step hs rfl
    · have hr : m.view.read name =
          (.finished, { m.view with input }.set name (integerOf line)) := by
        simp [Scene.read, view, hl]
      have hrun : runOp { m with position := m.position + 1 } (.read name) =
          (.ok .running, { m with
            position := m.position + 1, input,
            storage := m.storage.set name (integerOf line) }) := by
        simp [runOp, readInteger, hl]
      rw [hr]
      exact ⟨1, _, .one hc.1 hrun, rfl, hh, view_set { m with input } name _⟩
  | expression first rest ihf ihr | term first rest ihf ihr =>
    simp only [Tree.code, Program.holds_append, Tree.length_code] at hc
    intro m hm
    have hr := ihr _ exit hc.2
    rw [Tree.size, ← Nat.add_assoc]
    exact (ihf base exit hc.1 m hm).bind fun x ↦ hr _ rfl
  | noTerms | noFactors =>
    rintro m rfl
    exact ⟨0, .refl⟩
  | moreTerms operation _ next rest ihn ihr | moreFactors operation _ next rest ihn ihr =>
    simp only [Tree.code, Program.holds_append, Program.holds_cons, Tree.length_code] at hc
    obtain ⟨hp, hn, ha, hr⟩ := hc
    rintro m rfl
    have hv := Evaluates.push_apply hp (ihn _ exit hn _ rfl) ha
    have h := hv.bind fun x ↦ ihr _ exit hr _ rfl
    rw [Tree.size, ← Nat.add_assoc, ← Nat.add_assoc, ← Nat.add_assoc]
    simpa [Tree.meaning] using h
  | unsigned factor ih | plus factor ih | group factor ih => exact ih base exit hc
  | minus factor ih =>
    simp only [Tree.code, Program.holds_append, Program.holds_cons, Tree.length_code] at hc
    intro m hm
    exact (ih base exit hc.1 m hm).bind fun x ↦ ⟨1, .one hc.2.1 rfl⟩
  | integer text | identifier name =>
    rintro m rfl
    exact ⟨1, .one hc.1 rfl⟩

theorem rounds_ne_left {σ : Type} {body : σ → Outcome Machine.Fault × σ} (n : Nat) (s : σ) :
    (Outcome.rounds body n s).1 ≠ .left := by
  induction n generalizing s with
  | zero => simp [Outcome.rounds]
  | succ n ih =>
    rw [Outcome.rounds]
    obtain ⟨outcome, s'⟩ := body s
    cases outcome with
    | finished => exact ih s'
    | left | failed | unfinished => simp

theorem andThen_ne_left {r : Outcome Machine.Fault × Scene}
    {next : Scene → Outcome Machine.Fault × Scene} (h : r.1 ≠ .left)
    (h' : ∀ s, (next s).1 ≠ .left) : (Outcome.andThen r next).1 ≠ .left := by
  obtain ⟨outcome, s⟩ := r
  cases outcome with
  | finished => exact h' s
  | left | failed | unfinished => exact h

theorem given_ne_left {next : Int64 → Outcome Machine.Fault × Scene} (h : ∀ x, (next x).1 ≠ .left)
    (value : Except RuntimeFault Int64) : (s.given value next).1 ≠ .left := by
  cases value with
  | ok x => exact h x
  | error fault => simp [Scene.given]

def Stays : {q : Production} → Tree q → Prop
  | .expression, _ | .term, _ | .signed, _ | .factor, _ | .moreTerms, _ | .moreFactors, _ => True
  | .program, t | .block, t | .statement, t | .alternative, t | .readTarget, t =>
    ∀ clock s, (t.meaning clock s).1 ≠ .left

theorem stays {q : Production} (t : Tree q) (h : t.fault? false = none) : Stays t := by
  induction t with
  | program body ih | otherwise body ih => exact ih h
  | read into ih => exact ih (by cases into; rfl)
  | empty | noAlternative => exact fun clock s ↦ by simp [Tree.meaning]
  | sequence first rest ihf ihr =>
    simp only [Tree.fault?, Option.or_eq_none_iff] at h
    intro clock s
    exact andThen_ne_left (ihf h.1 clock s) fun s' ↦ ihr h.2 clock s'
  | conditional condition test body other iht ihb iho =>
    simp only [Tree.fault?, Option.or_eq_none_iff] at h
    refine fun clock s ↦ given_ne_left (fun x ↦ ?_) _
    split
    · exact ihb h.2.1 clock s
    · exact iho h.2.2 clock s
  | loop body ih => exact fun clock s ↦ rounds_ne_left clock s
  | leave => cases h
  | print value ih | assign name value ih =>
    exact fun clock s ↦ given_ne_left (fun x h ↦ by cases h) _
  | target name =>
    intro clock s
    simp only [Tree.meaning, Scene.read]
    split <;> simp
  | expression | term | noTerms | noFactors | moreTerms | moreFactors => trivial
  | unsigned | plus | minus | integer | identifier | group => trivial

theorem execute_of_meaning {tree : Tree .program} (hc : p.Holds 0 (tree.code 0 Op.pending))
    (hf : tree.fault? false = none) (hm : m.Healthy) {clock : Nat} {outcome : Outcome Machine.Fault}
    (h : tree.meaning clock m.reset.view = (outcome, s)) :
    (∃ result fuel m', outcome.result? = some result ∧
      execute p none fuel m = some (result, m') ∧ m'.view = s) ∨
    outcome = .unfinished ∧ ∃ n m', clock ≤ n ∧ Reaches p n m.reset m' ∧ m'.view = s := by
  have hl : outcome ≠ .left := by simpa [h] using stays tree hf clock m.reset.view
  have hr := simulates tree 0 Op.pending hc m.reset clock _ ⟨rfl, hm, rfl⟩
  rw [h] at hr
  cases outcome with
  | finished =>
    obtain ⟨n, m', hn, hat, hh, hv⟩ := hr
    have hhalt : p.ops[m'.position]? = some .halt := by
      cases tree
      simp only [Tree.code, Program.holds_append, Program.holds_cons, Tree.length_code] at hc
      exact hat ▸ hc.2.1
    refine .inl ⟨.ok (), n + 1, { m' with position := m'.position + 1 }, rfl, ?_, hv⟩
    rw [execute, Option.getD_none, continueTo_of_reaches hn, continueTo_of_halted (step_eq hhalt)]
    simp [settle, Sink.flush, hh.2]
  | left => contradiction
  | failed fault =>
    obtain ⟨n, m₁, m', hn, hs, hv⟩ := hr
    refine .inl ⟨_, n + 1, m', rfl, ?_, hv⟩
    rw [execute, Option.getD_none, continueTo_of_reaches hn, continueTo_of_failed hs]
  | unfinished => exact .inr ⟨rfl, hr⟩

theorem execute_iff_ends {tree : Tree .program} (hc : p.Holds 0 (tree.code 0 Op.pending))
    (hf : tree.fault? false = none) (hm : m.Healthy) (result : Except Machine.Fault Unit) :
    (∃ fuel m', execute p none fuel m = some (result, m') ∧ m'.view = s) ↔
      tree.Ends m.reset.view result s := by
  constructor
  · rintro ⟨fuel, m', hx, rfl⟩
    rcases he : tree.meaning fuel m.reset.view with ⟨outcome, s⟩
    refine ⟨fuel, outcome, ?_⟩
    obtain ⟨r, fuel', m'', hr, hx', rfl⟩ | ⟨-, n, m'', hn, hreach, -⟩ :=
      execute_of_meaning hc hf hm he
    · have h := continueTo_mono hx (Nat.le_max_left fuel fuel')
      rw [continueTo_mono hx' (Nat.le_max_right fuel fuel')] at h
      cases h
      exact ⟨he, hr⟩
    · rw [execute, Option.getD_none, continueTo_of_running hreach hn] at hx
      cases hx
  · rintro ⟨clock, outcome, he, hr⟩
    obtain ⟨r, fuel, m', hr', hx, hv⟩ | ⟨rfl, -⟩ := execute_of_meaning hc hf hm he
    · cases hr.symm.trans hr'
      exact ⟨fuel, m', hx, hv⟩
    · cases hr

/-- Op code does what its source text means. The text has a tree, and from any machine whose output
takes what is written, the program ends with a result, leaving variables, input and output behind,
if and only if the tree does. -/
theorem execute_assemble_iff_ends (source : String) (program : Program)
    (h : assemble source = .ok program) :
    (∃ tree, IsTreeOf tree source) ∧
    ∀ tree : Tree .program, IsTreeOf tree source →
      ∀ m : Machine, m.output.writeFault = none → m.output.flushFault = none →
        ∀ (result : Except Machine.Fault Unit) (scene : Scene),
          (∃ fuel m', execute program none fuel m = some (result, m') ∧ m'.view = scene) ↔
            tree.Ends ⟨fun _ ↦ 0, m.input, m.output.text⟩ result scene := by
  obtain ⟨tree, ht, hf, rfl⟩ := assemble_eq_ok_iff.1 h
  refine ⟨⟨tree, ht⟩, fun other ho m hw hfl result scene ↦ ?_⟩
  rw [words_prefix_unique ho.derives ht.derives]
  exact execute_iff_ends (Program.holds_all _) hf ⟨hw, hfl⟩ result

def countdown : Tree .program :=
  .program (.sequence (.read (.target "n")) (.sequence (.loop
    (.sequence (.conditional .zero (.expression (.term (.unsigned (.identifier "n")) .noFactors)
      .noTerms) (.sequence .leave .empty) .noAlternative)
    (.sequence (.print (.expression (.term (.unsigned (.integer "7"))
      (.moreFactors .divide rfl (.identifier "n") .noFactors)) .noTerms))
    (.sequence (.assign "n" (.expression (.term (.unsigned (.identifier "n")) .noFactors)
      (.moreTerms .subtract rfl (.term (.unsigned (.integer "1")) .noFactors) .noTerms)))
    .empty)))) .empty))

theorem execute_assemble_iff_ends_countdown :
    assemble "BEGIN READ n LOOP IFZ n BREAK END PRINT 7 / n n = n - 1 END END" =
      .ok ⟨(countdown.code 0 Op.pending).toArray⟩ ∧
    ∃ fuel m', execute ⟨(countdown.code 0 Op.pending).toArray⟩ none fuel { input := [50, 10, 51] } =
      some (.ok (), m') ∧ m'.view.output = "3\n7\n" ∧ m'.view.input = [51] := by
  have ht : IsTreeOf countdown "BEGIN READ n LOOP IFZ n BREAK END PRINT 7 / n n = n - 1 END END" :=
    ⟨by decide +kernel, by decide⟩
  have hok := assemble_eq_ok_iff.2 ⟨countdown, ht, by decide +kernel, rfl⟩
  have h := ((execute_assemble_iff_ends _ _ hok).2 countdown ht { input := [50, 10, 51] } rfl rfl
    (.ok ()) _).2 ⟨3, .finished, Prod.ext (by decide +kernel) rfl, rfl⟩
  obtain ⟨fuel, m', hx, hv⟩ := h
  refine ⟨hok, fuel, m', hx, ?_, ?_⟩ <;> rw [hv] <;> decide +kernel

end Grammar

end RegisterLang
