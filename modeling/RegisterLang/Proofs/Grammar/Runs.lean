import RegisterLang.Proofs.Grammar.Soundness
import RegisterLang.Toolchain

namespace RegisterLang

def Dialect.texts (d : Dialect) : Nat → List Instruction → List String
  | _, [] => []
  | depth, i :: is => (d.write depth i).1 :: d.texts (d.write depth i).2 is

theorem Draft.text_foldl_give (d : Dialect) (is : List Instruction) (draft : Draft) :
    (is.foldl (Draft.give d) draft).text =
      draft.text ++ String.join (d.texts draft.depth is) := by
  induction is generalizing draft with
  | nil => simp [Dialect.texts]
  | cons i is ih =>
    rw [List.foldl_cons, ih, Dialect.texts, String.join_cons, ← String.append_assoc]
    rfl

namespace Grammar

def frontOf (size : Nat) (ts : List Token) : Span := ((ts.head?.map Token.span).getD ⟨size, 0⟩)

/-- A run along a list of items, on a text that ends in a certain way and has a certain size. It
starts at a depth and in front of some tokens; it gives instructions, leaves tokens and has a
result. There is one constructor for each thing that the driver can do next. -/
inductive Runs (ending : Option LexicalError) (size : Nat) : List Item → Nat → List Token →
    List Instruction → List Token → Except SourceError Unit → Prop where
  | done {depth : Nat} {ts : List Token} : Runs ending size [] depth ts [] ts (.ok ())
  | give {i : Instruction} {items : List Item} {depth : Nat} {ts left : List Token}
      {is : List Instruction} {result : Except SourceError Unit} :
      Runs ending size items depth ts is left result →
      Runs ending size (.give i :: items) depth ts (i :: is) left result
  | enter {items : List Item} {depth : Nat} {ts left : List Token} {is : List Instruction}
      {result : Except SourceError Unit} : depth + 1 ≤ nestingLimit →
      Runs ending size items (depth + 1) ts is left result →
      Runs ending size (.enter :: items) depth ts is left result
  | tooDeep {items : List Item} {depth : Nat} {ts : List Token} : nestingLimit < depth + 1 →
      Runs ending size (.enter :: items) depth ts [] ts
        (.error (.nesting nestingLimit (frontOf size ts)))
  | leave {items : List Item} {depth : Nat} {ts left : List Token} {is : List Instruction}
      {result : Except SourceError Unit} : Runs ending size items (depth - 1) ts is left result →
      Runs ending size (.leave :: items) depth ts is left result
  | sight {t : Token} {items : List Item} {depth : Nat} {ts left : List Token}
      {is : List Instruction} {result : Except SourceError Unit} :
      Runs ending size items depth (t :: ts) is left result →
      Runs ending size (.sight t.kind :: items) depth (t :: ts) is left result
  | token {t : Token} {items : List Item} {depth : Nat} {ts left : List Token}
      {is : List Instruction} {result : Except SourceError Unit} : (ts = [] → ending = none) →
      Runs ending size items depth ts is left result →
      Runs ending size (.token t.kind :: items) depth (t :: ts) is left result
  | broken {t : Token} {items : List Item} {depth : Nat} {e : LexicalError} : ending = some e →
      Runs ending size (.token t.kind :: items) depth [t] [] [] (.error (.lexical e))
  | unmet {item : Item} {kind : Kind} {items : List Item} {depth : Nat} {ts : List Token} :
      item = .token kind ∨ item = .sight kind → ts.head?.map Token.kind ≠ some kind →
      Runs ending size (item :: items) depth ts [] ts
        (.error (.mismatch ⟨kind, ts.head?, frontOf size ts⟩))
  | production {p : Production} {items : List Item} {depth : Nat} {ts left : List Token}
      {is : List Instruction} {result : Except SourceError Unit} :
      Runs ending size (expand p ts.head? ++ items) depth ts is left result →
      Runs ending size (.production p :: items) depth ts is left result

theorem span_eq_frontOf {σ : Type} (s : Progress σ) : s.span = frontOf s.size s.tokens := by
  unfold Progress.span frontOf
  cases s.tokens <;> rfl

variable {ending : Option LexicalError} {size depth : Nat} {items : List Item}
variable {ts left : List Token} {is : List Instruction} {result : Except SourceError Unit}

theorem exists_runs (items : List Item) (s : Progress Unit) :
    ∃ is left result, Runs s.ending s.size items s.depth s.tokens is left result := by
  fun_induction drive (fun (_ : Unit) (_ : Instruction) ↦ ()) items s with
  | case1 s => exact ⟨_, _, _, .done⟩
  | case2 i rest s ih =>
    obtain ⟨is, left, result, h⟩ := ih
    exact ⟨_, _, _, .give h⟩
  | case3 rest s hn => exact ⟨_, _, _, .tooDeep hn⟩
  | case4 rest s hn ih =>
    obtain ⟨is, left, result, h⟩ := ih
    exact ⟨_, _, _, .enter (Nat.not_lt.1 hn) h⟩
  | case5 rest s ih =>
    obtain ⟨is, left, result, h⟩ := ih
    exact ⟨_, _, _, .leave h⟩
  | case6 kind rest s hk ih =>
    obtain ⟨is, left, result, h⟩ := ih
    obtain ⟨t, ht, rfl⟩ := Option.map_eq_some_iff.1 hk
    obtain ⟨ts, hts⟩ := List.head?_eq_some_iff.1 ht
    rw [hts] at h ⊢
    exact ⟨_, _, _, .sight h⟩
  | case7 kind rest s hk => exact ⟨_, _, _, .unmet (.inr rfl) hk⟩
  | case8 kind rest s hs => exact ⟨_, _, _, .unmet (.inl rfl) (by simp [hs])⟩
  | case9 rest s t tokens hs e he hend =>
    obtain rfl := List.isEmpty_iff.1 hend
    rw [hs]
    exact ⟨_, _, _, .broken he⟩
  | case10 rest s t tokens hs hend ih =>
    obtain ⟨is, left, result, h⟩ := ih
    rw [hs]
    refine ⟨_, _, _, .token (fun hn ↦ ?_) h⟩
    exact Option.eq_none_iff_forall_ne_some.2 fun e ↦ hend e (List.isEmpty_iff.2 hn)
  | case11 kind rest s t tokens hs hk => exact ⟨_, _, _, .unmet (.inl rfl) (by simpa [hs] using hk)⟩
  | case12 p rest s ih =>
    obtain ⟨is, left, result, h⟩ := ih
    exact ⟨_, _, _, .production h⟩

theorem drive_taken {σ : Type} {give : σ → Instruction → σ} {b : σ} {t : Token}
    (h : ts = [] → ending = none) :
    drive give (.token t.kind :: items) ⟨t :: ts, ending, size, depth, b⟩ =
      drive give items ⟨ts, ending, size, depth, b⟩ := by
  rw [drive]
  cases ts with
  | nil => simp [h rfl]
  | cons t' ts => simp

theorem drive_unmet {σ : Type} {give : σ → Instruction → σ} {b : σ} {item : Item} {kind : Kind}
    (hitem : item = .token kind ∨ item = .sight kind) (hk : ts.head?.map Token.kind ≠ some kind) :
    drive give (item :: items) ⟨ts, ending, size, depth, b⟩ =
      (⟨ts, ending, size, depth, b⟩, .error (.mismatch ⟨kind, ts.head?, frontOf size ts⟩)) := by
  obtain rfl | rfl := hitem
  · rw [drive]
    cases ts with
    | nil => simp [Progress.mismatch, span_eq_frontOf]
    | cons t ts =>
      have ht : t.kind ≠ kind := by simpa using hk
      simp [ht, Progress.mismatch, span_eq_frontOf]
  · rw [drive, if_neg hk, Progress.mismatch, span_eq_frontOf]

theorem Runs.drive_eq (h : Runs ending size items depth ts is left result) {σ : Type}
    (give : σ → Instruction → σ) (b : σ) :
    ∃ depth', drive give items ⟨ts, ending, size, depth, b⟩ =
      (⟨left, ending, size, depth', is.foldl give b⟩, result) := by
  induction h generalizing b with
  | done => exact ⟨_, by rw [drive]; rfl⟩
  | give _ ih =>
    rw [drive]
    exact ih _
  | enter hd _ ih =>
    rw [drive, if_neg (Nat.not_lt.2 hd)]
    exact ih b
  | tooDeep hd => exact ⟨_, by rw [drive, if_pos hd, span_eq_frontOf]; rfl⟩
  | leave _ ih | production _ ih =>
    rw [drive]
    exact ih b
  | sight _ ih =>
    rw [drive, if_pos (by rfl)]
    exact ih b
  | token hend _ ih =>
    rw [drive_taken hend]
    exact ih b
  | @broken t items depth e he =>
    refine ⟨depth, ?_⟩
    rw [drive]
    simp [he]
  | unmet hitem hk => exact ⟨_, drive_unmet hitem hk⟩

/-- How a source text is read. Nothing is given where a lexical error comes before the first
token. -/
inductive Reading (source : String) :
    List Instruction → List Token → Except SourceError Unit → Prop where
  | refused {e : LexicalError} : (Tokens.ofSource source).significant = ⟨[], some e⟩ →
      Reading source [] [] (.error (.lexical e))
  | run {read : Tokens} {is : List Instruction} {left : List Token}
      {result : Except SourceError Unit} : (Tokens.ofSource source).significant = read →
      (read.tokens = [] → read.error = none) →
      Runs read.error source.utf8ByteSize [.production .program] 0 read.tokens is left result →
      Reading source is left result

theorem exists_reading (source : String) : ∃ is left result, Reading source is left result := by
  rcases hread : (Tokens.ofSource source).significant with ⟨tokens, error⟩
  obtain ⟨is, left, result, h⟩ :=
    exists_runs [.production .program] ⟨tokens, error, source.utf8ByteSize, 0, ()⟩
  cases tokens with
  | cons t tokens => exact ⟨_, _, _, .run hread (by simp) h⟩
  | nil =>
    cases error with
    | none => exact ⟨_, _, _, .run hread (fun _ ↦ rfl) h⟩
    | some e => exact ⟨_, _, _, .refused hread⟩

variable {source : String}

theorem Reading.compile_eq (h : Reading source is left result) {σ : Type}
    (give : σ → Instruction → σ) (start : σ) :
    compile give start source = (is.foldl give start, result) := by
  cases h with
  | refused hread => simp [compile, hread]
  | @run read is left result hread hend h =>
    obtain ⟨depth, hdrive⟩ := h.drive_eq give start
    obtain ⟨tokens, error⟩ := read
    simp only [compile, hread]
    split
    · next hfirst =>
      cases hfirst
      cases hend rfl
    · rw [hdrive]

theorem Reading.instructions_eq (h : Reading source is left result) :
    instructions source = (is.toArray, result) := by
  rw [instructions, h.compile_eq]
  simp

theorem compile_eq_foldl {σ : Type} (give : σ → Instruction → σ) (start : σ) (source : String) :
    compile give start source =
      ((instructions source).1.toList.foldl give start, (instructions source).2) := by
  obtain ⟨is, left, result, h⟩ := exists_reading source
  rw [h.instructions_eq, h.compile_eq]

/-- Every backend, whatever its state and its handling of each instruction, is told what a recorder
sees and up to the same end, and its state is the recorded instructions folded over the state that
it started in. So op code is what a new assembler makes of the recorded instructions, and the text
in a target language is made up of what each of them is written as. -/
theorem compile_eq_fold_instructions (source : String) :
    (∀ {σ : Type} (give : σ → Instruction → σ) (start : σ), compile give start source =
      ((instructions source).1.toList.foldl give start, (instructions source).2)) ∧
    (assemble source = match (instructions source).2 with
      | .ok () => (Assembler.assemble (instructions source).1.toList).mapError .assembly
      | .error e => .error (.source e)) ∧
    ∀ d : Dialect, renderIn d source =
      (String.join (d.texts 0 (instructions source).1.toList), (instructions source).2) := by
  obtain ⟨is, left, result, h⟩ := exists_reading source
  rw [h.instructions_eq]
  refine ⟨h.compile_eq, ?_, fun d ↦ ?_⟩
  · rw [assemble, h.compile_eq]
    cases result with
    | error e => rfl
    | ok =>
      simp only [Assembler.assemble]
      cases (is.foldl Assembler.give {}).finish <;> rfl
  · simp only [renderIn, h.compile_eq, Draft.text_foldl_give, String.empty_append]

end Grammar

end RegisterLang
