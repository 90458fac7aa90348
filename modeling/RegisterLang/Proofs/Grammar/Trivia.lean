import RegisterLang.Proofs.Grammar.Acceptance
import RegisterLang.Toolchain

namespace RegisterLang.Grammar

def placeOf (ts : List Token) (size index : Nat) : Span :=
  (ts[index]?.map Token.span).getD ⟨size, 0⟩

/-- Errors of two texts, given by their tokens and sizes, that say the same of the same word. -/
inductive Alike (ts us : List Token) (size size' : Nat) : SourceError → SourceError → Prop where
  | mismatch (index : Nat) (le : index ≤ ts.length) (expected : Kind)
      (found : ts[index]?.map Token.word = us[index]?.map Token.word) :
      Alike ts us size size' (.mismatch ⟨expected, ts[index]?, placeOf ts size index⟩)
        (.mismatch ⟨expected, us[index]?, placeOf us size' index⟩)
  | nesting (index : Nat) (le : index ≤ ts.length) (limit : Nat) :
      Alike ts us size size' (.nesting limit (placeOf ts size index))
        (.nesting limit (placeOf us size' index))

def SameEnd (ts us : List Token) (size size' : Nat) :
    Except SourceError Unit → Except SourceError Unit → Prop
  | .ok (), .ok () => True
  | .error e, .error e' => Alike ts us size size' e e'
  | _, _ => False

def Abreast {σ : Type} (ts us : List Token) (size size' : Nat)
    (a b : σ × Except SourceError Unit) : Prop :=
  a.1 = b.1 ∧ SameEnd ts us size size' a.2 b.2

inductive SameResult {α : Type} (ts us : List Token) (size size' : Nat) :
    Except Failure α → Except Failure α → Prop where
  | equal {r : Except Failure α} (h : ∀ e, r ≠ .error (.source e)) :
      SameResult ts us size size' r r
  | refused {e e' : SourceError} (h : Alike ts us size size' e e') :
      SameResult ts us size size' (.error (.source e)) (.error (.source e'))

theorem expand_congr (p : Production) {ahead ahead' : Option Token}
    (h : ahead.map Token.word = ahead'.map Token.word) : expand p ahead = expand p ahead' := by
  cases ahead with
  | none =>
    cases ahead' with
    | none => rfl
    | some t => cases h
  | some t =>
    cases ahead' with
    | none => cases h
    | some t' =>
      obtain ⟨hk, ht⟩ := Prod.mk.inj (Option.some.inj h)
      cases p <;> simp [expand, statementItems, assignment, hk, ht]

variable {σ : Type} {give : σ → Instruction → σ} {ts us : List Token} {size size' : Nat}

theorem head?_word (h : ts.map Token.word = us.map Token.word) (index : Nat) :
    (ts.drop index).head?.map Token.word = (us.drop index).head?.map Token.word := by
  rw [List.head?_drop, List.head?_drop, ← List.getElem?_map, ← List.getElem?_map, h]

theorem head?_kind {ahead ahead' : Option Token}
    (h : ahead.map Token.word = ahead'.map Token.word) :
    ahead.map Token.kind = ahead'.map Token.kind := by
  simpa [Function.comp_def, Token.word] using congrArg (Option.map Prod.fst) h

theorem span_drop (ts : List Token) (index : Nat) (ending : Option LexicalError)
    (size depth : Nat) (b : σ) :
    Progress.span ⟨ts.drop index, ending, size, depth, b⟩ = placeOf ts size index := by
  rw [placeOf, ← List.head?_drop, Progress.span]
  cases ts.drop index <;> rfl

theorem alike_mismatch (h : ts.map Token.word = us.map Token.word) {index : Nat}
    (hi : index ≤ ts.length) (expected : Kind) (depth : Nat) (b : σ) :
    Alike ts us size size' (Progress.mismatch ⟨ts.drop index, none, size, depth, b⟩ expected)
      (Progress.mismatch ⟨us.drop index, none, size', depth, b⟩ expected) := by
  have hword : ts[index]?.map Token.word = us[index]?.map Token.word := by
    rw [← List.getElem?_map, ← List.getElem?_map, h]
  rw [Progress.mismatch, Progress.mismatch, span_drop, span_drop]
  simp only [List.head?_drop]
  exact .mismatch index hi expected hword

theorem drive_token_of_lexed {kind : Kind} {rest : List Item} {depth : Nat} {b : σ} :
    drive give (.token kind :: rest) ⟨ts, none, size, depth, b⟩ =
      if ts.head?.map Token.kind = some kind then
        drive give rest ⟨ts.tail, none, size, depth, b⟩
      else
        (⟨ts, none, size, depth, b⟩,
          .error (Progress.mismatch ⟨ts, none, size, depth, b⟩ kind)) := by
  rw [drive]
  cases ts with
  | nil => rfl
  | cons t ts =>
    by_cases hk : t.kind = kind
    · cases ts <;> simp [hk]
    · simp [hk]

theorem drive_abreast (h : ts.map Token.word = us.map Token.word) (items : List Item) (index : Nat)
    (hi : index ≤ ts.length) (depth : Nat) (b : σ) :
    (drive give items ⟨ts.drop index, none, size, depth, b⟩).1.backend =
        (drive give items ⟨us.drop index, none, size', depth, b⟩).1.backend ∧
      SameEnd ts us size size' (drive give items ⟨ts.drop index, none, size, depth, b⟩).2
        (drive give items ⟨us.drop index, none, size', depth, b⟩).2 := by
  have hhead := head?_word h index
  generalize hs : (⟨ts.drop index, none, size, depth, b⟩ : Progress σ) = s
  fun_induction drive give items s generalizing index depth b with
  | case1 s =>
    subst hs
    rw [drive]
    exact ⟨rfl, trivial⟩
  | case2 i rest s ih =>
    subst hs
    rw [drive_give]
    exact ih index hi depth (give b i) hhead rfl
  | case3 rest s hn =>
    subst hs
    rw [drive, if_pos hn, span_drop, span_drop]
    exact ⟨rfl, .nesting index hi nestingLimit⟩
  | case4 rest s hn ih =>
    subst hs
    rw [drive, if_neg hn]
    exact ih index hi (depth + 1) b hhead rfl
  | case5 rest s ih =>
    subst hs
    rw [drive]
    exact ih index hi (depth - 1) b hhead rfl
  | case6 kind rest s hk ih =>
    subst hs
    rw [drive, if_pos (head?_kind hhead ▸ hk)]
    exact ih index hi depth b hhead rfl
  | case7 kind rest s hk =>
    subst hs
    rw [drive, if_neg (head?_kind hhead ▸ hk)]
    exact ⟨rfl, alike_mismatch h hi kind depth b⟩
  | case8 kind rest s | case11 kind rest s =>
    subst hs
    rw [drive_token_of_lexed, if_neg (head?_kind hhead ▸ by simp_all)]
    exact ⟨rfl, alike_mismatch h hi kind depth b⟩
  | case9 rest s t tokens e _ he =>
    subst hs
    cases he
  | case10 rest s t tokens hts _ ih =>
    subst hs
    have hts : ts.drop index = t :: tokens := hts
    have htail : ts.drop (index + 1) = tokens := by rw [← List.tail_drop, hts, List.tail_cons]
    have hlt : index < ts.length := by
      have := congrArg List.length hts
      simp only [List.length_drop, List.length_cons] at this
      omega
    rw [drive_token_of_lexed, if_pos (head?_kind hhead ▸ by simp [hts]), List.tail_drop]
    exact ih (index + 1) hlt depth b (head?_word h _) (by rw [htail])
  | case12 p rest s ih =>
    subst hs
    rw [drive_production, ← expand_congr p hhead]
    exact ih index hi depth b hhead rfl

variable {source other : String}

theorem compile_of_lexed {start : σ}
    (hs : (Tokens.ofSource source).significant.toExcept = .ok ts) :
    compile give start source =
      ((drive give [.production .program] ⟨ts, none, source.utf8ByteSize, 0, start⟩).1.backend,
        (drive give [.production .program] ⟨ts, none, source.utf8ByteSize, 0, start⟩).2) := by
  unfold Tokens.toExcept at hs
  split at hs
  · cases hs
  · next herror =>
    obtain rfl := Except.ok.inj hs
    simp [compile, herror]

theorem compile_abreast (give : σ → Instruction → σ) (start : σ)
    (hs : (Tokens.ofSource source).significant.toExcept = .ok ts)
    (ho : (Tokens.ofSource other).significant.toExcept = .ok us)
    (hw : ts.map Token.word = us.map Token.word) :
    Abreast ts us source.utf8ByteSize other.utf8ByteSize (compile give start source)
      (compile give start other) := by
  rw [compile_of_lexed hs, compile_of_lexed ho]
  exact drive_abreast hw _ 0 (Nat.zero_le _) 0 start

theorem Abreast.renderIn {d : Dialect}
    (h : Abreast ts us size size' (compile (Draft.give d) {} source)
      (compile (Draft.give d) {} other)) :
    Abreast ts us size size' (renderIn d source) (renderIn d other) :=
  ⟨congrArg Draft.text h.1, h.2⟩

theorem Abreast.assemble
    (h : Abreast ts us size size' (compile Assembler.give {} source)
      (compile Assembler.give {} other)) :
    SameResult ts us size size' (assemble source) (assemble other) := by
  unfold RegisterLang.assemble
  generalize compile Assembler.give {} source = a at h
  generalize compile Assembler.give {} other = b at h
  obtain ⟨a, result⟩ := a
  obtain ⟨b, result'⟩ := b
  obtain ⟨rfl, hend⟩ : a = b ∧ SameEnd ts us size size' result result' := h
  cases result with
  | ok =>
    cases result' with
    | ok =>
      refine .equal fun e ↦ ?_
      cases hfinish : a.finish <;> simp [hfinish]
    | error => cases hend
  | error e =>
    cases result' with
    | ok => cases hend
    | error e' => exact .refused hend

/-- Blanks and comments do not matter: of two texts that can be split into tokens and have the same
words, a recorder sees the same instructions, the assembler makes the same program or fault, and
every target language gets the same text. Where one text is refused, the other is refused at the
same word for the same reason. -/
theorem outcome_determined_by_words
    (hs : (Tokens.ofSource source).significant.toExcept = .ok ts)
    (ho : (Tokens.ofSource other).significant.toExcept = .ok us)
    (hw : ts.map Token.word = us.map Token.word) :
    Abreast ts us source.utf8ByteSize other.utf8ByteSize (instructions source)
      (instructions other) ∧
    SameResult ts us source.utf8ByteSize other.utf8ByteSize (assemble source) (assemble other) ∧
    ∀ d : Dialect, Abreast ts us source.utf8ByteSize other.utf8ByteSize (renderIn d source)
      (renderIn d other) :=
  ⟨compile_abreast _ _ hs ho hw, (compile_abreast _ _ hs ho hw).assemble,
    fun _ ↦ (compile_abreast _ _ hs ho hw).renderIn⟩

theorem drive_unclosed (start : σ)
    (h : ts.map Token.kind = [.programStart, .print, .leftParen, .identifier, .blockEnd]) :
    (drive give [.production .program] ⟨ts, none, size, 0, start⟩).2 =
      .error (.mismatch ⟨.rightParen, ts[4]?, placeOf ts size 4⟩) := by
  simp only [List.map_eq_cons_iff, List.map_eq_nil_iff] at h
  obtain ⟨_, _, rfl, h₁, _, _, rfl, h₂, _, _, rfl, h₃, _, _, rfl, h₄, _, _, rfl, h₅, rfl⟩ := h
  simp [drive, expand, statementItems, parenthesised, nestingLimit, Progress.mismatch,
    Progress.span, placeOf, Kind.isBlockEnd, Kind.condition?, Kind.additive?,
    Kind.multiplicative?, h₁, h₂, h₃, h₄, h₅]

theorem outcome_determined_by_words_unclosed :
    let source := "BEGIN PRINT(x END"
    let other := "\x7bé\x7d BEGIN\n\tPRINT ( x\x7b\x7dEND\n"
    let ts := (Tokens.ofSource source).significant.tokens
    let us := (Tokens.ofSource other).significant.tokens
    (ts.map Token.word = us.map Token.word ∧ ts ≠ us) ∧
    (instructions source).2 = .error (.mismatch ⟨.rightParen, ts[4]?, ⟨14, 3⟩⟩) ∧
    (instructions other).2 = .error (.mismatch ⟨.rightParen, us[4]?, ⟨23, 3⟩⟩) ∧
    Abreast ts us source.utf8ByteSize other.utf8ByteSize (instructions source)
      (instructions other) := by
  intro source other ts us
  have hs : (Tokens.ofSource source).significant.error = none ∧
      (Tokens.ofSource other).significant.error = none := by decide +kernel
  have hts : (Tokens.ofSource source).significant.toExcept = .ok ts := by
    rw [Tokens.toExcept, hs.1]
  have hus : (Tokens.ofSource other).significant.toExcept = .ok us := by
    rw [Tokens.toExcept, hs.2]
  have hplace : placeOf ts source.utf8ByteSize 4 = ⟨14, 3⟩ ∧
      placeOf us other.utf8ByteSize 4 = ⟨23, 3⟩ := by decide +kernel
  refine ⟨by decide +kernel, ?_, ?_, ?_⟩
  · rw [instructions, compile_of_lexed hts, drive_unclosed _ (by decide +kernel), hplace.1]
  · rw [instructions, compile_of_lexed hus, drive_unclosed _ (by decide +kernel), hplace.2]
  · exact (outcome_determined_by_words hts hus (by decide +kernel)).1

end RegisterLang.Grammar
