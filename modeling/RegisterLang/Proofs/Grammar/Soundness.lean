import RegisterLang.Grammar.Drive
import RegisterLang.Proofs.Grammar.Lookahead

namespace RegisterLang.Grammar

open Item Production

/-- A way through a list of items: the depth and the tokens it starts with, the instructions given
on it and the tokens left at its end. A production is passed with a tree of it; that of a program
leaves its last word in place. -/
inductive Passes : List Item → Nat → List Token → List Instruction → List Token → Prop
  | done {depth : Nat} {ts : List Token} : Passes [] depth ts [] ts
  | token {t : Token} {items : List Item} {depth : Nat} {ts left : List Token}
      {is : List Instruction} : Passes items depth ts is left →
      Passes (token t.kind :: items) depth (t :: ts) is left
  | sight {t : Token} {items : List Item} {depth : Nat} {ts left : List Token}
      {is : List Instruction} : Passes items depth (t :: ts) is left →
      Passes (sight t.kind :: items) depth (t :: ts) is left
  | give {i : Instruction} {items : List Item} {depth : Nat} {ts left : List Token}
      {is : List Instruction} : Passes items depth ts is left →
      Passes (give i :: items) depth ts (i :: is) left
  | enter {items : List Item} {depth : Nat} {ts left : List Token} {is : List Instruction} :
      depth + 1 ≤ nestingLimit → Passes items (depth + 1) ts is left →
      Passes (enter :: items) depth ts is left
  | leave {items : List Item} {depth : Nat} {ts left : List Token} {is : List Instruction} :
      Passes items (depth - 1) ts is left → Passes (leave :: items) depth ts is left
  | production {p : Production} (t : Tree p) {items : List Item} {depth : Nat}
      {taken ts left : List Token} {is : List Instruction} : p.isProgram = false →
      taken.map Token.word = t.words → depth + t.nesting ≤ nestingLimit →
      Passes items depth ts is left →
      Passes (production p :: items) depth (taken ++ ts) (t.instructions ++ is) left
  | program (t : Tree .program) {items : List Item} {depth : Nat} {taken ts left : List Token}
      {last : Token} {is : List Instruction} :
      (taken ++ [last]).map Token.word = t.words → depth + t.nesting ≤ nestingLimit →
      Passes items depth (last :: ts) is left →
      Passes (.production .program :: items) depth (taken ++ last :: ts) (t.instructions ++ is) left

section

variable {items : List Item} {depth : Nat} {ts left : List Token} {is : List Instruction}

theorem Passes.takes {k : Kind} (h : Passes (.token k :: items) depth ts is left) :
    ∃ t more, ts = t :: more ∧ t.kind = k ∧ Passes items depth more is left := by
  cases h with
  | token h => exact ⟨_, _, rfl, rfl, h⟩

theorem Passes.sees {k : Kind} (h : Passes (.sight k :: items) depth ts is left) :
    ∃ t more, ts = t :: more ∧ t.kind = k ∧ Passes items depth ts is left := by
  cases h with
  | sight h => exact ⟨_, _, rfl, rfl, h⟩

theorem Passes.gives {i : Instruction} (h : Passes (.give i :: items) depth ts is left) :
    ∃ more, is = i :: more ∧ Passes items depth ts more left := by
  cases h with
  | give h => exact ⟨_, rfl, h⟩

theorem Passes.enters (h : Passes (.enter :: items) depth ts is left) :
    depth + 1 ≤ nestingLimit ∧ Passes items (depth + 1) ts is left := by
  cases h with
  | enter hd h => exact ⟨hd, h⟩

theorem Passes.leaves (h : Passes (.leave :: items) (depth + 1) ts is left) :
    Passes items depth ts is left := by
  cases h with
  | leave h => exact h

theorem Passes.derives {p : Production} (h : Passes (.production p :: items) depth ts is left)
    (hp : p.isProgram = false) :
    ∃ (t : Tree p) (taken more : List Token) (after : List Instruction),
      ts = taken ++ more ∧ is = t.instructions ++ after ∧ taken.map Token.word = t.words ∧
        depth + t.nesting ≤ nestingLimit ∧ Passes items depth more after left := by
  cases h with
  | production t _ hw hd h => exact ⟨t, _, _, _, rfl, rfl, hw, hd, h⟩
  | program => cases hp

theorem Passes.derives_program (h : Passes [.production .program] depth ts is left) :
    ∃ (t : Tree .program) (taken more : List Token), ts = taken ++ more ∧ is = t.instructions ∧
      taken.map Token.word = t.words ∧ depth + t.nesting ≤ nestingLimit := by
  cases h with
  | production _ hp => cases hp
  | program t hw hd h =>
    cases h
    exact ⟨t, _, _, (List.append_cons ..), List.append_nil _, hw, hd⟩

end

theorem Token.word_eq {t : Token} {k : Kind} (h : t.kind = k) (hk : k.literal.isSome = true) :
    t.word = k.word := by
  subst h
  obtain ⟨text, ht⟩ := Option.isSome_iff_exists.1 hk
  simp [Token.word, Kind.word, Token.text, ht]

section

variable {items : List Item} {depth : Nat} {ts left : List Token} {is : List Instruction}

theorem Passes.nothing {p : Production} (t : Tree p) (hp : p.isProgram = false) (hw : t.words = [])
    (hn : t.nesting = 0) (hi : t.instructions = []) (hd : depth ≤ nestingLimit)
    (h : Passes items depth ts is left) : Passes (.production p :: items) depth ts is left := by
  have hw' : ([] : List Token).map Token.word = t.words := hw.symm
  have h' := Passes.production t hp hw' (by omega) h
  rwa [hi] at h'

theorem Passes.one {p : Production} (t : Tree p) (hp : p.isProgram = false) {a : Token}
    (hw : t.words = [a.word]) (hd : depth + t.nesting ≤ nestingLimit)
    (h : Passes items depth ts is left) :
    Passes (.production p :: items) depth (a :: ts) (t.instructions ++ is) left := by
  have hw' : [a].map Token.word = t.words := hw.symm
  exact .production t hp hw' hd h

theorem passes_conditional {condition : Condition}
    (h : Passes (conditional condition.keyword condition ++ items) depth ts is left) :
    Passes (.production .statement :: items) depth ts is left := by
  obtain ⟨hd, h₁⟩ := h.enters
  obtain ⟨a, ts, rfl, ha, h₂⟩ := h₁.takes
  obtain ⟨test, xs, ts, is, rfl, rfl, hx, hdt, h₃⟩ := h₂.derives rfl
  obtain ⟨is, rfl, h₄⟩ := h₃.gives
  obtain ⟨body, ys, ts, is, rfl, rfl, hy, hdb, h₅⟩ := h₄.derives rfl
  obtain ⟨other, zs, ts, is, rfl, rfl, hz, hdo, h₆⟩ := h₅.derives rfl
  obtain ⟨z, ts, rfl, hb, h₇⟩ := h₆.takes
  obtain ⟨is, rfl, h₈⟩ := h₇.gives
  have hw : (a :: (xs ++ (ys ++ (zs ++ [z])))).map Token.word =
      (Tree.conditional condition test body other).words := by
    simp [Tree.words, hx, hy, hz, Token.word_eq ha (by cases condition <;> rfl),
      Token.word_eq hb rfl]
  have hd' : depth + (Tree.conditional condition test body other).nesting ≤ nestingLimit := by
    simp only [Tree.nesting]
    omega
  simpa [Tree.instructions] using
    Passes.production (Tree.conditional condition test body other) rfl hw hd' h₈.leaves

theorem passes_loop (h : Passes (loopStatement ++ items) depth ts is left) :
    Passes (.production .statement :: items) depth ts is left := by
  obtain ⟨hd, h₁⟩ := h.enters
  obtain ⟨a, ts, rfl, ha, h₂⟩ := h₁.takes
  obtain ⟨is, rfl, h₃⟩ := h₂.gives
  obtain ⟨body, xs, ts, is, rfl, rfl, hx, hdb, h₄⟩ := h₃.derives rfl
  obtain ⟨z, ts, rfl, hb, h₅⟩ := h₄.takes
  obtain ⟨is, rfl, h₆⟩ := h₅.gives
  have hw : (a :: (xs ++ [z])).map Token.word = (Tree.loop body).words := by
    simp [Tree.words, hx, Token.word_eq ha rfl, Token.word_eq hb rfl]
  have hd' : depth + (Tree.loop body).nesting ≤ nestingLimit := by
    simp only [Tree.nesting]
    omega
  simpa [Tree.instructions] using Passes.production (Tree.loop body) rfl hw hd' h₆.leaves

theorem passes_statement {ahead : Token} (hd : depth ≤ nestingLimit)
    (h : Passes (statementItems ahead ++ items) depth (ahead :: ts) is left) :
    Passes (.production .statement :: items) depth (ahead :: ts) is left := by
  unfold statementItems at h
  split at h
  · next hc =>
    rw [Kind.condition?_eq_some.1 hc] at h
    exact passes_conditional h
  · exact passes_loop h
  · obtain ⟨a, ts, ⟨rfl, rfl⟩, ha, h₁⟩ := h.takes
    obtain ⟨is, rfl, h₂⟩ := h₁.gives
    exact .one .leave rfl (by simp [Tree.words, Token.word_eq ha rfl]) hd h₂
  · obtain ⟨a, ts, ⟨rfl, rfl⟩, ha, h₁⟩ := h.takes
    obtain ⟨value, xs, ts, is, rfl, rfl, hx, hdv, h₂⟩ := h₁.derives rfl
    obtain ⟨is, rfl, h₃⟩ := h₂.gives
    have hw : (ahead :: xs).map Token.word = (Tree.print value).words := by
      simp [Tree.words, hx, Token.word_eq ha rfl]
    simpa [Tree.instructions] using Passes.production (Tree.print value) rfl hw hdv h₃
  · obtain ⟨a, ts, ⟨rfl, rfl⟩, ha, h₁⟩ := h.takes
    obtain ⟨into, xs, ts, is, rfl, rfl, hx, hdv, h₂⟩ := h₁.derives rfl
    have hw : (ahead :: xs).map Token.word = (Tree.read into).words := by
      simp [Tree.words, hx, Token.word_eq ha rfl]
    simpa [Tree.instructions] using Passes.production (Tree.read into) rfl hw hdv h₂
  · obtain ⟨a, ts, ⟨rfl, rfl⟩, ha, h₁⟩ := h.takes
    obtain ⟨c, ts, rfl, hc, h₂⟩ := h₁.takes
    obtain ⟨value, xs, ts, is, rfl, rfl, hx, hdv, h₃⟩ := h₂.derives rfl
    obtain ⟨is, rfl, h₄⟩ := h₃.gives
    have hw : (ahead :: c :: xs).map Token.word = (Tree.assign ahead.text value).words := by
      simp only [List.map_cons, Tree.words, hx, Token.word_eq hc rfl]
      simp [Token.word, ha]
    simpa [Tree.instructions] using Passes.production (Tree.assign ahead.text value) rfl hw hdv h₄

theorem passes_pair {p first second : Production} (grow : Tree first → Tree second → Tree p)
    (hp : p.isProgram = false) (hf : first.isProgram = false) (hs : second.isProgram = false)
    (hw : ∀ t u, (grow t u).words = t.words ++ u.words)
    (hn : ∀ t u, (grow t u).nesting = max t.nesting u.nesting)
    (hi : ∀ t u, (grow t u).instructions = t.instructions ++ u.instructions)
    (h : Passes (.production first :: .production second :: items) depth ts is left) :
    Passes (.production p :: items) depth ts is left := by
  obtain ⟨t, xs, ts, is, rfl, rfl, hx, hdt, h₁⟩ := h.derives hf
  obtain ⟨u, ys, ts, is, rfl, rfl, hy, hdu, h₂⟩ := h₁.derives hs
  have hw' : (xs ++ ys).map Token.word = (grow t u).words := by
    simp [hw, hx, hy]
  have hd' : depth + (grow t u).nesting ≤ nestingLimit := by
    rw [hn]
    omega
  simpa [hi] using Passes.production _ hp hw' hd' h₂

theorem passes_operatorTail {operation : Operation} {operand more : Production}
    (grow : Tree operand → Tree more → Tree more) (ho : operand.isProgram = false)
    (hm : more.isProgram = false)
    (hw : ∀ t u, (grow t u).words = operation.kind.word :: (t.words ++ u.words))
    (hn : ∀ t u, (grow t u).nesting = max t.nesting u.nesting)
    (hi : ∀ t u, (grow t u).instructions =
      .push :: (t.instructions ++ .apply operation :: u.instructions))
    (h : Passes (operatorTail operation.kind operation operand more ++ items) depth ts is left) :
    Passes (.production more :: items) depth ts is left := by
  obtain ⟨is, rfl, h₁⟩ := h.gives
  obtain ⟨a, ts, rfl, ha, h₂⟩ := h₁.takes
  obtain ⟨next, xs, ts, is, rfl, rfl, hx, hdn, h₃⟩ := h₂.derives ho
  obtain ⟨is, rfl, h₄⟩ := h₃.gives
  obtain ⟨tail, ys, ts, is, rfl, rfl, hy, hdt, h₅⟩ := h₄.derives hm
  have hw' : (a :: (xs ++ ys)).map Token.word = (grow next tail).words := by
    simp [hw, hx, hy, Token.word_eq ha (by cases operation <;> rfl)]
  have hd' : depth + (grow next tail).nesting ≤ nestingLimit := by
    rw [hn]
    omega
  simpa [hi] using Passes.production _ hm hw' hd' h₅

theorem passes_parenthesised (h : Passes (parenthesised ++ items) depth ts is left) :
    Passes (.production .factor :: items) depth ts is left := by
  obtain ⟨hd, h₁⟩ := h.enters
  obtain ⟨a, ts, rfl, ha, h₂⟩ := h₁.takes
  obtain ⟨inner, xs, ts, is, rfl, rfl, hx, hdi, h₃⟩ := h₂.derives rfl
  obtain ⟨z, ts, rfl, hb, h₄⟩ := h₃.takes
  have hw : (a :: (xs ++ [z])).map Token.word = (Tree.group inner).words := by
    simp [Tree.words, hx, Token.word_eq ha rfl, Token.word_eq hb rfl]
  have hd' : depth + (Tree.group inner).nesting ≤ nestingLimit := by
    simp only [Tree.nesting]
    omega
  simpa [Tree.instructions] using Passes.production (Tree.group inner) rfl hw hd' h₄.leaves

end

theorem Passes.of_expand {p : Production} {items : List Item} {depth : Nat} {ts left : List Token}
    {is : List Instruction} (hd : depth ≤ nestingLimit)
    (h : Passes (expand p ts.head? ++ items) depth ts is left) :
    Passes (.production p :: items) depth ts is left := by
  cases p with
  | program =>
    obtain ⟨a, ts, rfl, ha, h₁⟩ := h.takes
    obtain ⟨is, rfl, h₂⟩ := h₁.gives
    obtain ⟨body, xs, ts, is, rfl, rfl, hx, hdb, h₃⟩ := h₂.derives rfl
    obtain ⟨z, ts, rfl, hb, h₄⟩ := h₃.sees
    obtain ⟨is, rfl, h₅⟩ := h₄.gives
    have hw : ((a :: xs) ++ [z]).map Token.word = (Tree.program body).words := by
      simp [Tree.words, hx, Token.word_eq ha rfl, Token.word_eq hb rfl]
    simpa [Tree.instructions] using Passes.program (Tree.program body) hw hdb h₅
  | block =>
    cases ts with
    | nil => exact .nothing .empty rfl rfl rfl rfl hd h
    | cons a ts =>
      by_cases hb : a.kind.isBlockEnd = true
      · simp only [expand, List.head?_cons, hb, if_true] at h
        exact .nothing .empty rfl rfl rfl rfl hd h
      · simp only [expand, List.head?_cons, hb] at h
        exact passes_pair .sequence rfl rfl rfl (fun _ _ ↦ rfl) (fun _ _ ↦ rfl)
          (fun _ _ ↦ rfl) h
  | statement =>
    cases ts with
    | nil =>
      obtain ⟨_, _, ht, -⟩ := h.takes
      cases ht
    | cons a ts => exact passes_statement hd h
  | alternative =>
    simp only [expand] at h
    split at h
    · obtain ⟨a, ts, rfl, ha, h₁⟩ := h.takes
      obtain ⟨is, rfl, h₂⟩ := h₁.gives
      obtain ⟨body, xs, ts, is, rfl, rfl, hx, hdb, h₃⟩ := h₂.derives rfl
      have hw : (a :: xs).map Token.word = (Tree.otherwise body).words := by
        simp [Tree.words, hx, Token.word_eq ha rfl]
      simpa [Tree.instructions] using Passes.production (Tree.otherwise body) rfl hw hdb h₃
    · exact .nothing .noAlternative rfl rfl rfl rfl hd h
  | readTarget =>
    cases ts with
    | nil =>
      obtain ⟨_, _, ht, -⟩ := h.takes
      cases ht
    | cons a ts =>
      obtain ⟨_, _, ⟨rfl, rfl⟩, ha, h₁⟩ := h.takes
      obtain ⟨is, rfl, h₂⟩ := h₁.gives
      exact .one (.target a.text) rfl (by simp [Tree.words, Token.word, ha]) hd h₂
  | expression =>
    exact passes_pair .expression rfl rfl rfl (fun _ _ ↦ rfl) (fun _ _ ↦ rfl)
      (fun _ _ ↦ rfl) h
  | moreTerms =>
    simp only [expand] at h
    split at h
    · exact .nothing .noTerms rfl rfl rfl rfl hd h
    · next ho =>
      obtain ⟨a, -, ha⟩ := Option.bind_eq_some_iff.1 ho
      obtain ⟨_, ha, ⟨rfl, rfl⟩⟩ := Option.map_eq_some_iff.1 ha
      obtain ⟨hk, hadd⟩ := Kind.additive?_eq_some.1 ha
      rw [hk] at h
      exact passes_operatorTail (Tree.moreTerms _ hadd) rfl rfl (fun _ _ ↦ rfl) (fun _ _ ↦ rfl)
        (fun _ _ ↦ rfl) h
  | term =>
    exact passes_pair .term rfl rfl rfl (fun _ _ ↦ rfl) (fun _ _ ↦ rfl) (fun _ _ ↦ rfl) h
  | moreFactors =>
    simp only [expand] at h
    split at h
    · exact .nothing .noFactors rfl rfl rfl rfl hd h
    · next ho =>
      obtain ⟨a, -, ha⟩ := Option.bind_eq_some_iff.1 ho
      obtain ⟨_, ha, ⟨rfl, rfl⟩⟩ := Option.map_eq_some_iff.1 ha
      obtain ⟨hk, hmul⟩ := Kind.multiplicative?_eq_some.1 ha
      rw [hk] at h
      exact passes_operatorTail (Tree.moreFactors _ hmul) rfl rfl (fun _ _ ↦ rfl)
        (fun _ _ ↦ rfl) (fun _ _ ↦ rfl) h
  | signed =>
    simp only [expand] at h
    split at h
    · obtain ⟨a, ts, rfl, ha, h₁⟩ := h.takes
      obtain ⟨f, xs, ts, is, rfl, rfl, hx, hdf, h₂⟩ := h₁.derives rfl
      have hw : (a :: xs).map Token.word = (Tree.plus f).words := by
        simp [Tree.words, hx, Token.word_eq ha rfl]
      simpa [Tree.instructions] using Passes.production (Tree.plus f) rfl hw hdf h₂
    · obtain ⟨a, ts, rfl, ha, h₁⟩ := h.takes
      obtain ⟨f, xs, ts, is, rfl, rfl, hx, hdf, h₂⟩ := h₁.derives rfl
      obtain ⟨is, rfl, h₃⟩ := h₂.gives
      have hw : (a :: xs).map Token.word = (Tree.minus f).words := by
        simp [Tree.words, hx, Token.word_eq ha rfl]
      simpa [Tree.instructions] using Passes.production (Tree.minus f) rfl hw hdf h₃
    · obtain ⟨f, xs, ts, is, rfl, rfl, hx, hdf, h₁⟩ := h.derives rfl
      exact .production (.unsigned f) rfl hx hdf h₁
  | factor =>
    cases ts with
    | nil => exact passes_parenthesised h
    | cons a ts =>
      simp only [expand, List.head?_cons] at h
      split at h
      · obtain ⟨_, _, ⟨rfl, rfl⟩, ha, h₁⟩ := h.takes
        obtain ⟨is, rfl, h₂⟩ := h₁.gives
        exact .one (.integer a.text) rfl (by simp [Tree.words, Token.word, ha]) hd h₂
      · obtain ⟨_, _, ⟨rfl, rfl⟩, ha, h₁⟩ := h.takes
        obtain ⟨is, rfl, h₂⟩ := h₁.gives
        exact .one (.identifier a.text) rfl (by simp [Tree.words, Token.word, ha]) hd h₂
      · exact passes_parenthesised h

theorem passes_of_drive {σ : Type} {give : σ → Instruction → σ} {items : List Item}
    {s s' : Progress σ} (hd : s.depth ≤ nestingLimit) (h : drive give items s = (s', .ok ())) :
    ∃ is, Passes items s.depth s.tokens is s'.tokens ∧ s'.backend = is.foldl give s.backend := by
  fun_induction drive give items s with
  | case1 s =>
    obtain ⟨rfl, -⟩ := Prod.mk.inj h
    exact ⟨[], .done, rfl⟩
  | case2 i rest s ih =>
    obtain ⟨is, hp, hb⟩ := ih hd h
    exact ⟨i :: is, .give hp, hb⟩
  | case4 rest s hn ih =>
    obtain ⟨is, hp, hb⟩ := ih (by simp; omega) h
    exact ⟨is, .enter (by omega) hp, hb⟩
  | case5 rest s ih =>
    obtain ⟨is, hp, hb⟩ := ih (by simp; omega) h
    exact ⟨is, .leave hp, hb⟩
  | case6 kind rest s hk ih =>
    obtain ⟨is, hp, hb⟩ := ih hd h
    obtain ⟨t, ht, rfl⟩ := Option.map_eq_some_iff.1 hk
    obtain ⟨ts, ht⟩ := List.head?_eq_some_iff.1 ht
    rw [ht] at hp ⊢
    exact ⟨is, .sight hp, hb⟩
  | case10 rest s t ts ht _ ih =>
    obtain ⟨is, hp, hb⟩ := ih hd h
    rw [ht]
    exact ⟨is, .token hp, hb⟩
  | case12 p rest s ih =>
    obtain ⟨is, hp, hb⟩ := ih hd h
    exact ⟨is, hp.of_expand hd, hb⟩
  | case3 | case7 | case8 | case9 | case11 => cases h

end RegisterLang.Grammar
