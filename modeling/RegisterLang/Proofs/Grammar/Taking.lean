import RegisterLang.Proofs.Grammar.Blame

namespace RegisterLang.Grammar

/-- Items from a depth on take all of some tokens. Right behind the last of them other items are
left, at a depth of their own. -/
inductive Takes : List Item → Nat → List Token → List Item → Nat → Prop where
  | last {t : Token} {items : List Item} {depth : Nat} :
      Takes (.token t.kind :: items) depth [t] items depth
  | token {t : Token} {items rest : List Item} {depth stop : Nat} {ts : List Token} :
      Takes items depth ts rest stop → Takes (.token t.kind :: items) depth (t :: ts) rest stop
  | give {i : Instruction} {items rest : List Item} {depth stop : Nat} {ts : List Token} :
      Takes items depth ts rest stop → Takes (.give i :: items) depth ts rest stop
  | enter {items rest : List Item} {depth stop : Nat} {ts : List Token} :
      depth + 1 ≤ nestingLimit → Takes items (depth + 1) ts rest stop →
      Takes (.enter :: items) depth ts rest stop
  | leave {items rest : List Item} {depth stop : Nat} {ts : List Token} :
      Takes items (depth - 1) ts rest stop → Takes (.leave :: items) depth ts rest stop
  | sight {t : Token} {items rest : List Item} {depth stop : Nat} {ts : List Token} :
      Takes items depth (t :: ts) rest stop →
      Takes (.sight t.kind :: items) depth (t :: ts) rest stop
  | production {p : Production} {items rest : List Item} {depth stop : Nat} {ts : List Token} :
      Takes (expand p ts.head? ++ items) depth ts rest stop →
      Takes (.production p :: items) depth ts rest stop

variable {ending : Option LexicalError} {size depth stop : Nat} {items rest : List Item}
variable {ts taken left left' : List Token} {is : List Instruction}
variable {result : Except SourceError Unit}

theorem Takes.ne_nil (h : Takes items depth ts rest stop) : ts ≠ [] := by
  induction h with
  | last | token | sight => simp
  | give _ ih | enter _ _ ih | leave _ ih | production _ ih => exact ih

theorem Runs.exists_takes (h : Runs ending size items depth ts is left result)
    (hlex : ∀ e, result ≠ .error (.lexical e)) (hne : taken ≠ []) (hts : ts = taken ++ left) :
    ∃ rest stop more, Takes items depth taken rest stop ∧
      Runs ending size rest stop left more left result := by
  induction h generalizing taken with
  | done | tooDeep | unmet => exact absurd (List.self_eq_append_left.1 hts) hne
  | broken => exact absurd rfl (hlex _)
  | give _ ih =>
    obtain ⟨rest, stop, more, ht, hr⟩ := ih hlex hne hts
    exact ⟨rest, stop, more, .give ht, hr⟩
  | enter hd _ ih =>
    obtain ⟨rest, stop, more, ht, hr⟩ := ih hlex hne hts
    exact ⟨rest, stop, more, .enter hd ht, hr⟩
  | leave _ ih =>
    obtain ⟨rest, stop, more, ht, hr⟩ := ih hlex hne hts
    exact ⟨rest, stop, more, .leave ht, hr⟩
  | sight _ ih =>
    obtain ⟨rest, stop, more, ht, hr⟩ := ih hlex hne hts
    obtain ⟨t, taken, rfl⟩ := List.exists_cons_of_ne_nil hne
    obtain ⟨rfl, -⟩ := List.cons.inj hts
    exact ⟨rest, stop, more, .sight ht, hr⟩
  | @token t items depth ts left is result _ h ih =>
    obtain ⟨t, taken, rfl⟩ := List.exists_cons_of_ne_nil hne
    obtain ⟨rfl, rfl⟩ := List.cons.inj hts
    by_cases hnil : taken = []
    · subst hnil
      exact ⟨items, depth, is, .last, h⟩
    · obtain ⟨rest, stop, more, ht, hr⟩ := ih hlex hnil rfl
      exact ⟨rest, stop, more, .token ht, hr⟩
  | production _ ih =>
    obtain ⟨rest, stop, more, ht, hr⟩ := ih hlex hne hts
    rw [hts, List.head?_append_of_ne_nil _ hne] at ht
    exact ⟨rest, stop, more, .production ht, hr⟩

theorem Takes.exists_runs (h : Takes items depth ts rest stop)
    (hr : Runs none size rest stop left is left' result) :
    ∃ more, Runs none size items depth (ts ++ left) more left' result := by
  induction h with
  | last => exact ⟨_, .token (fun _ ↦ rfl) hr⟩
  | token _ ih =>
    obtain ⟨more, h⟩ := ih hr
    exact ⟨_, .token (fun _ ↦ rfl) h⟩
  | give _ ih =>
    obtain ⟨more, h⟩ := ih hr
    exact ⟨_, .give h⟩
  | enter hd _ ih =>
    obtain ⟨more, h⟩ := ih hr
    exact ⟨_, .enter hd h⟩
  | leave _ ih =>
    obtain ⟨more, h⟩ := ih hr
    exact ⟨_, .leave h⟩
  | sight _ ih =>
    obtain ⟨more, h⟩ := ih hr
    exact ⟨_, .sight h⟩
  | production ht ih =>
    obtain ⟨more, h⟩ := ih hr
    refine ⟨more, .production ?_⟩
    rw [List.head?_append_of_ne_nil _ ht.ne_nil]
    exact h

theorem Takes.isOpen (h : Takes items depth ts rest stop) (hr : Ready depth items)
    (hd : depth ≤ nestingLimit) : Open stop rest ∧ stop ≤ nestingLimit := by
  induction h with
  | last => exact ⟨hr.of_token, hd⟩
  | token _ ih => exact ih hr.of_token.ready hd
  | give _ ih => exact ih hr.of_give hd
  | enter hdepth _ ih => exact ih hr.of_enter hdepth
  | leave _ ih => exact ih hr.of_leave (by omega)
  | sight h =>
    obtain rfl := hr.of_sight
    cases h with
    | give h => cases h
  | production _ ih => exact ih (hr.expand _) hd

theorem Runs.ne_lexical (h : Runs none size items depth ts is left result) (l : LexicalError) :
    result ≠ .error (.lexical l) := by
  rintro rfl
  obtain ⟨_, -, hending, -⟩ | ⟨kind, he⟩ | he := h.error_cases
  · cases hending
  · cases he
  · cases he

theorem Runs.of_give {i : Instruction}
    (h : Runs ending size (.give i :: items) depth ts is left result) :
    ∃ more, Runs ending size items depth ts more left result := by
  cases h with
  | give h => exact ⟨_, h⟩
  | unmet hitem => simp at hitem

theorem Runs.of_leave (h : Runs ending size (.leave :: items) depth ts is left result) :
    Runs ending size items (depth - 1) ts is left result := by
  cases h with
  | leave h => exact h
  | unmet hitem => simp at hitem

theorem Runs.of_sight {k : Kind} (h : Runs ending size (.sight k :: items) depth ts is left result)
    (hr : ∀ m, result ≠ .error (.mismatch m)) :
    Runs ending size items depth ts is left result := by
  cases h with
  | sight h => exact h
  | unmet => exact absurd rfl (hr _)

theorem Runs.of_production {p : Production}
    (h : Runs ending size (.production p :: items) depth ts is left result) :
    Runs ending size (expand p ts.head? ++ items) depth ts is left result := by
  cases h with
  | production h => exact h
  | unmet hitem => simp at hitem

theorem Runs.unmet_of_token {k : Kind}
    (h : Runs ending size (.token k :: items) depth ts is ts result) :
    result = .error (.mismatch ⟨k, ts.head?, frontOf size ts⟩) ∧
      ts.head?.map Token.kind ≠ some k := by
  cases h with
  | token _ h =>
    have hle := h.left_suffix.length_le
    rw [List.length_cons] at hle
    omega
  | unmet hitem hk =>
    obtain he | he := hitem
    · cases he
      exact ⟨rfl, hk⟩
    · cases he

def Viable (ws : List Word) : Prop :=
  ∃ tree : Tree .program, tree.nesting ≤ nestingLimit ∧ ws <+: tree.words

theorem Viable.mono {vs ws : List Word} (h : Viable ws) (hle : vs <+: ws) : Viable vs := by
  obtain ⟨tree, hd, hw⟩ := h
  exact ⟨tree, hd, hle.trans hw⟩

theorem Runs.viable (h : Runs ending size [.production .program] 0 (taken ++ left) is left result) :
    Viable (taken.map Token.word) := by
  by_cases hnil : taken = []
  · subst hnil
    exact ⟨.program .empty, by decide, List.nil_prefix⟩
  · obtain ⟨tree, fill, hw, hd, -⟩ := h.exists_tree hnil rfl
    exact ⟨tree, hd, fill.map Segment.word, hw.symm⟩

def Spelled (w : Word) : Prop := w.1.literal.getD w.2 = w.2

theorem Spelled.word_mk {w : Word} (h : Spelled w) : (⟨w.1, ⟨0, 0⟩, w.2⟩ : Token).word = w :=
  Prod.ext rfl h

theorem spelled_word (k : Kind) : Spelled k.word := by
  cases k <;> rfl

theorem Tree.spelled {p : Production} (t : Tree p) : ∀ w ∈ t.words, Spelled w := by
  have hname (name : String) : Spelled (.identifier, name) := rfl
  have hinteger (text : String) : Spelled (.integer, text) := rfl
  induction t with
  | _ => simp_all [words, spelled_word, or_imp]

theorem Tree.exists_tokens {p : Production} (t : Tree p) :
    ∃ ts : List Token, ts.map Token.word = t.words := by
  refine ⟨t.words.map fun w ↦ ⟨w.1, ⟨0, 0⟩, w.2⟩, ?_⟩
  rw [List.map_map]
  exact (List.map_congr_left fun w hw ↦ (t.spelled w hw).word_mk).trans (List.map_id _)

theorem Runs.not_viable {t : Token}
    (h : Runs ending size [.production .program] 0 (taken ++ t :: left) is (t :: left) result)
    (hok : result ≠ .ok ()) (hlex : ∀ e, result ≠ .error (.lexical e)) {w : Word}
    (hw : w.1 = t.kind) : ¬ Viable (taken.map Token.word ++ [w]) := by
  rintro ⟨tree, hd, hpre⟩
  obtain ⟨us, hus⟩ := tree.exists_tokens
  rw [← hus] at hpre
  exact h.not_prefix hok hlex hd (hus ▸ List.prefix_refl _) hw hpre

end RegisterLang.Grammar
