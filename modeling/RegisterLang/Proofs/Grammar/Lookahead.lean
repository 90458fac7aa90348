import RegisterLang.Proofs.Grammar.Tree

namespace RegisterLang

namespace Kind

theorem condition?_eq_some {k : Kind} {c : Condition} :
    k.condition? = some c ↔ k = c.keyword := by
  cases k <;> cases c <;> simp [condition?, Condition.keyword]

theorem additive?_eq_some {k : Kind} {o : Operation} :
    k.additive? = some o ↔ k = o.kind ∧ o.isAdditive = true := by
  cases k <;> cases o <;> simp [additive?, Operation.kind, Operation.isAdditive]

theorem multiplicative?_eq_some {k : Kind} {o : Operation} :
    k.multiplicative? = some o ↔ k = o.kind ∧ o.isAdditive = false := by
  cases k <;> cases o <;> simp [multiplicative?, Operation.kind, Operation.isAdditive]

def isOperator (k : Kind) : Bool := k.additive?.isSome || k.multiplicative?.isSome

end Kind

theorem Condition.words_ne {c : Condition} {w : Word} {xs ys : List Word}
    (hw : w.1.condition? = none) : c.keyword.word :: xs ≠ w :: ys := by
  intro h
  obtain rfl := (List.cons.inj h).1
  cases c <;> cases hw

theorem Condition.keyword_injective {c d : Condition} (h : c.keyword = d.keyword) : c = d := by
  cases c <;> cases d <;> simp_all [keyword]

theorem Operation.kind_injective {o q : Operation} (h : o.kind = q.kind) : o = q := by
  cases o <;> cases q <;> simp_all [kind]

namespace Grammar

namespace Production

def isProgram : Production → Bool
  | program => true
  | _ => false

/-- The kinds that a derivation can start with, if it derives anything. -/
def startsWith : Production → Kind → Bool
  | program, k => k = .programStart
  | block, k | statement, k =>
    k.condition?.isSome || k = .loop || k = .leave || k = .print || k = .read || k = .identifier
  | alternative, k => k = .otherwise
  | readTarget, k => k = .identifier
  | moreTerms, k => k.additive?.isSome
  | moreFactors, k => k.multiplicative?.isSome
  | expression, k | term, k | signed, k =>
    k = .integer || k = .identifier || k = .leftParen || k.additive?.isSome
  | factor, k => k = .integer || k = .identifier || k = .leftParen

/-- The kinds that a derivation can end before, instead of going on with them. -/
def endsBefore : Production → Kind → Bool
  | block, k => k.isBlockEnd
  | alternative, k => k = .blockEnd
  | statement, k | expression, k | moreTerms, k => !k.isOperator
  | term, k | moreFactors, k => k.multiplicative?.isNone
  | _, _ => true

def Ends (p : Production) (ws : List Word) : Prop := ∀ w ∈ ws.head?, p.endsBefore w.1 = true

theorem Ends.mono {p q : Production} {ws : List Word} (h : p.Ends ws)
    (hk : ∀ k, p.endsBefore k = true → q.endsBefore k = true) : q.Ends ws :=
  fun w hw ↦ hk w.1 (h w hw)

@[simp]
theorem ends_cons (p : Production) (w : Word) (ws : List Word) :
    p.Ends (w :: ws) ↔ p.endsBefore w.1 = true := by
  simp [Ends]

theorem ends_cons_of {p : Production} {w : Word} {ws : List Word} (h : p.endsBefore w.1 = true) :
    p.Ends (w :: ws) :=
  (ends_cons p w ws).2 h

theorem not_ends_operator (o : Operation) {ws : List Word} :
    ¬ moreTerms.Ends (o.kind.word :: ws) := by
  cases o <;> simp [endsBefore, Kind.isOperator, Kind.word, Operation.kind, Kind.additive?,
    Kind.multiplicative?]

theorem not_ends_multiplicative {o : Operation} (h : o.isAdditive = false) {ws : List Word} :
    ¬ moreFactors.Ends (o.kind.word :: ws) := by
  rw [ends_cons]
  simp [endsBefore, Kind.word, Kind.multiplicative?_eq_some.2 ⟨rfl, h⟩]

end Production

namespace Tree

variable {p : Production}

theorem words_start (t : Tree p) : (t.words = [] ∧ p.isNullable = true) ∨
    ∃ w ws, t.words = w :: ws ∧ p.startsWith w.1 = true := by
  induction t with
  | empty | noAlternative | noTerms | noFactors => exact .inl ⟨rfl, rfl⟩
  | program _ _ | otherwise _ _ | group _ _ => exact .inr ⟨_, _, rfl, rfl⟩
  | loop _ _ | leave | print _ _ | read _ _ | assign _ _ _ => exact .inr ⟨_, _, rfl, rfl⟩
  | target _ | integer _ | identifier _ => exact .inr ⟨_, _, rfl, rfl⟩
  | plus _ _ | minus _ _ => exact .inr ⟨_, _, rfl, rfl⟩
  | conditional condition _ _ _ => exact .inr ⟨_, _, rfl, by cases condition <;> rfl⟩
  | moreTerms operation h _ _ =>
    exact .inr ⟨_, _, rfl, by cases operation <;> first | rfl | cases h⟩
  | moreFactors operation h _ _ =>
    exact .inr ⟨_, _, rfl, by cases operation <;> first | rfl | cases h⟩
  | sequence _ _ ih _ | expression _ _ ih _ | term _ _ ih _ =>
    obtain ⟨-, h⟩ | ⟨w, ws, hw, hs⟩ := ih
    · cases h
    · exact .inr ⟨w, _, by rw [words, hw]; rfl, hs⟩
  | unsigned _ ih =>
    obtain ⟨-, h⟩ | ⟨w, ws, hw, hs⟩ := ih
    · cases h
    · refine .inr ⟨w, ws, hw, ?_⟩
      simp only [Production.startsWith] at hs ⊢
      rw [hs]; rfl

variable {q : Production} {xs ys : List Word}

theorem ends_append (t : Tree q) (hq : ∀ k, q.startsWith k = true → p.endsBefore k = true)
    (hx : p.Ends xs) : p.Ends (t.words ++ xs) := by
  obtain ⟨hw, -⟩ | ⟨w, ws, hw, hs⟩ := t.words_start
  · simpa [hw] using hx
  · simpa [hw] using hq w.1 hs

theorem ends_block (t : Tree .block) (hx : Production.block.Ends xs) :
    Production.statement.Ends (t.words ++ xs) :=
  ends_append t (fun k ↦ by cases k <;> decide) (hx.mono fun k ↦ by cases k <;> decide)

theorem ends_alternative (t : Tree .alternative) (hx : Production.alternative.Ends xs) :
    Production.block.Ends (t.words ++ xs) :=
  ends_append t (fun k ↦ by cases k <;> decide) (hx.mono fun k ↦ by cases k <;> decide)

theorem ends_moreTerms (t : Tree .moreTerms) (hx : Production.moreTerms.Ends xs) :
    Production.term.Ends (t.words ++ xs) :=
  ends_append t (fun k ↦ by cases k <;> decide) (hx.mono fun k ↦ by cases k <;> decide)

theorem not_ends_append (t : Tree q) (hn : q.isNullable = false)
    (hq : ∀ k, q.startsWith k = true → p.endsBefore k = false) : ¬ p.Ends (t.words ++ xs) := by
  obtain ⟨-, h⟩ | ⟨w, ws, hw, hs⟩ := t.words_start
  · simp [hn] at h
  · simp [hw, hq w.1 hs]

theorem words_ne_cons (t : Tree q) (hn : q.isNullable = false) {w : Word}
    (hk : q.startsWith w.1 = false) : t.words ++ xs ≠ w :: ys := by
  intro h
  obtain ⟨-, h'⟩ | ⟨w', ws, hw, hs⟩ := t.words_start
  · simp [hn] at h'
  · rw [hw, List.cons_append, List.cons.injEq] at h
    simp [h.1, hk] at hs

/-- At the front of a text this is the only tree of its production, and it covers the same part of
the text however the text goes on. -/
def Determined (t : Tree p) : Prop :=
  ∀ (u : Tree p) {xs ys : List Word}, t.words ++ xs = u.words ++ ys → p.Ends xs → p.Ends ys →
    t = u ∧ xs = ys

theorem Determined.append {t t' : Tree p} {u u' : Tree q} (ht : t.Determined) (hu : u.Determined)
    (h : t.words ++ u.words ++ xs = t'.words ++ u'.words ++ ys)
    (hq : ∀ {ws : List Word} (v : Tree q), q.Ends ws → p.Ends (v.words ++ ws)) (hx : q.Ends xs)
    (hy : q.Ends ys) : t = t' ∧ u = u' ∧ xs = ys := by
  rw [List.append_assoc, List.append_assoc] at h
  obtain ⟨rfl, h'⟩ := ht t' h (hq u hx) (hq u' hy)
  obtain ⟨rfl, he⟩ := hu u' h' hx hy
  exact ⟨rfl, rfl, he⟩

theorem Determined.close {t t' : Tree p} (ht : t.Determined) {k : Kind}
    (hk : p.endsBefore k = true) (h : t.words ++ [k.word] ++ xs = t'.words ++ [k.word] ++ ys) :
    t = t' ∧ xs = ys := by
  rw [List.append_assoc, List.append_assoc] at h
  obtain ⟨rfl, he⟩ := ht t' h (Production.ends_cons_of hk) (Production.ends_cons_of hk)
  exact ⟨rfl, (List.cons.inj he).2⟩

theorem determined (t : Tree p) : t.Determined := by
  intro u xs ys h hx hy
  induction t generalizing xs ys with
  | program body ih =>
    cases u with
    | program body' =>
      obtain ⟨rfl, he⟩ := Determined.close ih rfl (List.cons.inj h).2
      exact ⟨rfl, he⟩
  | empty =>
    cases u with
    | empty => exact ⟨rfl, h⟩
    | sequence first rest =>
      simp only [words, List.nil_append, List.append_assoc] at h
      exact absurd (h ▸ hx) (not_ends_append first rfl fun k ↦ by cases k <;> decide)
  | sequence first rest ihf ihr =>
    cases u with
    | empty =>
      simp only [words, List.nil_append, List.append_assoc] at h
      exact absurd (h ▸ hy) (not_ends_append first rfl fun k ↦ by cases k <;> decide)
    | sequence first' rest' =>
      obtain ⟨rfl, rfl, he⟩ := Determined.append ihf ihr h ends_block hx hy
      exact ⟨rfl, he⟩
  | conditional condition test body other iht ihb iho =>
    cases u with
    | conditional condition' test' body' other' =>
      simp only [words, List.cons_append, List.append_assoc, List.cons.injEq] at h
      obtain rfl := Condition.keyword_injective (congrArg Prod.fst h.1)
      have hends (t : Tree .alternative) (ws : List Word) :
          Production.block.Ends (t.words ++ ([Kind.blockEnd.word] ++ ws)) :=
        ends_alternative t (Production.ends_cons_of rfl)
      obtain ⟨rfl, rfl, ho⟩ := Determined.append iht ihb (by simpa using h.2) ends_block
        (hends other xs) (hends other' ys)
      obtain ⟨rfl, he⟩ := Determined.close iho rfl (by simpa using ho)
      exact ⟨rfl, he⟩
    | loop | leave | print | read | assign =>
      exact absurd h (condition.words_ne rfl)
  | loop body ih =>
    cases u with
    | loop body' =>
      obtain ⟨rfl, he⟩ := Determined.close ih rfl (List.cons.inj h).2
      exact ⟨rfl, he⟩
    | conditional condition => exact absurd h.symm (condition.words_ne rfl)
    | leave | print | read | assign => cases h
  | leave =>
    cases u with
    | leave => exact ⟨rfl, (List.cons.inj h).2⟩
    | conditional condition => exact absurd h.symm (condition.words_ne rfl)
    | loop | print | read | assign => cases h
  | print value ih =>
    cases u with
    | print value' =>
      obtain ⟨rfl, he⟩ := ih value' (List.cons.inj h).2 hx hy
      exact ⟨rfl, he⟩
    | conditional condition => exact absurd h.symm (condition.words_ne rfl)
    | loop | leave | read | assign => cases h
  | read into ih =>
    cases u with
    | read into' =>
      obtain ⟨rfl, he⟩ := ih into' (List.cons.inj h).2 (fun _ _ ↦ rfl) (fun _ _ ↦ rfl)
      exact ⟨rfl, he⟩
    | conditional condition => exact absurd h.symm (condition.words_ne rfl)
    | loop | leave | print | assign => cases h
  | assign name value ih =>
    cases u with
    | assign name' value' =>
      obtain ⟨hname, htail⟩ := List.cons.inj h
      obtain rfl := (Prod.mk.inj hname).2
      obtain ⟨rfl, he⟩ := ih value' (List.cons.inj htail).2 hx hy
      exact ⟨rfl, he⟩
    | conditional condition => exact absurd h.symm (condition.words_ne rfl)
    | loop | leave | print | read => cases h
  | noAlternative =>
    cases u with
    | noAlternative => exact ⟨rfl, h⟩
    | otherwise body => exact absurd (hx _ (congrArg List.head? h)) (by decide)
  | otherwise body ih =>
    cases u with
    | noAlternative => exact absurd (hy _ (congrArg List.head? h.symm)) (by decide)
    | otherwise body' =>
      obtain ⟨rfl, he⟩ := ih body' (List.cons.inj h).2 (ends_alternative .noAlternative hx)
        (ends_alternative .noAlternative hy)
      exact ⟨rfl, he⟩
  | target name =>
    cases u with
    | target name' => simpa [words] using h
  | expression first rest ihf ihr =>
    cases u with
    | expression first' rest' =>
      obtain ⟨rfl, rfl, he⟩ := Determined.append ihf ihr h ends_moreTerms hx hy
      exact ⟨rfl, he⟩
  | noTerms =>
    cases u with
    | noTerms => exact ⟨rfl, h⟩
    | moreTerms operation =>
      obtain rfl : xs = _ := h
      exact absurd hx (Production.not_ends_operator operation)
  | moreTerms operation additive next rest ihn ihr =>
    cases u with
    | noTerms =>
      obtain rfl : _ = ys := h
      exact absurd hy (Production.not_ends_operator operation)
    | moreTerms operation' additive' next' rest' =>
      obtain ⟨hword, htail⟩ := List.cons.inj h
      obtain rfl := Operation.kind_injective (congrArg Prod.fst hword)
      obtain ⟨rfl, rfl, he⟩ := Determined.append ihn ihr htail ends_moreTerms hx hy
      exact ⟨rfl, he⟩
  | term first rest ihf ihr =>
    cases u with
    | term first' rest' =>
      obtain ⟨rfl, rfl, he⟩ := Determined.append ihf ihr h (fun _ _ _ _ ↦ rfl) hx hy
      exact ⟨rfl, he⟩
  | noFactors =>
    cases u with
    | noFactors => exact ⟨rfl, h⟩
    | moreFactors operation multiplicative =>
      obtain rfl : xs = _ := h
      exact absurd hx (Production.not_ends_multiplicative multiplicative)
  | moreFactors operation multiplicative next rest ihn ihr =>
    cases u with
    | noFactors =>
      obtain rfl : _ = ys := h
      exact absurd hy (Production.not_ends_multiplicative multiplicative)
    | moreFactors operation' multiplicative' next' rest' =>
      obtain ⟨hword, htail⟩ := List.cons.inj h
      obtain rfl := Operation.kind_injective (congrArg Prod.fst hword)
      obtain ⟨rfl, rfl, he⟩ := Determined.append ihn ihr htail (fun _ _ _ _ ↦ rfl) hx hy
      exact ⟨rfl, he⟩
  | unsigned factor ih =>
    cases u with
    | unsigned factor' =>
      obtain ⟨rfl, he⟩ := ih factor' h (fun _ _ ↦ rfl) (fun _ _ ↦ rfl)
      exact ⟨rfl, he⟩
    | plus | minus => exact absurd h (words_ne_cons factor rfl rfl)
  | plus factor ih =>
    cases u with
    | unsigned factor' => exact absurd h.symm (words_ne_cons factor' rfl rfl)
    | plus factor' =>
      obtain ⟨rfl, he⟩ := ih factor' (List.cons.inj h).2 (fun _ _ ↦ rfl) (fun _ _ ↦ rfl)
      exact ⟨rfl, he⟩
    | minus => cases h
  | minus factor ih =>
    cases u with
    | unsigned factor' => exact absurd h.symm (words_ne_cons factor' rfl rfl)
    | plus => cases h
    | minus factor' =>
      obtain ⟨rfl, he⟩ := ih factor' (List.cons.inj h).2 (fun _ _ ↦ rfl) (fun _ _ ↦ rfl)
      exact ⟨rfl, he⟩
  | integer text =>
    cases u with
    | integer text' => simpa [words] using h
    | identifier | group => cases h
  | identifier name =>
    cases u with
    | identifier name' => simpa [words] using h
    | integer | group => cases h
  | group inner ih =>
    cases u with
    | integer | identifier => cases h
    | group inner' =>
      obtain ⟨rfl, he⟩ := Determined.close ih rfl (List.cons.inj h).2
      exact ⟨rfl, he⟩

end Tree

end Grammar

end RegisterLang
