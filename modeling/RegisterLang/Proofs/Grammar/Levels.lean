import RegisterLang.Proofs.Grammar.Taking

namespace RegisterLang

namespace Kind

def opensLevel : Kind → Bool
  | ifPositive | ifZero | ifNegative | loop | leftParen => true
  | _ => false

def closesLevel : Kind → Bool
  | blockEnd | rightParen => true
  | _ => false

end Kind

theorem Condition.opensLevel_keyword (c : Condition) : c.keyword.opensLevel = true := by
  cases c <;> rfl

theorem Operation.level_kind (o : Operation) :
    o.kind.opensLevel = false ∧ o.kind.closesLevel = false := by
  cases o <;> exact ⟨rfl, rfl⟩

namespace Grammar

def levels (ws : List Word) : Int :=
  (ws.countP (·.1.opensLevel) : Int) - ws.countP (·.1.closesLevel)

theorem levels_cons (w : Word) (ws : List Word) : levels (w :: ws) = levels [w] + levels ws := by
  simp only [levels, List.countP_cons, List.countP_nil]
  omega

theorem levels_of_opensLevel {t : Token} (h : t.kind.opensLevel = true) : levels [t.word] = 1 := by
  obtain ⟨kind, span, value⟩ := t
  cases kind <;> first | rfl | cases h

theorem levels_of_closesLevel {t : Token} (h : t.kind.closesLevel = true) :
    levels [t.word] = -1 := by
  obtain ⟨kind, span, value⟩ := t
  cases kind <;> first | rfl | cases h

theorem levels_of_neither {t : Token} (ho : t.kind.opensLevel = false)
    (hc : t.kind.closesLevel = false) : levels [t.word] = 0 := by
  simp [levels, Token.word, ho, hc]

/-- Items that close the levels that are open and open none. -/
inductive Settled : Nat → List Item → Prop where
  | nil : Settled 0 []
  | give {i : Instruction} {items : List Item} {level : Nat} : Settled level items →
      Settled level (.give i :: items)
  | sight {k : Kind} {items : List Item} {level : Nat} : Settled level items →
      Settled level (.sight k :: items)
  | production {p : Production} {items : List Item} {level : Nat} : Settled level items →
      Settled level (.production p :: items)
  | token {k : Kind} {items : List Item} {level : Nat} : k.opensLevel = false →
      k.closesLevel = false → Settled level items → Settled level (.token k :: items)
  | endOfBlock {i : Instruction} {items : List Item} {level : Nat} : Settled level items →
      Settled (level + 1) (.token .blockEnd :: .give i :: .leave :: items)
  | endOfGroup {items : List Item} {level : Nat} : Settled level items →
      Settled (level + 1) (.token .rightParen :: .leave :: items)

/-- Items from a level and a depth on. The depth is one ahead of the level between a step into a
level and the token that opens it, and between the token that closes it and the step out. -/
inductive Levelled : Nat → Nat → List Item → Prop where
  | settled {items : List Item} {level : Nat} : Settled level items → Levelled level level items
  | enter {k : Kind} {items : List Item} {level : Nat} : k.opensLevel = true →
      Settled (level + 1) items → Levelled level level (.enter :: .token k :: items)
  | opener {k : Kind} {items : List Item} {level : Nat} : k.opensLevel = true →
      Settled (level + 1) items → Levelled level (level + 1) (.token k :: items)
  | leave {items : List Item} {level : Nat} : Settled level items →
      Levelled level (level + 1) (.leave :: items)
  | give {i : Instruction} {items : List Item} {level depth : Nat} : Levelled level depth items →
      Levelled level depth (.give i :: items)

variable {level depth stop size : Nat} {items rest : List Item} {ts taken left : List Token}
variable {ending : Option LexicalError} {is : List Instruction}

theorem Settled.statementItems (ahead : Token) (h : Settled level items) :
    Levelled level level (statementItems ahead ++ items) := by
  unfold Grammar.statementItems
  split
  · next c hc =>
    have hk : ahead.kind.opensLevel = true := Kind.condition?_eq_some.1 hc ▸ c.opensLevel_keyword
    exact .enter hk (.production (.give (.production (.production (.endOfBlock h)))))
  · exact .enter rfl (.give (.production (.endOfBlock h)))
  · exact .settled (.token rfl rfl (.give h))
  · exact .settled (.token rfl rfl (.production (.give h)))
  · exact .settled (.token rfl rfl (.production h))
  · exact .settled (.token rfl rfl (.token rfl rfl (.production (.give h))))

theorem Settled.operatorTail {k : Kind} {operation : Operation} (hk : k = operation.kind)
    (operand more : Production) (h : Settled level items) :
    Levelled level level (operatorTail k operation operand more ++ items) := by
  obtain ⟨ho, hc⟩ := hk ▸ operation.level_kind
  exact .settled (.give (.token ho hc (.production (.give (.production h)))))

theorem Settled.parenthesised (h : Settled level items) :
    Levelled level level (parenthesised ++ items) :=
  .enter rfl (.production (.endOfGroup h))

theorem Settled.expand (h : Settled level items) (p : Production) (ahead : Option Token) :
    Levelled level level (expand p ahead ++ items) := by
  cases p with
  | program => exact .settled (.token rfl rfl (.give (.production (.sight (.give h)))))
  | block =>
    cases ahead with
    | none => exact .settled h
    | some t =>
      simp only [Grammar.expand]
      split
      · exact .settled h
      · exact .settled (.production (.production h))
  | statement =>
    cases ahead with
    | none => exact .settled (.token rfl rfl h)
    | some t => exact h.statementItems t
  | alternative =>
    simp only [Grammar.expand]
    split
    · exact .settled (.token rfl rfl (.give (.production h)))
    · exact .settled h
  | readTarget =>
    cases ahead with
    | none => exact .settled (.token rfl rfl h)
    | some t => exact .settled (.token rfl rfl (.give h))
  | expression | term => exact .settled (.production (.production h))
  | moreTerms =>
    simp only [Grammar.expand]
    split
    · exact .settled h
    · next hk =>
      obtain ⟨t, -, ht⟩ := Option.bind_eq_some_iff.1 hk
      obtain ⟨o, ho, he⟩ := Option.map_eq_some_iff.1 ht
      cases he
      exact h.operatorTail (Kind.additive?_eq_some.1 ho).1 ..
  | moreFactors =>
    simp only [Grammar.expand]
    split
    · exact .settled h
    · next hk =>
      obtain ⟨t, -, ht⟩ := Option.bind_eq_some_iff.1 hk
      obtain ⟨o, ho, he⟩ := Option.map_eq_some_iff.1 ht
      cases he
      exact h.operatorTail (Kind.multiplicative?_eq_some.1 ho).1 ..
  | signed =>
    simp only [Grammar.expand]
    split
    · exact .settled (.token rfl rfl (.production h))
    · exact .settled (.token rfl rfl (.production (.give h)))
    · exact .settled (.production h)
  | factor =>
    cases ahead with
    | none => exact h.parenthesised
    | some t =>
      simp only [Grammar.expand]
      split
      · exact .settled (.token rfl rfl (.give h))
      · exact .settled (.token rfl rfl (.give h))
      · exact h.parenthesised

namespace Levelled

theorem of_give {i : Instruction} (h : Levelled level depth (.give i :: items)) :
    Levelled level depth items := by
  cases h with
  | settled h =>
    cases h with
    | give h => exact .settled h
  | give h => exact h

theorem of_enter (h : Levelled level depth (.enter :: items)) :
    level = depth ∧ Levelled level (depth + 1) items := by
  cases h with
  | settled h => cases h
  | enter hk h => exact ⟨rfl, .opener hk h⟩

theorem of_leave (h : Levelled level depth (.leave :: items)) :
    Levelled level (depth - 1) items := by
  cases h with
  | settled h => cases h
  | leave h => exact .settled h

theorem of_sight {k : Kind} (h : Levelled level depth (.sight k :: items)) :
    Levelled level depth items := by
  cases h with
  | settled h =>
    cases h with
    | sight h => exact .settled h

theorem of_production {p : Production} (h : Levelled level depth (.production p :: items)) :
    level = depth ∧ Settled level items := by
  cases h with
  | settled h =>
    cases h with
    | production h => exact ⟨rfl, h⟩

theorem of_token {t : Token} (h : Levelled level depth (.token t.kind :: items)) :
    ∃ next : Nat, Levelled next depth items ∧ (next : Int) = level + levels [t.word] := by
  generalize hk : t.kind = k at h
  cases h with
  | settled h =>
    cases h with
    | token ho hc h =>
      subst hk
      exact ⟨level, .settled h, by simp [levels_of_neither ho hc]⟩
    | endOfBlock h =>
      have hc : t.kind.closesLevel = true := by rw [hk]; rfl
      exact ⟨_, .give (.leave h), by rw [levels_of_closesLevel hc]; omega⟩
    | endOfGroup h =>
      have hc : t.kind.closesLevel = true := by rw [hk]; rfl
      exact ⟨_, .leave h, by rw [levels_of_closesLevel hc]; omega⟩
  | opener ho h =>
    subst hk
    exact ⟨level + 1, .settled h, by simp [levels_of_opensLevel ho]⟩

end Levelled

theorem Takes.levelled (h : Takes items depth ts rest stop) (hl : Levelled level depth items) :
    ∃ next : Nat, Levelled next stop rest ∧ (next : Int) = level + levels (ts.map Token.word) := by
  induction h generalizing level with
  | last => exact hl.of_token
  | token _ ih =>
    obtain ⟨between, hbetween, hb⟩ := hl.of_token
    obtain ⟨next, hnext, hn⟩ := ih hbetween
    refine ⟨next, hnext, ?_⟩
    rw [List.map_cons, levels_cons]
    omega
  | give _ ih => exact ih hl.of_give
  | enter _ _ ih => exact ih hl.of_enter.2
  | leave _ ih => exact ih hl.of_leave
  | sight _ ih => exact ih hl.of_sight
  | production _ ih =>
    obtain ⟨rfl, hs⟩ := hl.of_production
    exact ih (hs.expand ..)

theorem Runs.level_of_nesting {limit : Nat} {span : Span}
    (h : Runs ending size items depth ts is left (.error (.nesting limit span)))
    (hleft : left = ts) (hl : Levelled level depth items) (hd : depth ≤ nestingLimit) :
    level = nestingLimit := by
  generalize hr : Except.error (SourceError.nesting limit span) = result at h
  induction h with
  | done | broken | unmet => cases hr
  | tooDeep hdeep =>
    obtain ⟨rfl, -⟩ := hl.of_enter
    omega
  | give _ ih => exact ih hleft hl.of_give hd hr
  | enter hdepth _ ih => exact ih hleft hl.of_enter.2 hdepth hr
  | leave _ ih => exact ih hleft hl.of_leave (by omega) hr
  | sight _ ih => exact ih hleft hl.of_sight hd hr
  | production _ ih =>
    obtain ⟨rfl, hs⟩ := hl.of_production
    exact ih hleft (hs.expand ..) hd hr
  | token _ h =>
    have hle := h.left_suffix.length_le
    rw [hleft, List.length_cons] at hle
    omega

end Grammar

end RegisterLang
