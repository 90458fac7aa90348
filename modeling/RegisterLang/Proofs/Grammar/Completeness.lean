import RegisterLang.Grammar.Drive
import RegisterLang.Proofs.Grammar.Lookahead

namespace RegisterLang.Grammar

open Item Production

def rightSide : {p : Production} → Tree p → List Item
  | _, .program _ => expand .program none
  | _, .empty | _, .noAlternative | _, .noTerms | _, .noFactors => []
  | _, .sequence _ _ => [production statement, production block]
  | _, .conditional condition _ _ _ => conditional condition.keyword condition
  | _, .loop _ => loopStatement
  | _, .leave => [token .leave, give .exitLoop]
  | _, .print _ => [token .print, production expression, give .print]
  | _, .read _ => [token .read, production readTarget]
  | _, .assign name _ =>
    [token .identifier, token .assignment, production expression, give (.store name)]
  | _, .otherwise _ => [token .otherwise, give .otherwise, production block]
  | _, .target name => [token .identifier, give (.read name)]
  | _, .expression _ _ => [production term, production moreTerms]
  | _, .moreTerms operation _ _ _ => operatorTail operation.kind operation term moreTerms
  | _, .term _ _ => [production signed, production moreFactors]
  | _, .moreFactors operation _ _ _ => operatorTail operation.kind operation factor moreFactors
  | _, .unsigned _ => [production factor]
  | _, .plus _ => [token .plus, production factor]
  | _, .minus _ => [token .minus, production factor, give .negate]
  | _, .integer text => [token .integer, give (.loadInteger text)]
  | _, .identifier name => [token .identifier, give (.loadVariable name)]
  | _, .group _ => parenthesised

variable {σ : Type} {give : σ → Instruction → σ} {rest : List Item} {p : Production}
variable {ts more : List Token} {ending : Option LexicalError} {size depth : Nat} {b : σ}

theorem drive_token {t : Token} {k : Kind} (hk : t.kind = k) (hm : more ≠ []) :
    drive give (.token k :: rest) ⟨t :: more, ending, size, depth, b⟩ =
      drive give rest ⟨more, ending, size, depth, b⟩ := by
  rw [drive]
  cases more with
  | nil => exact absurd rfl hm
  | cons t' more => simp [hk]

theorem drive_word {t : Token} {k : Kind} (hk : t.word = k.word) (hm : more ≠ []) :
    drive give (.token k :: rest) ⟨t :: more, ending, size, depth, b⟩ =
      drive give rest ⟨more, ending, size, depth, b⟩ :=
  drive_token (congrArg Prod.fst hk) hm

theorem drive_enter (hd : depth + 1 ≤ nestingLimit) :
    drive give (.enter :: rest) ⟨ts, ending, size, depth, b⟩ =
      drive give rest ⟨ts, ending, size, depth + 1, b⟩ := by
  rw [drive]
  simp [Nat.not_lt.2 hd]

theorem drive_production :
    drive give (.production p :: rest) ⟨ts, ending, size, depth, b⟩ =
      drive give (expand p ts.head? ++ rest) ⟨ts, ending, size, depth, b⟩ := by
  rw [drive]

theorem drive_give {i : Instruction} :
    drive give (.give i :: rest) ⟨ts, ending, size, depth, b⟩ =
      drive give rest ⟨ts, ending, size, depth, give b i⟩ := by
  rw [drive]

theorem drive_leave :
    drive give (.leave :: rest) ⟨ts, ending, size, depth + 1, b⟩ =
      drive give rest ⟨ts, ending, size, depth, b⟩ := by
  rw [drive]
  rfl

theorem Tree.tokens_start (t : Tree p) (hn : p.isNullable = false)
    (hw : ts.map Token.word = t.words) :
    ∃ a as, ts = a :: as ∧ p.startsWith a.kind = true := by
  obtain ⟨-, h⟩ | ⟨w, ws, hs, hk⟩ := t.words_start
  · simp [hn] at h
  · obtain ⟨a, as, rfl, rfl, -⟩ := List.map_eq_cons_iff.1 (hw.trans hs)
    exact ⟨a, as, rfl, hk⟩

theorem Tree.expand_eq (t : Tree p) (hw : ts.map Token.word = t.words)
    (he : p.Ends (more.map Token.word)) (hm : more ≠ []) :
    expand p (ts ++ more).head? = rightSide t := by
  obtain ⟨m, more, rfl⟩ := List.exists_cons_of_ne_nil hm
  rw [List.map_cons, ends_cons] at he
  cases t with
  | program | expression | term => rfl
  | empty =>
    obtain rfl := List.map_eq_nil_iff.1 hw
    have hb : m.kind.isBlockEnd = true := he
    simp [expand, hb, rightSide]
  | noAlternative =>
    obtain rfl := List.map_eq_nil_iff.1 hw
    have hb : m.kind = .blockEnd := of_decide_eq_true he
    simp [expand, hb, rightSide]
  | noTerms =>
    obtain rfl := List.map_eq_nil_iff.1 hw
    have hb : m.kind.additive? = none := by
      revert he
      simp only [Token.word]
      cases m.kind <;> decide
    simp [expand, hb, rightSide]
  | noFactors =>
    obtain rfl := List.map_eq_nil_iff.1 hw
    have hb : m.kind.multiplicative? = none := Option.isNone_iff_eq_none.1 he
    simp [expand, hb, rightSide]
  | sequence first tail =>
    obtain ⟨xs, ys, rfl, hx, -⟩ := List.map_eq_append_iff.1 hw
    obtain ⟨a, as, rfl, ha⟩ := first.tokens_start rfl hx
    have hb : a.kind.isBlockEnd = false := by
      revert ha
      cases a.kind <;> decide
    simp [expand, hb, rightSide]
  | unsigned f =>
    obtain ⟨a, as, rfl, ha⟩ := f.tokens_start rfl hw
    simp only [expand, rightSide, List.cons_append, List.head?_cons, Option.map_some]
    revert ha
    cases a.kind <;> decide
  | conditional condition =>
    obtain ⟨a, as, rfl, ha, -⟩ := List.map_eq_cons_iff.1 hw
    have hk : a.kind = condition.keyword := congrArg Prod.fst ha
    simp only [expand, List.cons_append, List.head?_cons, statementItems, hk, rightSide,
      Kind.condition?_eq_some.2 rfl]
  | moreTerms operation additive =>
    obtain ⟨a, as, rfl, ha, -⟩ := List.map_eq_cons_iff.1 hw
    have hk : a.kind = operation.kind := congrArg Prod.fst ha
    simp [expand, rightSide, hk, Kind.additive?_eq_some.2 ⟨rfl, additive⟩]
  | moreFactors operation multiplicative =>
    obtain ⟨a, as, rfl, ha, -⟩ := List.map_eq_cons_iff.1 hw
    have hk : a.kind = operation.kind := congrArg Prod.fst ha
    simp [expand, rightSide, hk, Kind.multiplicative?_eq_some.2 ⟨rfl, multiplicative⟩]
  | loop | leave | print | read | otherwise | plus | minus | group =>
    obtain ⟨a, as, rfl, ha, -⟩ := List.map_eq_cons_iff.1 hw
    have hk := congrArg Prod.fst ha
    simp only [Token.word, Kind.word] at hk
    simp [expand, statementItems, hk, rightSide, Kind.condition?]
  | assign | target | integer | identifier =>
    obtain ⟨a, as, rfl, ha, -⟩ := List.map_eq_cons_iff.1 hw
    obtain ⟨hk, ht⟩ := Prod.mk.inj ha
    simp [expand, statementItems, assignment, hk, ht, rightSide, Kind.condition?]

/-- Before words that go on as `next`, the items take the words and give the instructions, if there
are that many levels of nesting left. -/
structure Covers (items : List Item) (ws next : List Word) (levels : Nat)
    (is : List Instruction) : Prop where
  drive_eq : ∀ {σ : Type} {give : σ → Instruction → σ} {rest : List Item} {ts more : List Token}
    {ending : Option LexicalError} {size depth : Nat} {b : σ}, ts.map Token.word = ws →
    more.map Token.word = next → more ≠ [] → depth + levels ≤ nestingLimit →
    drive give (items ++ rest) ⟨ts ++ more, ending, size, depth, b⟩ =
      drive give rest ⟨more, ending, size, depth, is.foldl give b⟩

namespace Covers

variable {items others : List Item} {ws xs ys next : List Word} {n m : Nat}
variable {is js : List Instruction}

theorem nothing : Covers [] [] next n [] where
  drive_eq hw _ _ _ := by
    obtain rfl := List.map_eq_nil_iff.1 hw
    rfl

theorem takes {w : Word} {k : Kind} (hk : w.1 = k) (h : Covers items ws next n is) :
    Covers (.token k :: items) (w :: ws) next n is where
  drive_eq hw hn hne hd := by
    obtain ⟨t, ts, rfl, rfl, hw'⟩ := List.map_eq_cons_iff.1 hw
    exact (drive_token hk (by simp [hne])).trans (h.drive_eq hw' hn hne hd)

theorem gives (i : Instruction) (h : Covers items ws next n is) :
    Covers (.give i :: items) ws next n (i :: is) :=
  ⟨fun hw hn hne hd ↦ drive_give.trans (h.drive_eq hw hn hne hd)⟩

theorem append (h : Covers items xs (ys ++ next) n is) (h' : Covers others ys next m js) :
    Covers (items ++ others) (xs ++ ys) next (max n m) (is ++ js) where
  drive_eq hw hn hne hd := by
    obtain ⟨xs, ys, rfl, hx, hy⟩ := List.map_eq_append_iff.1 hw
    rw [List.append_assoc, List.append_assoc, List.foldl_append,
      h.drive_eq hx (by rw [List.map_append, hy, hn]) (by simp [hne]) (by omega),
      h'.drive_eq hy hn hne (by omega)]

theorem takesLast (k : Kind) (h : Covers items ws (k.word :: next) n is) :
    Covers (items ++ [.token k]) (ws ++ [k.word]) next n is := by
  have hlast := append h (takes (w := k.word) rfl (nothing (n := n)))
  rwa [List.append_nil, Nat.max_self] at hlast

theorem givesLast (i : Instruction) (h : Covers items ws next n is) :
    Covers (items ++ [.give i]) ws next n (is ++ [i]) where
  drive_eq hw hn hne hd := by
    rw [List.append_assoc, List.foldl_append, h.drive_eq hw hn hne hd]
    exact drive_give

theorem nested (h : Covers items ws next n is) :
    Covers (.enter :: (items ++ [.leave])) ws next (n + 1) is where
  drive_eq hw hn hne hd := by
    rw [List.cons_append, List.append_assoc, drive_enter (by omega),
      h.drive_eq hw hn hne (by omega)]
    exact drive_leave

theorem operatorTail {p q : Production} (operation : Operation)
    (h : Covers [.production p] xs (ys ++ next) n is)
    (h' : Covers [.production q] ys next m js) :
    Covers (operatorTail operation.kind operation p q) (operation.kind.word :: (xs ++ ys)) next
      (max n m) (.push :: (is ++ .apply operation :: js)) :=
  .gives .push (.takes rfl (h.append (h'.gives (.apply operation))))

theorem of_rightSide (t : Tree p) (he : p.Ends next) (h : Covers (rightSide t) t.words next n is) :
    Covers [.production p] t.words next n is where
  drive_eq hw hn hne hd := by
    rw [List.singleton_append, drive_production, t.expand_eq hw (hn ▸ he) hne]
    exact h.drive_eq hw hn hne hd

end Covers

theorem Tree.covered (t : Tree p) (hp : p.isProgram = false) {next : List Word} (he : p.Ends next) :
    Covers [.production p] t.words next t.nesting t.instructions := by
  induction t generalizing next with
  | program => cases hp
  | empty | noAlternative | noTerms | noFactors => exact .of_rightSide _ he .nothing
  | leave | target | integer | identifier =>
    exact .of_rightSide _ he (.takes rfl (.gives _ .nothing))
  | sequence first tail ihf iht =>
    have hends := tail.ends_block he
    exact .of_rightSide (.sequence first tail) he ((ihf rfl hends).append (iht rfl he))
  | expression first tail ihf iht =>
    have hends := tail.ends_moreTerms he
    exact .of_rightSide (.expression first tail) he ((ihf rfl hends).append (iht rfl he))
  | term first tail ihf iht =>
    have hends : signed.Ends (tail.words ++ next) := fun _ _ ↦ rfl
    exact .of_rightSide (.term first tail) he ((ihf rfl hends).append (iht rfl he))
  | moreTerms operation additive operand tail iho iht =>
    have hends := tail.ends_moreTerms he
    exact .of_rightSide (.moreTerms operation additive operand tail) he
      ((iho rfl hends).operatorTail operation (iht rfl he))
  | moreFactors operation multiplicative operand tail iho iht =>
    have hends : factor.Ends (tail.words ++ next) := fun _ _ ↦ rfl
    exact .of_rightSide (.moreFactors operation multiplicative operand tail) he
      ((iho rfl hends).operatorTail operation (iht rfl he))
  | conditional condition test body other iht ihb iho =>
    have hstop : alternative.Ends (Kind.blockEnd.word :: next) := ends_cons_of rfl
    have hends : block.Ends (other.words ++ [Kind.blockEnd.word] ++ next) := by
      simpa using other.ends_alternative hstop
    have hends' : statement.Ends (body.words ++ (other.words ++ [Kind.blockEnd.word]) ++ next) := by
      simpa using body.ends_block hends
    have hother := ((iho rfl hstop).takesLast .blockEnd).givesLast .branchEnd
    have hbody := (ihb rfl hends).append hother
    have htest := (iht rfl hends').append (hbody.gives (.branch condition))
    exact .of_rightSide (.conditional condition test body other) he
      (.nested (.takes (w := condition.keyword.word) rfl htest))
  | loop body ih =>
    have hends : block.Ends (Kind.blockEnd.word :: next) := ends_cons_of rfl
    have hbody := ((ih rfl hends).takesLast .blockEnd).givesLast .loopEnd
    exact .of_rightSide (.loop body) he
      (.nested (.takes (w := Kind.loop.word) rfl (hbody.gives .loopStart)))
  | group inner ih =>
    have hends : Production.expression.Ends (Kind.rightParen.word :: next) := ends_cons_of rfl
    have hinner := (ih rfl hends).takesLast .rightParen
    exact .of_rightSide (.group inner) he (.nested (.takes (w := Kind.leftParen.word) rfl hinner))
  | print value ih =>
    exact .of_rightSide (.print value) he (.takes rfl ((ih rfl he).givesLast .print))
  | assign name value ih =>
    exact .of_rightSide (.assign name value) he
      (.takes rfl (.takes rfl ((ih rfl he).givesLast (.store name))))
  | otherwise body ih =>
    have hbody := ih rfl (ends_alternative .noAlternative he)
    exact .of_rightSide (.otherwise body) he (.takes rfl (hbody.gives .otherwise))
  | read into ih => exact .of_rightSide (.read into) he (.takes rfl (ih rfl fun _ _ ↦ rfl))
  | unsigned factor ih => exact .of_rightSide (.unsigned factor) he (ih rfl fun _ _ ↦ rfl)
  | plus factor ih => exact .of_rightSide (.plus factor) he (.takes rfl (ih rfl fun _ _ ↦ rfl))
  | minus factor ih =>
    exact .of_rightSide (.minus factor) he (.takes rfl ((ih rfl fun _ _ ↦ rfl).givesLast .negate))

theorem drive_tree (t : Tree p) (hp : p.isProgram = false) (hw : ts.map Token.word = t.words)
    (he : p.Ends (more.map Token.word)) (hm : more ≠ []) (hd : depth + t.nesting ≤ nestingLimit) :
    drive give (.production p :: rest) ⟨ts ++ more, ending, size, depth, b⟩ =
      drive give rest ⟨more, ending, size, depth, t.instructions.foldl give b⟩ :=
  (t.covered hp he).drive_eq hw rfl hm hd

end RegisterLang.Grammar
