import RegisterLang.Proofs.Grammar.Stages

namespace RegisterLang.Grammar

open Item Production

variable {ending : Option LexicalError} {size n base : Nat} {x y : Stage}
variable {source : String} {ts left : List Token}

theorem Levelled.pos_of_leave {level depth : Nat} {items : List Item}
    (h : Levelled level depth (.leave :: items)) : 0 < depth := by
  cases h with
  | settled h => cases h
  | leave => exact Nat.succ_pos _

/-- The levels that are open at a stage are those of the base and some that its items close. -/
def Stage.RestsOn (x : Stage) (base : Nat) : Prop :=
  ∃ level height, Levelled level height x.items ∧ x.depth = base + height

theorem restsOn_production (p : Production) (depth : Nat) (ts : List Token)
    (is : List Instruction) : Stage.RestsOn ⟨[.production p], depth, ts, is⟩ depth :=
  ⟨0, 0, .settled (.production .nil), rfl⟩

theorem Moves.restsOn (h : Moves ending x y) (hx : x.RestsOn base) : y.RestsOn base := by
  obtain ⟨level, height, hl, hd⟩ := hx
  cases h with
  | give => exact ⟨level, height, hl.of_give, hd⟩
  | enter => exact ⟨level, height + 1, hl.of_enter.2, congrArg (· + 1) hd⟩
  | leave =>
    have hpos := hl.pos_of_leave
    refine ⟨level, height - 1, hl.of_leave, ?_⟩
    dsimp only at hd ⊢
    omega
  | sight => exact ⟨level, height, hl.of_sight, hd⟩
  | token =>
    obtain ⟨next, hnext, -⟩ := hl.of_token
    exact ⟨next, height, hnext, hd⟩
  | production =>
    obtain ⟨rfl, hs⟩ := hl.of_production
    exact ⟨level, level, hs.expand .., hd⟩

theorem Comes.restsOn (h : Comes ending n x y) (hx : x.RestsOn base) : y.RestsOn base := by
  induction h with
  | refl => exact hx
  | cons hm _ ih => exact ih (hm.restsOn hx)

theorem Stage.RestsOn.pos_of_leave (h : x.RestsOn base) (hx : x.items.head? = some .leave) :
    base < x.depth := by
  obtain ⟨level, height, hl, hd⟩ := h
  obtain ⟨items, hitems⟩ := List.head?_eq_some_iff.1 hx
  rw [hitems] at hl
  have hpos := hl.pos_of_leave
  omega

theorem Stage.RestsOn.depth_eq (h : x.RestsOn base) (hx : x.items = []) : x.depth = base := by
  obtain ⟨level, height, hl, hd⟩ := h
  rw [hx] at hl
  cases hl with
  | settled hs =>
    cases hs
    exact hd

theorem Moves.depth_le (h : Moves ending x y) (hx : x.depth ≤ nestingLimit) :
    y.depth ≤ nestingLimit := by
  cases h with
  | enter hd => exact hd
  | leave => exact (Nat.sub_le _ _).trans hx
  | _ => exact hx

theorem Comes.depth_le (h : Comes ending n x y) (hx : x.depth ≤ nestingLimit) :
    y.depth ≤ nestingLimit := by
  induction h with
  | refl => exact hx
  | cons hm _ ih => exact ih (hm.depth_le hx)

theorem Halts.depth_le {result : Except SourceError Unit} (h : Halts ending size x y result)
    (hx : x.depth ≤ nestingLimit) : y.depth ≤ nestingLimit + 1 := by
  cases h with
  | tooDeep => exact Nat.succ_le_succ hx
  | _ => exact Nat.le_succ_of_le hx

def Item.isFirm : Item → Bool
  | .token _ => true
  | .production p => !p.isNullable
  | _ => false

theorem Expands.firm {p : Production} {items : List Item} (h : Expands p items)
    (hp : p.isNullable = false) : items.any Item.isFirm = true := by
  cases h with
  | empty he => cases he.symm.trans hp
  | sequence | otherwise | moreTerms | moreFactors => cases hp
  | _ => rfl

theorem Moves.firm_or_fewer (h : Moves ending x y) (hx : x.items.any Item.isFirm = true) :
    y.items.any Item.isFirm = true ∨ y.tokens.length < x.tokens.length := by
  cases h with
  | token => exact .inr (Nat.lt_succ_self _)
  | @production p items depth ts is =>
    rw [List.any_cons, Bool.or_eq_true] at hx
    rw [List.any_append, Bool.or_eq_true]
    obtain hp | hitems := hx
    · exact .inl (.inl ((expands_expand p ts.head?).firm (by simpa [Item.isFirm] using hp)))
    · exact .inl (.inr hitems)
  | _ => exact .inl (by simpa [Item.isFirm] using hx)

theorem Comes.fewer_of_firm (h : Comes ending n x y) (hx : x.items.any Item.isFirm = true)
    (hy : y.items = []) : y.tokens.length < x.tokens.length := by
  induction h with
  | refl => simp [hy] at hx
  | cons hm hc ih =>
    obtain hfirm | hfewer := hm.firm_or_fewer hx
    · exact (ih hfirm hy).trans_le hm.suffix.length_le
    · exact hc.suffix.length_le.trans_lt hfewer

/-- Whatever comes back to a production from within it has taken a token. -/
theorem Comes.fewer_of_again {p : Production} {inner : List Item} (h : Comes ending (n + 1) x y)
    (hx : x.items = [.production p]) (hy : y.items = .production p :: inner) :
    y.tokens.length < x.tokens.length := by
  have hle := h.measure_le
  simp only [Stage.measure, hx, hy, effort, allowance] at hle
  omega

def Production.credit : Production → Nat
  | expression | moreTerms | term | moreFactors => 1
  | _ => 0

/-- The most by which the instructions of some items may come to exceed two for each of the tokens
that they take. -/
def owed : List Item → Nat
  | [] => 0
  | .give _ :: rest => owed rest + 1
  | .token _ :: rest => owed rest - 2
  | .production p :: rest => max p.credit (owed rest)
  | _ :: rest => owed rest

theorem Expands.owed_le {p : Production} {items : List Item} (h : Expands p items)
    (rest : List Item) : owed (items ++ rest) ≤ owed (production p :: rest) := by
  cases h with
  | empty => exact Nat.le_max_right _ _
  | noName hp =>
    obtain rfl | rfl := hp <;> simp only [List.cons_append, List.nil_append, owed, credit] <;> omega
  | _ =>
    simp only [Grammar.conditional, loopStatement, Grammar.assignment, operatorTail, parenthesised,
      List.cons_append, List.nil_append, owed, credit]
    omega

def Stage.account (x : Stage) : Nat := x.given.length + owed x.items + 2 * x.tokens.length

theorem Moves.account_le (h : Moves ending x y) : y.account ≤ x.account := by
  cases h with
  | production =>
    exact Nat.add_le_add_right (Nat.add_le_add_left ((expands_expand ..).owed_le _) _) _
  | _ =>
    simp only [Stage.account, owed, List.length_append, List.length_cons, List.length_nil]
    omega

theorem Comes.account_le (h : Comes ending n x y) : y.account ≤ x.account := by
  induction h with
  | refl => exact Nat.le_refl _
  | cons hm _ ih => exact ih.trans hm.account_le

theorem Comes.given_le {depth : Nat}
    (h : Comes ending n ⟨[.production .program], depth, ts, []⟩ y) :
    y.given.length ≤ 2 * (ts.length - y.tokens.length) := by
  have haccount := h.account_le
  simp only [Stage.account, owed, credit, List.length_nil] at haccount
  omega

theorem Halts.given_eq {result : Except SourceError Unit} (h : Halts ending size x y result) :
    y.given = x.given ∧ y.tokens.length ≤ x.tokens.length := by
  cases h with
  | broken => exact ⟨rfl, Nat.zero_le _⟩
  | _ => exact ⟨rfl, Nat.le_refl _⟩

def unread (source : String) (left : List Token) : Nat :=
  source.utf8ByteSize - (frontOf source.utf8ByteSize left).index

/-- At least one token is taken, so less of the text is left to read. -/
structure Advances (source : String) (ts left : List Token) : Prop where
  suffix : left <:+ ts
  fewer : left.length < ts.length
  unread_lt : unread source left < unread source ts

theorem advances_of_fewer (hts : ts <:+ (Tokens.ofSource source).significant.tokens)
    (hleft : left <:+ ts) (hfewer : left.length < ts.length) : Advances source ts left := by
  refine ⟨hleft, hfewer, ?_⟩
  obtain ⟨hspans, hpair⟩ := Tokens.increasing_significant source
  cases ts with
  | nil => cases hfewer
  | cons t ts =>
    obtain rfl | hleft := List.suffix_cons_iff.1 hleft
    · exact absurd hfewer (Nat.lt_irrefl _)
    · obtain ⟨hpos, hstop⟩ := hspans t (hts.mem (List.mem_cons_self ..))
      rw [Span.stop] at hstop
      cases left with
      | nil =>
        simp only [unread, frontOf, List.head?_cons, List.head?_nil, Option.map_some,
          Option.map_none, Option.getD_some, Option.getD_none]
        omega
      | cons u left =>
        have hlt := (List.pairwise_cons.1 (hpair.sublist hts.sublist)).1 u
          (hleft.mem (List.mem_cons_self ..))
        simp only [unread, frontOf, List.head?_cons, Option.map_some, Option.getD_some]
        omega

theorem length_le_unread (hts : ts <:+ (Tokens.ofSource source).significant.tokens) :
    ts.length ≤ unread source ts := by
  induction ts with
  | nil => exact Nat.zero_le _
  | cons t ts ih =>
    have hsuffix := List.suffix_cons t ts
    have hlt := (advances_of_fewer hts hsuffix (Nat.lt_succ_self _)).unread_lt
    exact Nat.succ_le_of_lt ((ih (hsuffix.trans hts)).trans_lt hlt)

theorem exists_comes_of_drive {σ : Type} {give : σ → Instruction → σ} {items : List Item}
    {s s' : Progress σ} (h : drive give items s = (s', .ok ())) :
    ∃ n is, Comes s.ending n ⟨items, s.depth, s.tokens, []⟩ ⟨[], s'.depth, s'.tokens, is⟩ := by
  obtain ⟨n, y, z, result, hcomes, hhalts⟩ :=
    exists_halts s.ending s.size ⟨items, s.depth, s.tokens, []⟩
  have hdrive := (hcomes.drive_eq give s.backend).trans (hhalts.drive_eq give s.backend)
  cases hdrive.symm.trans h
  cases hhalts with
  | done => exact ⟨n, _, hcomes⟩

theorem compile_of_halts {σ : Type} (give : σ → Instruction → σ) (start : σ) {read : Tokens}
    {result : Except SourceError Unit} (hread : (Tokens.ofSource source).significant = read)
    (hend : read.tokens = [] → read.error = none)
    (hcomes : Comes read.error n ⟨[.production .program], 0, read.tokens, []⟩ x)
    (hhalts : Halts read.error source.utf8ByteSize x y result) :
    compile give start source = (y.given.foldl give start, result) := by
  have hdrive := (hcomes.drive_eq give start).trans (hhalts.drive_eq give start)
  obtain ⟨tokens, error⟩ := read
  simp only [compile, hread]
  split
  · next hfirst =>
    cases hfirst
    cases hend rfl
  · exact congrArg (fun d ↦ (d.1.backend, d.2)) hdrive

/-- Parsing comes to an end, after no more steps than the tokens of the text allow for, and it makes
headway. What stands behind a production waits until its call returns. A call that returns leaves
the depth as it was, and it has taken a token unless its production may be empty; a call that comes
to its own production again, as the rounds of a loop and all recursions do, has taken a token by
then. The depth never falls below zero and is never more than one above the limit, and no more than
two instructions are given for each token taken. -/
theorem parse_ends_and_makes_headway {σ : Type} (give : σ → Instruction → σ) (start : σ)
    (source : String) :
    let read := (Tokens.ofSource source).significant
    let first : Stage := ⟨[.production .program], 0, read.tokens, []⟩
    ((∃ e, read = ⟨[], some e⟩ ∧ compile give start source = (start, .error (.lexical e))) ∨
      ∃ n last after result, Comes read.error n first last ∧
        Halts read.error source.utf8ByteSize last after result ∧
        compile give start source = (after.given.foldl give start, result) ∧
        n ≤ 14 * read.tokens.length + 2 ∧ read.tokens.length ≤ source.utf8ByteSize ∧
        after.depth ≤ nestingLimit + 1 ∧
        after.given.length ≤ 2 * (read.tokens.length - after.tokens.length)) ∧
    (∀ n x, Comes read.error n first x →
      drive give first.items (first.progress read.error source.utf8ByteSize give start) =
        drive give x.items (x.progress read.error source.utf8ByteSize give start) ∧
      x.depth ≤ nestingLimit ∧ (x.items.head? = some .leave → 0 < x.depth) ∧
      x.given.length ≤ 2 * (read.tokens.length - x.tokens.length)) ∧
    (∀ p rest (s : Progress σ), drive give (.production p :: rest) s =
      match drive give [.production p] s with
      | (s', .ok ()) => drive give rest s'
      | (s', .error e) => (s', .error e)) ∧
    (∀ p (s s' : Progress σ), s.tokens <:+ read.tokens →
      drive give [.production p] s = (s', .ok ()) → s'.depth = s.depth ∧ s'.tokens <:+ s.tokens ∧
        (p.isNullable = false → Advances source s.tokens s'.tokens)) ∧
    ∀ p inner ending n x y, x.tokens <:+ read.tokens → Comes ending (n + 1) x y →
      x.items = [.production p] → y.items = .production p :: inner →
        Advances source x.tokens y.tokens := by
  intro read first
  refine ⟨?_, fun n x h ↦ ?_, fun p ↦ drive_append give [.production p], fun p s s' hts h ↦ ?_,
    fun p inner ending n x y hts h hx hy ↦ advances_of_fewer hts h.suffix (h.fewer_of_again hx hy)⟩
  · by_cases hend : read.tokens = [] → read.error = none
    · obtain ⟨n, last, after, result, hcomes, hhalts⟩ :=
        exists_halts read.error source.utf8ByteSize first
      refine .inr ⟨n, last, after, result, hcomes, hhalts,
        compile_of_halts give start rfl hend hcomes hhalts, ?_, ?_,
        hhalts.depth_le (hcomes.depth_le (Nat.zero_le _)), ?_⟩
      · have hmoves := hcomes.measure_le
        simp only [Stage.measure, first, effort, weight, allowance] at hmoves
        omega
      · exact (length_le_unread List.suffix_rfl).trans (Nat.sub_le _ _)
      · have hgiven := hcomes.given_le
        obtain ⟨heq, hle⟩ := hhalts.given_eq
        rw [heq]
        omega
    · obtain ⟨htokens, herror⟩ := Classical.not_imp.1 hend
      obtain ⟨e, he⟩ := Option.ne_none_iff_exists'.1 herror
      have hread : read = ⟨[], some e⟩ := by rw [← htokens, ← he]
      have hsource : (Tokens.ofSource source).significant = ⟨[], some e⟩ := hread
      exact .inl ⟨e, hread, by simp [compile, hsource]⟩
  · exact ⟨h.drive_eq give start, h.depth_le (Nat.zero_le _),
      (h.restsOn (restsOn_production ..)).pos_of_leave, h.given_le⟩
  · obtain ⟨n, is, hcomes⟩ := exists_comes_of_drive h
    refine ⟨(hcomes.restsOn (restsOn_production ..)).depth_eq rfl, hcomes.suffix, fun hp ↦ ?_⟩
    exact advances_of_fewer hts hcomes.suffix
      (hcomes.fewer_of_firm (by simpa [Item.isFirm] using hp) rfl)

/-- An expression in parentheses: the call of the outer one comes to the inner one behind the
parenthesis, and the call of the factor leaves what closes the program. -/
theorem parse_ends_and_makes_headway_group :
    let source := "BEGIN PRINT (1) END"
    let close : List Token := [⟨.blockEnd, ⟨16, 3⟩, ""⟩]
    let inner : List Token := ⟨.integer, ⟨13, 1⟩, "1"⟩ :: ⟨.rightParen, ⟨14, 1⟩, ""⟩ :: close
    let group : List Token := ⟨.leftParen, ⟨12, 1⟩, ""⟩ :: inner
    group <:+ (Tokens.ofSource source).significant.tokens ∧
    (drive Array.push [.production .factor] ⟨group, none, 19, 3, #[]⟩ =
        (⟨close, none, 19, 3, #[.loadInteger "1"]⟩, .ok ()) ∧
      Advances source group close) ∧
    Comes none 6 ⟨[.production .expression], 3, group, []⟩
      ⟨[.production .expression, .token .rightParen, .leave, .production .moreFactors,
        .production .moreTerms], 4, inner, []⟩ ∧
    Advances source group inner := by
  intro source close inner group
  have hgroup : group <:+ (Tokens.ofSource source).significant.tokens := by decide +kernel
  have hcall : drive Array.push [.production .factor] ⟨group, none, 19, 3, #[]⟩ =
      (⟨close, none, 19, 3, #[.loadInteger "1"]⟩, .ok ()) := by
    simp [group, inner, close, drive, expand, parenthesised, nestingLimit, Kind.additive?,
      Kind.multiplicative?, Token.text, Kind.literal]
  have hcomes : Comes none 6 ⟨[.production .expression], 3, group, []⟩
      ⟨[.production .expression, .token .rightParen, .leave, .production .moreFactors,
        .production .moreTerms], 4, inner, []⟩ :=
    .cons .production (.cons .production (.cons .production (.cons .production
      (.cons (.enter (by decide)) (.cons
        (.token (t := ⟨.leftParen, ⟨12, 1⟩, ""⟩) fun _ ↦ rfl) .refl)))))
  obtain ⟨-, -, -, hreturn, hagain⟩ := parse_ends_and_makes_headway Array.push #[] source
  exact ⟨hgroup, ⟨hcall, (hreturn .factor _ _ hgroup hcall).2.2 rfl⟩, hcomes,
    hagain .expression _ none 5 _ _ hgroup hcomes rfl rfl⟩

end RegisterLang.Grammar
