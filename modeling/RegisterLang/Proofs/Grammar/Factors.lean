import RegisterLang.Proofs.Grammar.Levels

namespace RegisterLang.Grammar

def Production.startsFactor : Production → Bool
  | expression | term | signed | factor => true
  | _ => false

def missingFactor (size depth : Nat) (ts : List Token) : SourceError :=
  if depth < nestingLimit then .mismatch ⟨.leftParen, ts.head?, frontOf size ts⟩
  else .nesting nestingLimit (frontOf size ts)

variable {ending : Option LexicalError} {size depth stop : Nat} {items rest : List Item}
variable {t : Token} {ts taken left : List Token} {is : List Instruction} {e : SourceError}

namespace Runs

theorem error_of_parenthesised
    (h : Runs ending size (parenthesised ++ items) depth ts is ts (.error e)) :
    e = missingFactor size depth ts := by
  cases h with
  | enter hd h =>
    obtain ⟨he, -⟩ := h.unmet_of_token
    cases he
    rw [missingFactor, if_pos (by omega)]
  | tooDeep hd => rw [missingFactor, if_neg (by omega)]
  | unmet hitem => simp at hitem

theorem error_of_factor
    (h : Runs ending size (.production .factor :: items) depth ts is ts (.error e)) :
    e = missingFactor size depth ts := by
  have h := h.of_production
  cases ts with
  | nil => exact h.error_of_parenthesised
  | cons t ts =>
    simp only [expand, List.head?_cons] at h
    split at h
    · next hk => exact absurd (congrArg some hk) h.unmet_of_token.2
    · next hk => exact absurd (congrArg some hk) h.unmet_of_token.2
    · exact h.error_of_parenthesised

theorem error_of_signed
    (h : Runs ending size (.production .signed :: items) depth ts is ts (.error e)) :
    e = missingFactor size depth ts := by
  have h := h.of_production
  simp only [expand] at h
  split at h
  · next hk => exact absurd hk h.unmet_of_token.2
  · next hk => exact absurd hk h.unmet_of_token.2
  · exact h.error_of_factor

theorem error_of_startsFactor {p : Production} (hp : p.startsFactor = true)
    (h : Runs ending size (.production p :: items) depth ts is ts (.error e)) :
    e = missingFactor size depth ts := by
  cases p with
  | factor => exact h.error_of_factor
  | signed => exact h.error_of_signed
  | term => exact h.of_production.error_of_signed
  | expression => exact h.of_production.of_production.error_of_signed
  | program | block | statement | alternative | readTarget | moreTerms | moreFactors => cases hp

end Runs

def zero : Token := ⟨.integer, ⟨0, 0⟩, "0"⟩

theorem exists_runs_factor (size depth : Nat) (items : List Item) :
    ∃ is result, Runs none size (.production .factor :: items) depth [zero] is [] result := by
  obtain ⟨is, left, result, h⟩ := exists_runs items ⟨[], none, size, depth, ()⟩
  obtain rfl := List.suffix_nil.1 h.left_suffix
  exact ⟨_, result, .production (.token (t := zero) (fun _ ↦ rfl) (.give h))⟩

theorem exists_runs_startsFactor {p : Production} (hp : p.startsFactor = true) (size depth : Nat)
    (items : List Item) :
    ∃ is result, Runs none size (.production p :: items) depth [zero] is [] result := by
  have hsigned (items : List Item) :
      ∃ is result, Runs none size (.production .signed :: items) depth [zero] is [] result := by
    obtain ⟨is, result, h⟩ := exists_runs_factor size depth items
    exact ⟨is, result, .production h⟩
  cases p with
  | factor => exact exists_runs_factor size depth items
  | signed => exact hsigned items
  | term =>
    obtain ⟨is, result, h⟩ := hsigned (.production .moreFactors :: items)
    exact ⟨is, result, .production h⟩
  | expression =>
    obtain ⟨is, result, h⟩ := hsigned (.production .moreFactors :: .production .moreTerms :: items)
    exact ⟨is, result, .production (.production h)⟩
  | program | block | statement | alternative | readTarget | moreTerms | moreFactors => cases hp

theorem Rest.exists_runs_stuck (h : Rest depth items) (size : Nat) :
    ∃ is e, Runs none size items depth [zero] is [zero] (.error e) := by
  induction h with
  | last => exact ⟨_, _, .unmet (.inr rfl) (by decide)⟩
  | endOfBlock | endOfGroup => exact ⟨_, _, .unmet (.inl rfl) (by decide)⟩
  | give _ ih =>
    obtain ⟨is, e, h⟩ := ih
    exact ⟨_, e, .give h⟩
  | leave _ ih =>
    obtain ⟨is, e, h⟩ := ih
    exact ⟨is, e, .leave h⟩
  | @nullable p items depth hp _ ih =>
    obtain ⟨is, e, h⟩ := ih
    cases p with
    | alternative | moreTerms | moreFactors => exact ⟨is, e, .production h⟩
    | block => exact ⟨_, _, .production (.production (.unmet (.inl rfl) (by decide)))⟩
    | program | statement | readTarget | expression | term | signed | factor => cases hp

theorem Open.exists_runs_stuck (h : Open depth items) (size : Nat)
    (hne : ∀ p more, p.startsFactor = true → items ≠ .production p :: more) :
    ∃ is e, Runs none size items depth [zero] is [zero] (.error e) := by
  cases h with
  | rest h => exact h.exists_runs_stuck size
  | assignment => exact ⟨_, _, .unmet (.inl rfl) (by decide)⟩
  | @operand p items depth hp h =>
    cases p with
    | readTarget => exact ⟨_, _, .production (.unmet (.inl rfl) (by decide))⟩
    | factor | term | expression => exact absurd rfl (hne _ items rfl)
    | program | block | statement | alternative | moreTerms | moreFactors | signed => cases hp

/-- Words behind which a factor is required: a number can stand there. -/
def NeedsFactor (ws : List Word) : Prop := Viable (ws ++ [zero.word])

theorem Takes.needsFactor_iff (h : Takes [.production .program] 0 taken rest stop) :
    NeedsFactor (taken.map Token.word) ↔
      ∃ p more, p.startsFactor = true ∧ rest = .production p :: more := by
  constructor
  · intro hn
    by_contra hne
    obtain ⟨is, e, hr⟩ := (h.isOpen .start (Nat.zero_le _)).1.exists_runs_stuck 0
      fun p more hp he ↦ hne ⟨p, more, hp, he⟩
    obtain ⟨is, hr⟩ := h.exists_runs hr
    exact hr.not_viable (by simp) hr.ne_lexical rfl hn
  · rintro ⟨p, more, hp, rfl⟩
    obtain ⟨is, result, hr⟩ := exists_runs_startsFactor hp 0 stop more
    obtain ⟨is, hr⟩ := h.exists_runs hr
    rw [← List.append_nil (taken ++ [zero])] at hr
    simpa [NeedsFactor] using hr.viable

theorem Runs.opensLevel_of_statement {limit : Nat} {span : Span}
    (h : Runs ending size (.production .statement :: items) depth (t :: ts) is (t :: ts)
      (.error (.nesting limit span))) : t.kind.opensLevel = true := by
  have h := h.of_production
  simp only [expand, List.head?_cons, statementItems] at h
  split at h
  · next c hc =>
    rw [Kind.condition?_eq_some.1 hc]
    exact c.opensLevel_keyword
  · next hk => rw [hk]; rfl
  all_goals cases h.unmet_of_token.1

theorem Rest.opensLevel_of_nesting {limit : Nat} {span : Span} (h : Rest depth items)
    (hr : Runs ending size items depth ts is ts (.error (.nesting limit span))) :
    ∃ t ∈ ts.head?, t.kind.opensLevel = true := by
  induction h generalizing is with
  | last =>
    obtain ⟨more, hr⟩ := (hr.of_sight (by simp)).of_give
    cases hr
  | endOfBlock | endOfGroup => cases hr.unmet_of_token.1
  | give _ ih =>
    obtain ⟨more, h⟩ := hr.of_give
    exact ih h
  | leave _ ih => exact ih hr.of_leave
  | @nullable p items depth hp _ ih =>
    have hr := hr.of_production
    cases p with
    | alternative =>
      simp only [expand] at hr
      split at hr
      · cases hr.unmet_of_token.1
      · exact ih hr
    | moreTerms | moreFactors =>
      simp only [expand] at hr
      split at hr
      · exact ih hr
      · obtain ⟨more, hr⟩ := hr.of_give
        cases hr.unmet_of_token.1
    | block =>
      cases ts with
      | nil => exact ih hr
      | cons t ts =>
        simp only [expand, List.head?_cons] at hr
        split at hr
        · exact ih hr
        · exact ⟨t, rfl, hr.opensLevel_of_statement⟩
    | program | statement | readTarget | expression | term | signed | factor => cases hp

theorem Open.nesting_cases {limit : Nat} {span : Span} (h : Open depth items)
    (hr : Runs ending size items depth ts is ts (.error (.nesting limit span))) :
    (∃ t ∈ ts.head?, t.kind.opensLevel = true) ∨
      ∃ p more, p.startsFactor = true ∧ items = .production p :: more := by
  cases h with
  | rest h => exact .inl (h.opensLevel_of_nesting hr)
  | assignment => cases hr.unmet_of_token.1
  | @operand p items depth hp h =>
    cases p with
    | readTarget =>
      have hr := hr.of_production
      cases ts with
      | nil => cases hr.unmet_of_token.1
      | cons => cases hr.unmet_of_token.1
    | factor | term | expression => exact .inr ⟨_, _, rfl, rfl⟩
    | program | block | statement | alternative | moreTerms | moreFactors | signed => cases hp

/-- Words behind which no program has a word of the kind that comes next. At the end of a text none
comes. -/
def Misfit (ws : List Word) (next : Option Word) : Prop :=
  ∀ w ∈ next, ∀ v : Word, v.1 = w.1 → ¬ Viable (ws ++ [v])

variable {source : String} {k : Nat}

theorem Misfit.not_viable {ws : List Word} (h : Misfit (ws.take k) ws[k]?) (hk : k < ws.length) :
    ¬ Viable (ws.take (k + 1)) := by
  rw [List.take_succ_eq_append_getElem hk]
  exact h _ (List.getElem?_eq_getElem hk) _ rfl

section

variable {w : Word} (hk : k ≤ (Tokens.ofSource source).words.length)
  (hm : Misfit ((Tokens.ofSource source).words.take k) (Tokens.ofSource source).words[k]?)

include hk hm

theorem Misfit.not_ok (hv : Viable ((Tokens.ofSource source).words.take k ++ [w])) :
    (instructions source).2 ≠ .ok () := by
  intro hok
  obtain ⟨tree, ht⟩ := compile_ok_iff.1 hok
  obtain hlt | hge := Nat.lt_or_ge k tree.words.length
  · have hpre : (Tokens.ofSource source).words.take (k + 1) <+: tree.words :=
      List.prefix_of_prefix_length_le (List.take_prefix ..) ht.derives
        ((List.length_take_le ..).trans hlt)
    exact hm.not_viable (hlt.trans_le ht.derives.length_le) ⟨tree, ht.nesting_le, hpre⟩
  · obtain ⟨other, -, hother⟩ := hv
    have hpre : tree.words <+: (Tokens.ofSource source).words.take k :=
      List.prefix_of_prefix_length_le ht.derives (List.take_prefix ..)
        (by rwa [List.length_take_of_le hk])
    obtain rfl := words_prefix_unique (hpre.trans ((List.prefix_append ..).trans hother))
      (List.prefix_refl other.words)
    have hle := hother.length_le
    rw [List.length_append, List.length_take_of_le hk, List.length_singleton] at hle
    omega

theorem Misfit.not_lexical
    (hend : k = (Tokens.ofSource source).words.length → (Tokens.ofSource source).error = none)
    (l : LexicalError) : (instructions source).2 ≠ .error (.lexical l) := by
  intro he
  obtain ⟨herror, hunfinished⟩ := unfinished_of_lexical he
  obtain ⟨-, tree, hpre, hd, -⟩ := hunfinished.completed
  obtain hlt | rfl := Nat.lt_or_eq_of_le hk
  · exact hm.not_viable hlt ⟨tree, hd, (List.take_prefix ..).trans hpre⟩
  · rw [hend rfl] at herror
    cases herror

theorem Misfit.length_taken {e : SourceError}
    (hv : Viable ((Tokens.ofSource source).words.take k ++ [w]))
    (hts : (Tokens.ofSource source).significant.tokens = taken ++ left)
    (h : Runs ending size [.production .program] 0 (taken ++ left) is left (.error e))
    (hlex : ∀ l, e ≠ .lexical l) : taken.length = k := by
  have hwords := words_eq_append hts
  obtain hlt | heq | hgt := Nat.lt_trichotomy taken.length k
  · -- the word that the run stops at is one of the first words of a program
    cases left with
    | nil =>
      rw [hwords, List.map_nil, List.append_nil, List.length_map] at hk
      omega
    | cons t left =>
      have hpre : taken.map Token.word ++ [t.word] <+: (Tokens.ofSource source).words.take k :=
        List.prefix_of_prefix_length_le ⟨left.map Token.word, by simp [hwords]⟩
          (List.take_prefix ..) (by simpa [List.length_take_of_le hk] using Nat.succ_le_of_lt hlt)
      refine absurd (hv.mono (hpre.trans (List.prefix_append ..))) ?_
      exact h.not_viable (by simp) (by simpa using hlex) rfl
  · exact heq
  · have hpre : (Tokens.ofSource source).words.take (k + 1) <+: taken.map Token.word :=
      List.prefix_of_prefix_length_le (List.take_prefix ..) ⟨_, hwords.symm⟩
        ((List.length_take_le ..).trans (by rwa [List.length_map]))
    have hlt : k < (Tokens.ofSource source).words.length := by
      rw [hwords, List.length_append, List.length_map]
      omega
    exact absurd (h.viable.mono hpre) (hm.not_viable hlt)

theorem exists_runs_of_misfit (hv : Viable ((Tokens.ofSource source).words.take k ++ [w]))
    (hend : k = (Tokens.ofSource source).words.length → (Tokens.ofSource source).error = none) :
    ∃ is taken left e, (Tokens.ofSource source).significant.tokens = taken ++ left ∧
      taken.length = k ∧ (instructions source).2 = .error e ∧ (∀ l, e ≠ .lexical l) ∧
      Runs (Tokens.ofSource source).error source.utf8ByteSize [.production .program] 0
        (taken ++ left) is left (.error e) := by
  cases hres : (instructions source).2 with
  | ok => exact absurd hres (hm.not_ok hk hv)
  | error e =>
    have hlex (l : LexicalError) : e ≠ .lexical l := by
      rintro rfl
      exact hm.not_lexical hk hend l hres
    obtain ⟨is, taken, left, hts, h, -⟩ := exists_runs_of_error hres hlex
    exact ⟨is, taken, left, e, hts, hm.length_taken hk hv hts h hlex, rfl, hlex, h⟩

end

theorem not_needsFactor_nil : ¬ NeedsFactor [] := by
  rintro ⟨tree, -, hpre⟩
  cases tree with
  | program => cases (List.cons_prefix_cons.1 hpre).1

theorem Runs.misfit
    (h : Runs ending size [.production .program] 0 (taken ++ left) is left (.error e))
    (hlex : ∀ l, e ≠ .lexical l) : Misfit (taken.map Token.word) (left.head?.map Token.word) := by
  intro w hw v hv
  obtain ⟨t, htop, rfl⟩ := Option.map_eq_some_iff.1 hw
  obtain ⟨left, rfl⟩ := List.head?_eq_some_iff.1 htop
  exact h.not_viable (by simp) (by simpa using hlex) hv

theorem Runs.meets_limit {limit : Nat} {span : Span}
    (h : Runs ending size [.production .program] 0 (taken ++ left) is left
      (.error (.nesting limit span))) :
    levels (taken.map Token.word) = nestingLimit ∧
      ((∃ t ∈ left.head?, t.kind.opensLevel = true) ∨ NeedsFactor (taken.map Token.word)) := by
  have hne : taken ≠ [] := by
    rintro rfl
    cases h.of_production.unmet_of_token.1
  obtain ⟨rest, stop, more, ht, hr⟩ := h.exists_takes (by simp) hne rfl
  obtain ⟨hopen, hstop⟩ := ht.isOpen .start (Nat.zero_le _)
  obtain ⟨level, hl, hlevels⟩ := ht.levelled (.settled (.production .nil))
  obtain rfl := hr.level_of_nesting rfl hl hstop
  exact ⟨by simpa using hlevels.symm, (hopen.nesting_cases hr).imp_right ht.needsFactor_iff.2⟩

theorem Runs.error_of_needsFactor
    (h : Runs ending size [.production .program] 0 (taken ++ left) is left (.error e))
    (hlex : ∀ l, e ≠ .lexical l) (hn : NeedsFactor (taken.map Token.word)) :
    ∃ level : Nat, levels (taken.map Token.word) = level ∧ e = missingFactor size level left := by
  have hne : taken ≠ [] := by
    rintro rfl
    exact not_needsFactor_nil hn
  obtain ⟨rest, stop, more, ht, hr⟩ := h.exists_takes (by simpa using hlex) hne rfl
  obtain ⟨level, hl, hlevels⟩ := ht.levelled (.settled (.production .nil))
  obtain ⟨p, items, hp, rfl⟩ := ht.needsFactor_iff.1 hn
  obtain ⟨rfl, -⟩ := hl.of_production
  exact ⟨level, by simpa using hlevels.symm, hr.error_of_startsFactor hp⟩

theorem exists_takes_groups (hts : ∀ t ∈ ts, t.kind = .leftParen) (hne : ts ≠ [])
    (hd : depth + ts.length ≤ nestingLimit) (items : List Item) :
    ∃ more, Takes (.production .expression :: items) depth ts (.production .expression :: more)
      (depth + ts.length) := by
  induction ts generalizing depth items with
  | nil => exact absurd rfl hne
  | cons t ts ih =>
    obtain ⟨ht, hmore⟩ := List.forall_mem_cons.1 hts
    obtain ⟨kind, span, value⟩ := t
    obtain rfl : kind = .leftParen := ht
    rw [List.length_cons, Nat.add_comm ts.length, ← Nat.add_assoc] at hd ⊢
    by_cases hnil : ts = []
    · subst hnil
      exact ⟨_, .production (.production (.production (.production
        (.enter hd (.last (t := ⟨.leftParen, span, value⟩))))))⟩
    · obtain ⟨more, h⟩ := ih hmore hnil hd (.token .rightParen :: .leave ::
        .production .moreFactors :: .production .moreTerms :: items)
      exact ⟨more, .production (.production (.production (.production
        (.enter (by omega) (.token (t := ⟨.leftParen, span, value⟩) h)))))⟩

theorem exists_takes_unfilled {n : Nat} (hpos : 0 < n) (hn : n ≤ nestingLimit)
    (hkinds : taken.map Token.kind = .programStart :: .print :: List.replicate n .leftParen) :
    ∃ more, Takes [.production .program] 0 taken (.production .expression :: more) n := by
  obtain ⟨⟨kind, span, value⟩, us, rfl, rfl, hus⟩ := List.map_eq_cons_iff.1 hkinds
  obtain ⟨⟨kind, span', value'⟩, groups, rfl, rfl, hgroups⟩ := List.map_eq_cons_iff.1 hus
  obtain rfl : groups.length = n := by simpa using congrArg List.length hgroups
  have hall : ∀ t ∈ groups, t.kind = .leftParen := by
    intro t ht
    have hmem := List.mem_map_of_mem (f := Token.kind) ht
    rw [hgroups] at hmem
    exact List.eq_of_mem_replicate hmem
  rw [← Nat.zero_add groups.length] at hn ⊢
  obtain ⟨more, h⟩ := exists_takes_groups hall (List.ne_nil_of_length_pos hpos) hn
    [.give .print, .production .block, .sight .blockEnd, .give .programEnd]
  exact ⟨more, .production (.token (t := ⟨.programStart, span, value⟩) (.give (.production
    (.production (.token (t := ⟨.print, span', value'⟩) h)))))⟩

theorem runs_blockEnd (ht : t.kind = .blockEnd) (size depth : Nat) (items : List Item) :
    Runs none size (.production .expression :: items) depth [t] [] [t]
      (.error (missingFactor size depth [t])) := by
  obtain ⟨kind, span, value⟩ := t
  obtain rfl : kind = .blockEnd := ht
  refine .production (.production (.production (.production ?_)))
  rw [missingFactor]
  split
  · next hd => exact .enter hd (.unmet (.inl rfl) (by simp))
  · next hd => exact .tooDeep (by omega)

/-- The nesting limit is met where as many levels are open as there may be, by a word that opens one
more or where a factor is required and the next word does not fit. What stands where a factor is
required and does not fit, be it the end of the text, is refused for want of a parenthesis while
fewer levels are open, and for the nesting when no more can be opened. -/
theorem nesting_limit_met_by_openers_and_missing_factors (source : String) :
    (∀ limit span, (instructions source).2 = .error (.nesting limit span) →
      limit = 256 ∧ ∃ k ≤ (Tokens.ofSource source).words.length,
        span = placeOf (Tokens.ofSource source).significant.tokens source.utf8ByteSize k ∧
        levels ((Tokens.ofSource source).words.take k) = 256 ∧
        Misfit ((Tokens.ofSource source).words.take k) (Tokens.ofSource source).words[k]? ∧
        ((∃ w ∈ (Tokens.ofSource source).words[k]?, w.1.opensLevel = true) ∨
          NeedsFactor ((Tokens.ofSource source).words.take k))) ∧
    ∀ k ≤ (Tokens.ofSource source).words.length,
      NeedsFactor ((Tokens.ofSource source).words.take k) →
      Misfit ((Tokens.ofSource source).words.take k) (Tokens.ofSource source).words[k]? →
      (k = (Tokens.ofSource source).words.length → (Tokens.ofSource source).error = none) →
      (instructions source).2 = .error
        (if levels ((Tokens.ofSource source).words.take k) < 256 then
          .mismatch ⟨.leftParen, (Tokens.ofSource source).significant.tokens[k]?,
            placeOf (Tokens.ofSource source).significant.tokens source.utf8ByteSize k⟩
        else
          .nesting 256
            (placeOf (Tokens.ofSource source).significant.tokens source.utf8ByteSize k)) := by
  constructor
  · intro limit span he
    obtain ⟨is, taken, left, hts, h, -⟩ := exists_runs_of_error he (by simp)
    obtain ⟨hlevels, hmet⟩ := h.meets_limit
    have hspan : limit = 256 ∧ span = frontOf source.utf8ByteSize left := by
      obtain ⟨l, he, -⟩ | ⟨kind, he⟩ | he := h.error_cases
      · cases he
      · cases he
      · cases he
        exact ⟨rfl, rfl⟩
    refine ⟨hspan.1, taken.length, by simp [words_eq_append hts], ?_⟩
    rw [take_words hts, getElem?_words hts, hts, placeOf_length_append]
    refine ⟨hspan.2, hlevels, h.misfit (by simp), hmet.imp_left ?_⟩
    rintro ⟨t, htop, hopens⟩
    exact ⟨t.word, Option.mem_map_of_mem _ htop, hopens⟩
  · intro k hk hn hm hend
    obtain ⟨is, taken, left, e, hts, rfl, he, hlex, h⟩ := exists_runs_of_misfit hk hm hn hend
    rw [take_words hts] at hn ⊢
    obtain ⟨level, hlevels, rfl⟩ := h.error_of_needsFactor hlex hn
    have hlimit : (level : Int) < 256 ↔ level < nestingLimit := by
      rw [nestingLimit]
      omega
    rw [he, hts, getElem?_length_append, placeOf_length_append, hlevels]
    simp only [hlimit]
    rfl

theorem nesting_limit_met_by_openers_and_missing_factors_empty_group :
    let read := Tokens.ofSource "BEGIN PRINT ( END"
    NeedsFactor (read.words.take 3) ∧ Misfit (read.words.take 3) read.words[3]? ∧
    (instructions "BEGIN PRINT ( END").2 =
      .error (.mismatch ⟨.leftParen, read.significant.tokens[3]?, ⟨14, 3⟩⟩) := by
  intro read
  have htokens : read.significant.tokens = [⟨.programStart, ⟨0, 5⟩, ""⟩, ⟨.print, ⟨6, 5⟩, ""⟩,
      ⟨.leftParen, ⟨12, 1⟩, ""⟩] ++ [⟨.blockEnd, ⟨14, 3⟩, ""⟩] := by decide +kernel
  have hkinds : List.map Token.kind [⟨.programStart, ⟨0, 5⟩, ""⟩, ⟨.print, ⟨6, 5⟩, ""⟩,
      ⟨.leftParen, ⟨12, 1⟩, ""⟩] = .programStart :: .print :: List.replicate 1 .leftParen := rfl
  obtain ⟨more, htakes⟩ := exists_takes_unfilled (by decide) (by decide) hkinds
  obtain ⟨is, hruns⟩ := htakes.exists_runs
    (runs_blockEnd (t := ⟨.blockEnd, ⟨14, 3⟩, ""⟩) rfl 17 1 more)
  have hfactor : NeedsFactor (read.words.take 3) := by
    rw [Tokens.words, htokens]
    exact htakes.needsFactor_iff.2 ⟨.expression, more, rfl, rfl⟩
  have hmisfit : Misfit (read.words.take 3) read.words[3]? := by
    rw [Tokens.words, htokens]
    intro w hw v hv
    obtain rfl := Option.some.inj hw
    exact hruns.not_viable (by simp) hruns.ne_lexical hv
  refine ⟨hfactor, hmisfit, ?_⟩
  rw [(nesting_limit_met_by_openers_and_missing_factors "BEGIN PRINT ( END").2 3
    (by decide +kernel) hfactor hmisfit (by decide +kernel)]
  decide +kernel

def unfilled (n : Nat) : Writing where
  segments := [.programStart, .blank,
    ⟨.letters, "PRINT".toList, by decide, List.all_eq_true.1 (by decide)⟩, .blank] ++
      (List.replicate (n + 1) ⟨.paren, ['('], .inl rfl⟩ ++ [.blank, .blockEnd])
  separated := by
    refine .append (by simp [Segment.Merges, Segment.blank, Segment.programStart])
      (.append (List.isChain_replicate_of_rel _ (by simp [Segment.Merges]))
        (by simp [Segment.Merges, Segment.blank, Segment.blockEnd]) ?_) ?_
    · intro s hs t ht
      obtain rfl := List.eq_of_mem_replicate (List.mem_of_getLast? hs)
      simp [Segment.Merges]
    · simp [List.replicate_succ, Segment.Merges, Segment.blank]

/-- The last word of `BEGIN PRINT (((… END` opens no level and is refused for the nesting. -/
theorem keyword_in_place_of_factor_meets_limit :
    (instructions ("BEGIN PRINT " ++ String.ofList (List.replicate 256 '(') ++ " END")).2 =
      .error (.nesting 256 ⟨269, 3⟩) ∧
    ∃ t ∈ (Tokens.ofSource
        ("BEGIN PRINT " ++ String.ofList (List.replicate 256 '(') ++ " END")).tokens,
      t.span = ⟨269, 3⟩ ∧ t.kind = .blockEnd := by
  have htext : "BEGIN PRINT " ++ String.ofList (List.replicate 256 '(') ++ " END" =
      String.ofList (unfilled 255).text := by decide +kernel
  have hread := (unfilled 255).ofSource_text (by decide +kernel)
  have hts : (Tokens.ofSource (String.ofList (unfilled 255).text)).significant.toExcept =
      .ok ((Segment.tokens 0 (unfilled 255).segments).filter fun t ↦ !t.kind.isSkippable) := by
    rw [hread]
    rfl
  generalize htokens : (Segment.tokens 0 (unfilled 255).segments).filter
    (fun t ↦ !t.kind.isSkippable) = ts at hts
  have hsplit : ts = ts.take 258 ++ [⟨.blockEnd, ⟨269, 3⟩, ""⟩] := by
    rw [← htokens]
    decide +kernel
  have hkinds : (ts.take 258).map Token.kind =
      .programStart :: .print :: List.replicate 256 .leftParen := by
    rw [← htokens]
    decide +kernel
  rw [htext]
  constructor
  · obtain ⟨more, htakes⟩ := exists_takes_unfilled (by decide) (Nat.le_refl _) hkinds
    obtain ⟨is, hruns⟩ := htakes.exists_runs (runs_blockEnd (t := ⟨.blockEnd, ⟨269, 3⟩, ""⟩) rfl
      (String.ofList (unfilled 255).text).utf8ByteSize 256 more)
    obtain ⟨depth, hdrive⟩ := hruns.drive_eq Array.push #[]
    rw [← hsplit] at hdrive
    rw [instructions, compile_of_lexed hts, hdrive, missingFactor, if_neg (by decide)]
    rfl
  · rw [hread]
    decide +kernel

end RegisterLang.Grammar
