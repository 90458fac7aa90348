import RegisterLang.Proofs.Token.Segment

namespace RegisterLang

structure Head.Passes (h : Head) (span : Span) (h' : Head) : Prop where
  starts : span.index = h.offset
  stops : h'.offset = span.stop
  rest_suffix : h'.rest <:+ h.rest

namespace Scanner

def after : Nat → Scanner → Scanner
  | 0, s => s
  | n + 1, s => after n s.advance.2

/-- What the next call comes to: the token that it reads, its error, or nothing at the end of the
text. -/
def outcome (s : Scanner) : Option (Except LexicalError Token) :=
  match s.advance with
  | (.ok (), s') => s'.current.map .ok
  | (.error e, _) => some (.error e)

def result (s : Scanner) : Nat → Option (Except LexicalError Token)
  | 0 => s.current.map .ok
  | n + 1 => (s.after n).outcome

def spanOf : Except LexicalError Token → Span
  | .ok t => t.span
  | .error e => e.span

def Blocks (r : Except LexicalError Token) : Prop :=
  ∃ c span, r = .error ⟨.illegalCharacter c, span⟩

inductive Calls (s : Scanner) :
    Option (Except LexicalError Token) → Except LexicalError Unit × Scanner → Prop where
  | nothing (h : s.head.rest = []) : Calls s none (.ok (), { s with current := none })
  | token {t : Token} {head : Head} (h : s.head.Passes t.span head)
      (shorter : head.rest.length < s.head.rest.length) :
      Calls s (some (.ok t)) (.ok (), ⟨head, some t⟩)
  | blocked (c : Char) : Calls s (some (.error ⟨.illegalCharacter c, ⟨s.head.offset, c.utf8Size⟩⟩))
      (.error ⟨.illegalCharacter c, ⟨s.head.offset, c.utf8Size⟩⟩, s)
  | fault {e : LexicalError} {head : Head} (hfault : ∀ c, e.fault ≠ .illegalCharacter c)
      (h : s.head.Passes e.span head) (hend : e.fault = .unterminatedComment → head.rest = []) :
      Calls s (some (.error e)) (.error e, { s with head })

theorem passes_past {h : Head} {taken rest : List Char} (hrest : h.rest = taken ++ rest) :
    h.Passes ⟨h.offset, Text.size taken⟩ (h.past taken rest) :=
  ⟨rfl, rfl, ⟨taken, hrest.symm⟩⟩

theorem calls (s : Scanner) : Calls s s.outcome s.advance := by
  obtain ⟨⟨text, rest, offset⟩, current⟩ := s
  cases rest with
  | nil => exact .nothing rfl
  | cons c cs =>
    obtain ⟨segment, rest, hcs, happart⟩ | ⟨fault, taken, rest, hcs, ho⟩ :=
      Segment.exists_front c cs
    · have hnext := Lexeme.next_segment segment happart
      have hshorter : rest.length < (c :: cs).length :=
        hcs ▸ Lexeme.rest_length_lt hnext rfl
      rw [← hcs] at hnext
      have h := passes_past (h := ⟨text, c :: cs, offset⟩) hcs
      simp only [outcome, advance, hnext]
      exact .token h hshorter
    · rw [hcs]
      cases ho with
      | character hc =>
        simp only [outcome, advance, List.singleton_append, Lexeme.next_character hc]
        exact .blocked _
      | operators hall long hrest =>
        have h := passes_past (h := ⟨text, taken ++ rest, offset⟩) rfl
        simp only [outcome, advance, Lexeme.next_operators hall long hrest]
        exact .fault (by simp) h (by simp)
      | @openComment body hbody =>
        have h := passes_past (h := ⟨text, '{' :: body, offset⟩) (List.append_nil _).symm
        simp only [outcome, advance, List.append_nil, Lexeme.next_openComment hbody]
        exact .fault (by simp) h fun _ ↦ rfl

variable {s : Scanner} {r : Except LexicalError Token}
variable {called : Except LexicalError Unit × Scanner}

theorem Calls.index_eq (h : Calls s (some r) called) : (spanOf r).index = s.head.offset := by
  cases h with
  | token hp | fault _ hp => exact hp.starts
  | blocked => rfl

theorem Calls.stop_eq (h : Calls s (some r) called) (hr : ¬ Blocks r) :
    called.2.head.offset = (spanOf r).stop := by
  cases h with
  | token hp | fault _ hp => exact hp.stops
  | blocked c => exact absurd ⟨c, _, rfl⟩ hr

theorem Calls.eq_of_blocks (h : Calls s (some r) called) (hr : Blocks r) : called.2 = s := by
  obtain ⟨c, span, rfl⟩ := hr
  cases h with
  | blocked => rfl
  | fault hfault => exact absurd rfl (hfault c)

theorem Calls.rest_suffix {result : Option (Except LexicalError Token)}
    (h : Calls s result called) : called.2.head.rest <:+ s.head.rest := by
  cases h with
  | nothing | blocked => exact List.suffix_refl _
  | token hp | fault _ hp => exact hp.rest_suffix

theorem Calls.offset_le {result : Option (Except LexicalError Token)}
    (h : Calls s result called) : s.head.offset ≤ called.2.head.offset := by
  cases h with
  | nothing | blocked => exact Nat.le_refl _
  | token hp | fault _ hp => exact hp.starts ▸ hp.stops ▸ Nat.le_add_right ..

theorem Calls.rest_eq_nil {result : Option (Except LexicalError Token)}
    (h : Calls s result called)
    (hr : result = none ∨ ∃ span, result = some (.error ⟨.unterminatedComment, span⟩)) :
    called.2.head.rest = [] := by
  cases h with
  | nothing h => exact h
  | token | blocked => simp at hr
  | fault _ _ hend =>
    obtain hr | ⟨span, hr⟩ := hr
    · cases hr
    · cases hr
      exact hend rfl

theorem Calls.current_eq {result : Option (Except LexicalError Token)} {e : LexicalError}
    (h : Calls s result called) (he : called.1 = .error e) : called.2.current = s.current := by
  cases h with
  | nothing | token => cases he
  | blocked | fault => rfl

theorem calls_of_outcome (h : s.outcome = some r) : Calls s (some r) s.advance := h ▸ s.calls

theorem advance_of_end (h : s.head.rest = []) :
    s.advance = (.ok (), { s with current := none }) := by
  rw [advance, h]
  rfl

theorem after_succ (n : Nat) (s : Scanner) : after (n + 1) s = (after n s).advance.2 := by
  induction n generalizing s with
  | zero => rfl
  | succ n ih => exact ih s.advance.2

theorem after_add (m n : Nat) (s : Scanner) : after (m + n) s = after n (after m s) := by
  induction m generalizing s with
  | zero => rw [Nat.zero_add]; rfl
  | succ m ih =>
    rw [Nat.add_right_comm]
    exact ih s.advance.2

theorem after_of_blocks (h : s.outcome = some r) (hr : Blocks r) (n : Nat) : s.after n = s := by
  induction n with
  | zero => rfl
  | succ n ih => rw [after_succ, ih, (calls_of_outcome h).eq_of_blocks hr]

theorem rest_of_after (h : s.head.rest = []) (n : Nat) : (s.after n).head.rest = [] := by
  induction n generalizing s with
  | zero => exact h
  | succ n ih =>
    refine ih ?_
    rw [advance_of_end h]
    exact h

theorem hasMore_eq_false_iff : s.hasMore = false ↔ s.head.rest = [] := by
  simp [hasMore, Head.hasMore]

theorem calls_of_ofHead {start : Head} (h : ofHead start = .ok s) :
    ∃ result, Calls ⟨start, none⟩ result (.ok (), s) ∧ result = s.result 0 := by
  rw [ofHead] at h
  split at h
  · cases h
  · split at h
    · next s' ha =>
      cases h
      have hc := calls ⟨start, none⟩
      rw [outcome, ha] at hc
      exact ⟨_, hc, rfl⟩
    · cases h

/-- How a scanner goes on from the head that it was built at. Each result starts where the one
before it stops, but nothing passes a character that starts no token. At the end of the text there
is nothing more to read. -/
structure GoesOn (start : Head) (s : Scanner) : Prop where
  first_index : ∀ r ∈ s.result 0, (spanOf r).index = start.offset
  next_index : ∀ n, ∀ r ∈ s.result n, ¬ Blocks r →
    ∀ r' ∈ s.result (n + 1), (spanOf r').index = (spanOf r).stop
  blocked : ∀ n, ∀ r ∈ s.result n, Blocks r → ∀ m, n ≤ m → s.result m = some r
  at_end : ∀ n, s.result n = none ∨
    (∃ span, s.result n = some (.error ⟨.unterminatedComment, span⟩)) → (s.after n).hasMore = false
  stays_at_end : ∀ n, (s.after n).hasMore = false → ∀ m, n ≤ m →
    (s.after m).advance.1 = .ok () ∧ (s.after (m + 1)).current = none
  current_kept : ∀ n e, (s.after n).advance.1 = .error e →
    (s.after (n + 1)).current = (s.after n).current
  start_le : start.offset ≤ s.head.offset ∧ s.head.rest <:+ start.rest
  head_le : ∀ n, (s.after n).head.offset ≤ (s.after (n + 1)).head.offset ∧
    (s.after (n + 1)).head.rest <:+ (s.after n).head.rest

theorem result_zero_not_blocks (h : s.result 0 = some r) : ¬ Blocks r := by
  rintro ⟨c, span, rfl⟩
  obtain ⟨t, -, ht⟩ := Option.map_eq_some_iff.1 h
  cases ht

theorem offset_of_result {start : Head} (hs : ofHead start = .ok s) {n : Nat}
    (h : s.result n = some r) (hr : ¬ Blocks r) : (s.after n).head.offset = (spanOf r).stop := by
  cases n with
  | zero =>
    obtain ⟨_, hc, rfl⟩ := calls_of_ofHead hs
    rw [h] at hc
    exact hc.stop_eq hr
  | succ n =>
    rw [after_succ]
    exact (calls_of_outcome h).stop_eq hr

theorem goesOn_of_ofHead {start : Head} (hs : ofHead start = .ok s) : GoesOn start s where
  first_index r hr := by
    obtain ⟨_, hc, rfl⟩ := calls_of_ofHead hs
    rw [Option.mem_def.1 hr] at hc
    exact hc.index_eq
  next_index n r hr hb r' hr' := by
    rw [← offset_of_result hs hr hb]
    exact (calls_of_outcome hr').index_eq
  blocked n r hr hb m hle := by
    cases n with
    | zero => exact absurd hb (result_zero_not_blocks hr)
    | succ n =>
      obtain ⟨k, rfl⟩ := Nat.exists_eq_add_of_le hle
      rw [Nat.add_right_comm, result, after_add, after_of_blocks hr hb]
      exact hr
  at_end n hr := by
    rw [hasMore_eq_false_iff]
    cases n with
    | zero =>
      obtain ⟨_, hc, rfl⟩ := calls_of_ofHead hs
      exact hc.rest_eq_nil hr
    | succ n =>
      rw [after_succ]
      exact (s.after n).calls.rest_eq_nil hr
  stays_at_end n hn m hle := by
    obtain ⟨k, rfl⟩ := Nat.exists_eq_add_of_le hle
    have hrest := rest_of_after (hasMore_eq_false_iff.1 hn) k
    rw [after_succ, after_add, advance_of_end hrest]
    exact ⟨rfl, rfl⟩
  current_kept n e he := by
    rw [after_succ]
    exact (s.after n).calls.current_eq he
  start_le := by
    obtain ⟨_, hc, -⟩ := calls_of_ofHead hs
    exact ⟨hc.offset_le, hc.rest_suffix⟩
  head_le n := by
    rw [after_succ]
    exact ⟨(s.after n).calls.offset_le, (s.after n).calls.rest_suffix⟩

namespace Items

def after : Nat → Items → Items
  | 0, i => i
  | n + 1, i => after n i.next.2

def item (i : Items) (n : Nat) : Option (Except LexicalError Token) := (i.after n).next.1

/-- Items that are the results of a scanner up to the first one that is no token. This is the last
one, and it is yielded once. -/
structure YieldsUpTo (s : Scanner) (last : Nat) : Prop where
  tokens : ∀ n < last, ∃ t, s.result n = some (.ok t) ∧ (ofScanner s).item n = some (.ok t)
  no_token : ∀ t, s.result last ≠ some (.ok t)
  last_item : (ofScanner s).item last = s.result last
  no_more : ∀ n, last < n → (ofScanner s).item n = none

theorem after_of_done (head : Head) (n : Nat) :
    after n ⟨⟨head, none⟩, none⟩ = ⟨⟨head, none⟩, none⟩ := by
  induction n with
  | zero => rfl
  | succ n ih => exact ih

theorem item_of_done (head : Head) (n : Nat) : item ⟨⟨head, none⟩, none⟩ n = none := by
  rw [item, after_of_done]
  rfl

theorem yieldsUpTo_of_none (h : s.current = none) : YieldsUpTo s 0 := by
  obtain ⟨head, current⟩ := s
  cases h
  exact ⟨by simp, by simp [result], item_of_done head 0, fun n _ ↦ item_of_done head n⟩

variable {s' : Scanner} {t : Token}

theorem result_succ (h : s.advance = (.ok (), s')) (n : Nat) :
    s.result (n + 1) = s'.result n := by
  cases n with
  | zero => simp only [result, Scanner.after, outcome, h]
  | succ n => simp only [result, Scanner.after, h]

theorem YieldsUpTo.succ (ht : s.current = some t) (h : s.advance = (.ok (), s')) {last : Nat}
    (hy : YieldsUpTo s' last) : YieldsUpTo s (last + 1) := by
  have hnext : (ofScanner s).next = (some (.ok t), ofScanner s') := by
    simp only [next, ofScanner, ht, h]
  have hitem : ∀ n, (ofScanner s).item (n + 1) = (ofScanner s').item n := fun n ↦ by
    rw [item, after, hnext, ← item]
  refine ⟨fun n hn ↦ ?_, ?_, ?_, fun n hn ↦ ?_⟩
  · cases n with
    | zero => exact ⟨t, by rw [result, ht]; rfl, by rw [item, after, hnext]⟩
    | succ n =>
      rw [result_succ h, hitem]
      exact hy.tokens n (Nat.lt_of_succ_lt_succ hn)
  · rw [result_succ h]
    exact hy.no_token
  · rw [result_succ h, hitem]
    exact hy.last_item
  · cases n with
    | zero => cases hn
    | succ n =>
      rw [hitem]
      exact hy.no_more n (Nat.lt_of_succ_lt_succ hn)

theorem yieldsUpTo_of_error (ht : s.current = some t) {e : LexicalError}
    (h : s.advance = (.error e, s')) : YieldsUpTo s 1 := by
  have hnext : (ofScanner s).next = (some (.ok t), ⟨{ s' with current := none }, some e⟩) := by
    simp only [next, ofScanner, ht, h]
  have hresult : s.result 1 = some (.error e) := by simp only [result, Scanner.after, outcome, h]
  refine ⟨fun n hn ↦ ?_, by simp [hresult], ?_, fun n hn ↦ ?_⟩
  · obtain rfl : n = 0 := Nat.lt_one_iff.1 hn
    exact ⟨t, by rw [result, ht]; rfl, by rw [item, after, hnext]⟩
  · rw [hresult, item, after, hnext]
    rfl
  · obtain ⟨k, rfl⟩ := Nat.exists_eq_add_of_lt hn
    have hshift : (ofScanner s).item (1 + k + 1) = item ⟨⟨s'.head, none⟩, none⟩ k := by
      rw [Nat.add_comm 1 k, item, after, hnext]
      rfl
    rw [hshift, item_of_done]

theorem exists_yieldsUpTo (s : Scanner) : ∃ last, YieldsUpTo s last := by
  induction hm : s.head.rest.length using Nat.strongRecOn generalizing s with
  | ind m ih =>
    cases ht : s.current with
    | none => exact ⟨0, yieldsUpTo_of_none ht⟩
    | some t =>
      have hc := s.calls
      rcases ha : s.advance with ⟨_ | ⟨⟩, s'⟩
      · exact ⟨1, yieldsUpTo_of_error ht ha⟩
      · rw [ha] at hc
        generalize s.outcome = result at hc
        cases hc with
        | nothing => exact ⟨1, (yieldsUpTo_of_none rfl).succ ht ha⟩
        | @token t head _ shorter =>
          obtain ⟨last, hl⟩ := ih _ (hm ▸ shorter) ⟨head, some t⟩ rfl
          exact ⟨last + 1, hl.succ ht ha⟩

end Items

/-- A scanner that was built anywhere in a source text goes on through errors as far as there are
tokens, and its items are its tokens up to the first error. -/
theorem scanner_goes_on_through_errors (source : String) (count : Nat) (s : Scanner)
    (h : ofHead (.advanceBy count (.ofText source.toList)) = .ok s) :
    GoesOn (.advanceBy count (.ofText source.toList)) s ∧ ∃ last, Items.YieldsUpTo s last :=
  ⟨goesOn_of_ofHead h, Items.exists_yieldsUpTo s⟩

theorem scanner_goes_on_through_errors_at_sign : ∃ s,
    ofHead (.advanceBy 2 (.ofText "é x+- @".toList)) = .ok s ∧
    s.result 1 = some (.error ⟨.illegalOperator "+-", ⟨4, 2⟩⟩) ∧
    (∀ m, 3 ≤ m → s.result m = some (.error ⟨.illegalCharacter '@', ⟨7, 1⟩⟩)) ∧
    Items.YieldsUpTo s 1 := by
  have h : ofHead (.advanceBy 2 (.ofText "é x+- @".toList)) =
      .ok ⟨⟨"é x+- @".toList, "+- @".toList, 4⟩, some ⟨.identifier, ⟨3, 1⟩, "x"⟩⟩ := rfl
  obtain ⟨hgoes, last, hlast⟩ := scanner_goes_on_through_errors _ _ _ h
  refine ⟨_, h, rfl, hgoes.blocked 3 _ rfl ⟨'@', ⟨7, 1⟩, rfl⟩, ?_⟩
  obtain rfl : last = 1 := by
    obtain hlt | rfl | hlt := Nat.lt_trichotomy last 1
    · obtain rfl : last = 0 := Nat.lt_one_iff.1 hlt
      exact absurd rfl (hlast.no_token _)
    · rfl
    · obtain ⟨t, ht, -⟩ := hlast.tokens 1 hlt
      cases ht
  exact hlast

end Scanner

end RegisterLang
