import RegisterLang.Proofs.Grammar.Completion

namespace RegisterLang.Grammar

/-- An error at the word of some index, or at the end of the text behind the last word. -/
inductive Blames (ts : List Token) (size index : Nat) : SourceError → Prop where
  | mismatch (expected : Kind) :
      Blames ts size index (.mismatch ⟨expected, ts[index]?, placeOf ts size index⟩)
  | nesting : Blames ts size index (.nesting nestingLimit (placeOf ts size index))

/-- Words that programs start with and that are not yet a program. There is a text with these words
at its front that is a program from its first to its last word; it need not be longer than some size
by more than the room for what is missing. The text is accepted unless it is too long for any. -/
structure Unfinished (size : Nat) (ws : List Word) : Prop where
  completed : ∃ (program : String) (tree : Tree .program), ws <+: tree.words ∧
    tree.nesting ≤ nestingLimit ∧ (Tokens.scanFrom 0 program.toList).words = tree.words ∧
    (Tokens.scanFrom 0 program.toList).error = none ∧
    program.utf8ByteSize ≤ size + 4 * (nestingLimit + 2) ∧
    (program.utf8ByteSize ≤ sourceLimit → (instructions program).2 = .ok ())
  incomplete : ∀ tree : Tree .program, ¬ tree.words <+: ws

def Hopeful (ws : List Word) : Prop :=
  ∃ other : String, (instructions other).2 = .ok () ∧ ws <+: (Tokens.ofSource other).words

def Hopeless (ws : List Word) (kind : Kind) : Prop :=
  ∀ other : String, (instructions other).2 = .ok () →
    ∀ w : Word, w.1 = kind → ¬ ws ++ [w] <+: (Tokens.ofSource other).words

def Item.bare : Item → Item
  | .give _ => .give .programStart
  | item => item

theorem expand_bare (p : Production) {ahead ahead' : Option Token}
    (h : ahead.map Token.kind = ahead'.map Token.kind) :
    (expand p ahead).map Item.bare = (expand p ahead').map Item.bare := by
  cases ahead with
  | none =>
    cases ahead' with
    | none => rfl
    | some t => cases h
  | some t =>
    cases ahead' with
    | none => cases h
    | some t' =>
      have hk : t.kind = t'.kind := Option.some.inj h
      cases p with
      | program | expression | term => rfl
      | block | alternative | signed | moreTerms | moreFactors => simp [expand, hk]
      | readTarget => simp [expand, Item.bare]
      | statement =>
        simp only [expand, statementItems, hk]
        split <;> rfl
      | factor =>
        simp only [expand, hk]
        split <;> rfl

variable {ending : Option LexicalError} {size depth : Nat} {items : List Item}
variable {ts left : List Token} {is : List Instruction} {result : Except SourceError Unit}

theorem Runs.left_suffix (h : Runs ending size items depth ts is left result) : left <:+ ts := by
  induction h with
  | done | tooDeep | unmet => exact List.suffix_refl _
  | give _ ih | enter _ _ ih | leave _ ih | sight _ ih | production _ ih => exact ih
  | token _ _ ih => exact ih.trans (List.suffix_cons ..)
  | broken => exact List.nil_suffix

theorem Runs.error_cases {e : SourceError}
    (h : Runs ending size items depth ts is left (.error e)) :
    (∃ l, e = .lexical l ∧ ending = some l ∧ left = []) ∨
      (∃ kind, e = .mismatch ⟨kind, left.head?, frontOf size left⟩) ∨
      e = .nesting nestingLimit (frontOf size left) := by
  generalize hr : Except.error e = result at h
  induction h with
  | done => cases hr
  | tooDeep => cases hr; exact .inr (.inr rfl)
  | unmet => cases hr; exact .inr (.inl ⟨_, rfl⟩)
  | broken he => cases hr; exact .inl ⟨_, rfl, he, rfl⟩
  | give _ ih | enter _ _ ih | leave _ ih | sight _ ih | production _ ih | token _ _ ih =>
    exact ih hr

theorem Runs.ending_eq_none (h : Runs ending size items depth ts is [] result)
    (hlex : ∀ e, result ≠ .error (.lexical e)) (hts : ts ≠ []) : ending = none := by
  generalize hl : [] = left at h
  induction h with
  | done | tooDeep | unmet => exact absurd hl.symm hts
  | broken => exact absurd rfl (hlex _)
  | give _ ih | enter _ _ ih | leave _ ih | sight _ ih | production _ ih => exact ih hlex hts hl
  | @token t items depth ts left is result hend _ ih =>
    cases ts with
    | nil => exact hend rfl
    | cons t' ts => exact ih hlex (by simp) hl

theorem bare_give {i : Instruction} {others : List Item}
    (h : (.give i :: items).map Item.bare = others.map Item.bare) :
    ∃ i' rest, others = .give i' :: rest ∧ items.map Item.bare = rest.map Item.bare := by
  obtain ⟨item, rest, rfl, hitem, hrest⟩ := List.map_eq_cons_iff.1 h.symm
  cases item with
  | give i' => exact ⟨i', rest, rfl, hrest.symm⟩
  | token | sight | enter | leave | production => cases hitem

theorem bare_cons {item : Item} {others : List Item}
    (h : (item :: items).map Item.bare = others.map Item.bare) (hi : ∀ i, item ≠ .give i) :
    ∃ rest, others = item :: rest ∧ items.map Item.bare = rest.map Item.bare := by
  obtain ⟨other, rest, rfl, hitem, hrest⟩ := List.map_eq_cons_iff.1 h.symm
  have he : other = item := by
    cases item <;> cases other <;> first | exact absurd rfl (hi _) | exact hitem | cases hitem
  exact ⟨rest, by rw [he], hrest.symm⟩

variable {σ : Type} {taken taken' left' : List Token}

theorem head?_kind_append (htaken : taken.map Token.kind = taken'.map Token.kind)
    (hleft : left.head?.map Token.kind = left'.head?.map Token.kind) :
    (taken ++ left).head?.map Token.kind = (taken' ++ left').head?.map Token.kind := by
  cases taken with
  | nil =>
    obtain rfl := List.map_eq_nil_iff.1 htaken.symm
    exact hleft
  | cons t taken =>
    obtain ⟨t', taken', rfl, ht, -⟩ := List.map_eq_cons_iff.1 htaken.symm
    exact congrArg some ht.symm

theorem Runs.drive_ne_ok (h : Runs ending size items depth ts is left result)
    (hok : result ≠ .ok ()) (hlex : ∀ e, result ≠ .error (.lexical e)) (hts : ts = taken ++ left)
    (htaken : taken.map Token.kind = taken'.map Token.kind)
    (hleft : left.head?.map Token.kind = left'.head?.map Token.kind) {others : List Item}
    (hitems : items.map Item.bare = others.map Item.bare) (give : σ → Instruction → σ) (b : σ) :
    (drive give others ⟨taken' ++ left', none, size, depth, b⟩).2 ≠ .ok () := by
  have hhead := head?_kind_append htaken hleft
  rw [← hts] at hhead
  induction h generalizing taken taken' others b with
  | done => exact absurd rfl hok
  | broken => exact absurd rfl (hlex _)
  | give h ih =>
    obtain ⟨i', others, rfl, hrest⟩ := bare_give hitems
    rw [drive_give]
    exact ih hok hlex hts htaken hleft hrest _ hhead
  | enter hd h ih =>
    obtain ⟨others, rfl, hrest⟩ := bare_cons hitems (by simp)
    rw [drive_enter hd]
    exact ih hok hlex hts htaken hleft hrest _ hhead
  | tooDeep hd =>
    obtain ⟨others, rfl, -⟩ := bare_cons hitems (by simp)
    rw [drive, if_pos hd]
    simp
  | leave h ih =>
    obtain ⟨others, rfl, hrest⟩ := bare_cons hitems (by simp)
    rw [drive]
    exact ih hok hlex hts htaken hleft hrest _ hhead
  | sight h ih =>
    obtain ⟨others, rfl, hrest⟩ := bare_cons hitems (by simp)
    rw [drive, if_pos (by exact hhead.symm)]
    exact ih hok hlex hts htaken hleft hrest _ hhead
  | @token t items depth ts left is result hend h ih =>
    obtain ⟨others, rfl, hrest⟩ := bare_cons hitems (by simp)
    rw [drive_token_of_lexed, if_pos (by exact hhead.symm)]
    cases taken with
    | nil =>
      have hle := h.left_suffix.length_le
      have hlength := congrArg List.length hts
      simp only [List.length_cons, List.nil_append] at hlength
      omega
    | cons t taken =>
      obtain ⟨t', taken', rfl, -, hmore⟩ := List.map_eq_cons_iff.1 htaken.symm
      obtain rfl : ts = taken ++ left := (List.cons.inj hts).2
      exact ih hok hlex rfl hmore.symm hleft hrest _ (head?_kind_append hmore.symm hleft)
  | unmet hitem hk =>
    obtain rfl | rfl := hitem
    · obtain ⟨others, rfl, -⟩ := bare_cons hitems (by simp)
      rw [drive_token_of_lexed, if_neg (hhead ▸ hk)]
      simp
    · obtain ⟨others, rfl, -⟩ := bare_cons hitems (by simp)
      rw [drive, if_neg (by exact hhead ▸ hk)]
      simp
  | @production p items depth ts left is result h ih =>
    obtain ⟨others, rfl, hrest⟩ := bare_cons hitems (by simp)
    rw [drive_production]
    refine ih hok hlex hts htaken hleft ?_ _ hhead
    rw [List.map_append, List.map_append, hrest, expand_bare p hhead]

theorem map_kind_eq (h : taken.map Token.word = taken'.map Token.word) :
    taken.map Token.kind = taken'.map Token.kind := by
  simpa [Function.comp_def, Token.word] using congrArg (List.map Prod.fst) h

theorem Runs.not_prefix {t : Token}
    (h : Runs ending size [.production .program] 0 (taken ++ t :: left) is (t :: left) result)
    (hok : result ≠ .ok ()) (hlex : ∀ e, result ≠ .error (.lexical e)) {tree : Tree .program}
    (hd : tree.nesting ≤ nestingLimit) {us : List Token} (htree : tree.words <+: us.map Token.word)
    {w : Word} (hw : w.1 = t.kind) : ¬ taken.map Token.word ++ [w] <+: us.map Token.word := by
  rintro ⟨more, hmore⟩
  rw [List.append_assoc, List.singleton_append] at hmore
  obtain ⟨xs, ys, rfl, hx, hy⟩ := List.map_eq_append_iff.1 hmore.symm
  obtain ⟨y, ys, rfl, rfl, -⟩ := List.map_eq_cons_iff.1 hy
  obtain ⟨rest, hrest⟩ := htree
  obtain ⟨vs, zs, hus, hv, -⟩ := List.map_eq_append_iff.1 hrest.symm
  obtain ⟨s, hs, -⟩ := drive_program (fun (_ : Unit) _ ↦ ()) () tree zs hv hd none size
  have hhead : (t :: left).head?.map Token.kind = (y :: ys).head?.map Token.kind :=
    congrArg some hw.symm
  refine h.drive_ne_ok hok hlex rfl (map_kind_eq hx.symm) hhead rfl (fun _ _ ↦ ()) () ?_
  rw [hus, hs]

variable {source : String}

theorem Unfinished.of_tree (hok : (instructions source).2 ≠ .ok ()) {k : Nat}
    (hk : k ≤ (Tokens.ofSource source).words.length) {tree : Tree .program} {fill : List Segment}
    (hw : tree.words = (Tokens.ofSource source).words.take k ++ fill.map Segment.word)
    (hd : tree.nesting ≤ nestingLimit) (hfill : ∀ s ∈ fill, s.kind.isSkippable = false)
    (hsize : Text.size (Segment.flat (Segment.spaced fill)) ≤ 4 * (nestingLimit + 2)) :
    Unfinished source.utf8ByteSize ((Tokens.ofSource source).words.take k) := by
  have hpre : (Tokens.ofSource source).words.take k <+: tree.words := ⟨_, hw.symm⟩
  constructor
  · obtain ⟨program, hwords, herror, hbytes⟩ := exists_text source hk hfill
    rw [← hw] at hwords
    refine ⟨program, tree, hpre, hd, hwords, herror, by omega, fun hle ↦ ?_⟩
    have hread : (Tokens.ofSource program).words = tree.words := by
      rw [Tokens.ofSource, if_neg (Nat.not_lt.2 hle), hwords]
    exact compile_ok_iff.2 ⟨tree, ⟨[], (List.append_nil _).trans hread.symm⟩, hd⟩
  · intro other ho
    obtain rfl := words_prefix_unique (ho.trans hpre) (List.prefix_refl tree.words)
    exact hok (compile_ok_iff.2 ⟨other, ho.trans (List.take_prefix ..), hd⟩)

theorem Unfinished.hopeful {ws : List Word} (h : Unfinished size ws)
    (hsize : size + 4 * (nestingLimit + 2) ≤ sourceLimit) : Hopeful ws := by
  obtain ⟨program, tree, hpre, -, hwords, -, hbytes, hok⟩ := h.completed
  have hle : program.utf8ByteSize ≤ sourceLimit := Nat.le_trans hbytes hsize
  refine ⟨program, hok hle, ?_⟩
  rwa [Tokens.ofSource, if_neg (Nat.not_lt.2 hle), hwords]

theorem unfinished_nil (hok : (instructions source).2 ≠ .ok ()) :
    Unfinished source.utf8ByteSize [] := by
  have hw : (Tree.program .empty).words = (Tokens.ofSource source).words.take 0 ++
      [Segment.programStart, Segment.blockEnd].map Segment.word := by
    rw [List.take_zero]
    decide
  exact .of_tree hok (Nat.zero_le _) hw (by decide) (by decide) (by decide)

theorem getElem?_length_append (taken left : List Token) :
    (taken ++ left)[taken.length]? = left.head? := by
  rw [← List.head?_drop, List.drop_left]

theorem placeOf_length_append (taken left : List Token) (size : Nat) :
    placeOf (taken ++ left) size taken.length = frontOf size left := by
  rw [placeOf, getElem?_length_append, frontOf]

section

variable (hts : (Tokens.ofSource source).significant.tokens = taken ++ left)

include hts

theorem words_eq_append :
    (Tokens.ofSource source).words = taken.map Token.word ++ left.map Token.word := by
  rw [Tokens.words, hts, List.map_append]

theorem take_words : (Tokens.ofSource source).words.take taken.length = taken.map Token.word := by
  rw [words_eq_append hts, List.take_append_of_le_length (by simp),
    List.take_of_length_le (by simp)]

theorem getElem?_words :
    (Tokens.ofSource source).words[taken.length]? = left.head?.map Token.word := by
  rw [Tokens.words, List.getElem?_map, hts, getElem?_length_append]

theorem Runs.unfinished
    (h : Runs ending size [.production .program] 0 (taken ++ left) is left result)
    (hok : (instructions source).2 ≠ .ok ()) :
    Unfinished source.utf8ByteSize (taken.map Token.word) := by
  by_cases hnil : taken = []
  · subst hnil
    exact unfinished_nil hok
  · obtain ⟨tree, fill, hw, hd, hfill, hsize⟩ := h.exists_tree hnil rfl
    rw [← take_words hts] at hw ⊢
    exact .of_tree hok (by simp [words_eq_append hts]) hw hd hfill hsize

end

theorem Runs.hopeless {t : Token}
    (h : Runs ending size [.production .program] 0 (taken ++ t :: left) is (t :: left) result)
    (hok : result ≠ .ok ()) (hlex : ∀ e, result ≠ .error (.lexical e)) :
    Hopeless (taken.map Token.word) t.kind := by
  intro other ho w hw
  obtain ⟨tree, htree⟩ := compile_ok_iff.1 ho
  exact h.not_prefix hok hlex htree.nesting_le htree.derives hw

theorem Runs.blames {e : SourceError}
    (h : Runs ending size items depth ts is left (.error e)) (hlex : ∀ l, e ≠ .lexical l) :
    Blames (taken ++ left) size taken.length e := by
  obtain ⟨l, he, -⟩ | ⟨kind, rfl⟩ | rfl := h.error_cases
  · exact absurd he (hlex l)
  · rw [← getElem?_length_append taken, ← placeOf_length_append taken]
    exact .mismatch kind
  · rw [← placeOf_length_append taken]
    exact .nesting

theorem blames_iff {e : SourceError} {j k : Nat}
    (hj : j ≤ (Tokens.ofSource source).significant.tokens.length)
    (hk : k ≤ (Tokens.ofSource source).significant.tokens.length)
    (h : Blames (Tokens.ofSource source).significant.tokens size k e) :
    Blames (Tokens.ofSource source).significant.tokens size j e ↔ j = k := by
  have hspan {i : Nat} (hi : Blames (Tokens.ofSource source).significant.tokens size i e) :
      e.span = placeOf (Tokens.ofSource source).significant.tokens size i := by
    cases hi <;> rfl
  exact ⟨fun h' ↦ placeOf_injective hj hk ((hspan h').symm.trans (hspan h)), fun he ↦ he ▸ h⟩

theorem exists_runs_of_error {e : SourceError} (he : (instructions source).2 = .error e)
    (hlex : ∀ l, e ≠ .lexical l) :
    ∃ is taken left, (Tokens.ofSource source).significant.tokens = taken ++ left ∧
      Runs (Tokens.ofSource source).error source.utf8ByteSize [.production .program] 0
        (taken ++ left) is left (.error e) ∧
      (taken ++ left = [] → (Tokens.ofSource source).error = none) := by
  obtain ⟨is, left, result, h⟩ := exists_reading source
  rw [h.instructions_eq] at he
  obtain rfl : result = .error e := he
  cases h with
  | refused => exact absurd rfl (hlex _)
  | run hread hend h =>
    subst hread
    obtain ⟨taken, htaken⟩ := h.left_suffix
    rw [← htaken] at h hend
    exact ⟨is, taken, left, htaken.symm, h, hend⟩

theorem unfinished_of_lexical {e : LexicalError}
    (he : (instructions source).2 = .error (.lexical e)) :
    (Tokens.ofSource source).error = some e ∧
      Unfinished source.utf8ByteSize (Tokens.ofSource source).words := by
  have hok : (instructions source).2 ≠ .ok () := by simp [he]
  obtain ⟨is, left, result, h⟩ := exists_reading source
  rw [h.instructions_eq] at he
  obtain rfl : result = .error (.lexical e) := he
  cases h with
  | refused hread =>
    have hwords : (Tokens.ofSource source).words = [] := by rw [Tokens.words, hread]; rfl
    have herror : (Tokens.ofSource source).significant.error = some e := by rw [hread]
    rw [hwords]
    exact ⟨herror, unfinished_nil hok⟩
  | run hread hend h =>
    subst hread
    obtain ⟨l, hl, herror, rfl⟩ | ⟨kind, hl⟩ | hl := h.error_cases
    · cases hl
      refine ⟨herror, ?_⟩
      rw [words_eq_append (List.append_nil _).symm, List.map_nil, List.append_nil]
      exact Runs.unfinished (List.append_nil _).symm (by rwa [List.append_nil]) hok
    · cases hl
    · cases hl

theorem lexical_of_unfinished {e : LexicalError} (he : (Tokens.ofSource source).error = some e)
    (h : Unfinished source.utf8ByteSize (Tokens.ofSource source).words) :
    (instructions source).2 = .error (.lexical e) := by
  cases hresult : (instructions source).2 with
  | ok =>
    obtain ⟨tree, htree⟩ := compile_ok_iff.1 hresult
    exact absurd htree.derives (h.incomplete tree)
  | error error =>
    by_cases hlex : ∃ l, error = .lexical l
    · obtain ⟨l, rfl⟩ := hlex
      obtain ⟨hl, -⟩ := unfinished_of_lexical hresult
      rw [Option.some.inj (he.symm.trans hl)]
    · exfalso
      have hlex : ∀ l, error ≠ .lexical l := fun l hl ↦ hlex ⟨l, hl⟩
      obtain ⟨is, taken, left, hts, hruns, hend⟩ := exists_runs_of_error hresult hlex
      cases left with
      | nil =>
        by_cases hnil : taken ++ [] = []
        · cases he.symm.trans (hend hnil)
        · cases he.symm.trans (hruns.ending_eq_none (by simpa using hlex) hnil)
      | cons t left =>
        obtain ⟨program, tree, hpre, hd, hwords, -⟩ := h.completed
        have htree : tree.words <+: (Tokens.scanFrom 0 program.toList).words :=
          ⟨[], (List.append_nil _).trans hwords.symm⟩
        have hnext : taken.map Token.word ++ [t.word] <+: (Tokens.ofSource source).words :=
          ⟨left.map Token.word, by simp [words_eq_append hts]⟩
        exact hruns.not_prefix (by simp) (by simpa using hlex) hd htree rfl
          ((hnext.trans hpre).trans htree)

/-- Errors are reported at the first word that rules out a program. A text that is refused for a
word, or at its end, is refused at one place only: the words before it are unfinished, and no
program that is accepted has them in front of a word of the blamed kind. A lexical error is reported
if and only if it is the first of the text and the words before it are unfinished, so none behind
the blamed word or behind the end of a program is. What is missing takes no more than 1032 bytes, so
unless the text is within that of the limit of 4 GiB, its unfinished words are at the front of some
text that is accepted. -/
theorem errors_blame_first_hopeless_word (source : String) :
    (∀ e, (instructions source).2 = .error e → (∀ l, e ≠ .lexical l) →
      ∃ k ≤ (Tokens.ofSource source).words.length,
        (∀ j ≤ (Tokens.ofSource source).words.length,
          Blames (Tokens.ofSource source).significant.tokens source.utf8ByteSize j e ↔ j = k) ∧
        Unfinished source.utf8ByteSize ((Tokens.ofSource source).words.take k) ∧
        ∀ w ∈ (Tokens.ofSource source).words[k]?,
          Hopeless ((Tokens.ofSource source).words.take k) w.1) ∧
    (∀ e, (instructions source).2 = .error (.lexical e) ↔
      (Tokens.ofSource source).error = some e ∧
        Unfinished source.utf8ByteSize (Tokens.ofSource source).words) ∧
    (source.utf8ByteSize + 4 * (nestingLimit + 2) ≤ sourceLimit →
      ∀ ws, Unfinished source.utf8ByteSize ws → Hopeful ws) := by
  refine ⟨fun e he hlex ↦ ?_, fun e ↦
    ⟨unfinished_of_lexical, fun h ↦ lexical_of_unfinished h.1 h.2⟩,
    fun hsize ws h ↦ h.hopeful hsize⟩
  obtain ⟨is, taken, left, hts, hruns, -⟩ := exists_runs_of_error he hlex
  have hlength : (Tokens.ofSource source).words.length =
      (Tokens.ofSource source).significant.tokens.length := List.length_map _
  have hle : taken.length ≤ (Tokens.ofSource source).significant.tokens.length := by simp [hts]
  have hblames : Blames (Tokens.ofSource source).significant.tokens source.utf8ByteSize
      taken.length e := hts ▸ hruns.blames hlex
  rw [hlength]
  refine ⟨taken.length, hle, fun j hj ↦ blames_iff hj hle hblames, ?_, fun w hw ↦ ?_⟩
  · rw [take_words hts]
    exact Runs.unfinished hts hruns (by simp [he])
  · rw [getElem?_words hts] at hw
    rw [take_words hts]
    cases left with
    | nil => cases hw
    | cons t left =>
      cases hw
      exact hruns.hopeless (by simp) (by simpa using hlex)

theorem errors_blame_first_hopeless_word_unclosed :
    let source := "BEGIN PRINT(x END"
    let ts := (Tokens.ofSource source).significant.tokens
    let ws : List Word := [(.programStart, "BEGIN"), (.print, "PRINT"), (.leftParen, "("),
      (.identifier, "x")]
    let e : SourceError := .mismatch ⟨.rightParen, ts[4]?, ⟨14, 3⟩⟩
    let broken := "BEGIN PRINT ?"
    let l : LexicalError := ⟨.illegalCharacter '?', ⟨12, 1⟩⟩
    ((instructions source).2 = .error e ∧ (∀ l, e ≠ .lexical l) ∧
      (∀ j ≤ 5, Blames ts source.utf8ByteSize j e ↔ j = 4) ∧ Hopeful ws ∧ Hopeless ws .blockEnd) ∧
    (instructions broken).2 = .error (.lexical l) ∧
      Hopeful [(.programStart, "BEGIN"), (.print, "PRINT")] := by
  intro source ts ws e broken l
  have hwords : (Tokens.ofSource source).words = ws ++ [(.blockEnd, "END")] ∧
      (Tokens.ofSource broken).words = [(.programStart, "BEGIN"), (.print, "PRINT")] := by
    decide +kernel
  have hts : (Tokens.ofSource source).significant.toExcept = .ok ts := by
    have herror : (Tokens.ofSource source).significant.error = none := by decide +kernel
    rw [Tokens.toExcept, herror]
  have hplace : placeOf ts source.utf8ByteSize 4 = ⟨14, 3⟩ := by decide +kernel
  have he : (instructions source).2 = .error e := by
    rw [instructions, compile_of_lexed hts, drive_unclosed _ (by decide +kernel), hplace]
  have hl : (instructions broken).2 = .error (.lexical l) := by
    have hread : (Tokens.ofSource broken).significant.tokens =
        [⟨.programStart, ⟨0, 5⟩, ""⟩, ⟨.print, ⟨6, 5⟩, ""⟩] ∧
        (Tokens.ofSource broken).significant.error = some l := by decide +kernel
    have hruns : Runs (Tokens.ofSource broken).significant.error broken.utf8ByteSize
        [.production .program] 0 (Tokens.ofSource broken).significant.tokens [.programStart] []
        (.error (.lexical l)) := by
      rw [hread.1, hread.2]
      refine .production (.token (t := ⟨.programStart, ⟨0, 5⟩, ""⟩) (by simp) ?_)
      exact .give (.production (.production (.broken (t := ⟨.print, ⟨6, 5⟩, ""⟩) rfl)))
    rw [(Reading.run rfl (by simp [hread.1]) hruns).instructions_eq]
  have hlex : ∀ l, e ≠ .lexical l := by simp [e]
  obtain ⟨hblamed, -, hhopeful⟩ := errors_blame_first_hopeless_word source
  obtain ⟨k, -, hunique, hunfinished, hhopeless⟩ := hblamed e he hlex
  have hfour : Blames ts source.utf8ByteSize 4 e := by
    rw [show e = .mismatch ⟨.rightParen, ts[4]?, placeOf ts source.utf8ByteSize 4⟩ by rw [hplace]]
    exact .mismatch .rightParen
  rw [hwords.1] at hunique hunfinished hhopeless
  obtain rfl : 4 = k := (hunique 4 (by decide)).1 hfour
  obtain ⟨-, hbroken, hhopeful'⟩ := errors_blame_first_hopeless_word broken
  refine ⟨⟨he, hlex, hunique, hhopeful (by decide +kernel) _ hunfinished,
    hhopeless (.blockEnd, "END") rfl⟩, hl, ?_⟩
  rw [← hwords.2]
  exact hhopeful' (by decide +kernel) _ ((hbroken l).1 hl).2

end RegisterLang.Grammar
