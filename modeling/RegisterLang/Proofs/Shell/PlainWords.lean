import RegisterLang.Proofs.Build.CleanUp
import RegisterLang.Proofs.Text.Encoding
import RegisterLang.Host.Shell.Eval

namespace RegisterLang

instance {σ ε : Type} : LawfulMonad (Strand σ ε) := LawfulMonad.mk' _
  (fun x ↦ by
    funext s k
    refine congrArg (x s) ?_
    funext s r
    cases r <;> rfl)
  (fun _ _ ↦ rfl)
  (fun x f g ↦ by
    funext s k
    refine congrArg (x s) ?_
    funext s r
    cases r <;> rfl)

namespace Octet

/-- The characters that stand for the bytes of one. -/
def ofChar (c : Char) : List Char := (String.utf8EncodeChar c).map fun b ↦ Char.ofNat b.toNat

theorem foldl_eq {β : Type} (f : β → UInt8 → β) (bytes : ByteArray) (b : β) :
    bytes.foldl f b = bytes.data.toList.foldl f b := by
  have hloop : ∀ n j b, n + j = bytes.size →
      (ByteArray.foldlM.loop (m := Id) (fun b x ↦ pure (f b x)) bytes bytes.size (Nat.le_refl _)
        n j b).run = (bytes.data.toList.drop j).foldl f b := by
    intro n
    induction n with
    | zero =>
      intro j b hj
      rw [ByteArray.foldlM.loop, dif_neg (by omega), List.drop_of_length_le]
      · rfl
      · rw [Array.length_toList, ByteArray.size_data]
        omega
    | succ n ih =>
      intro j b hj
      have hlt : j < bytes.size := by omega
      rw [ByteArray.foldlM.loop, dif_pos hlt, List.drop_eq_getElem_cons hlt, List.foldl_cons]
      exact ih (j + 1) _ (by omega)
  rw [ByteArray.foldl, ByteArray.foldlM, dif_pos (Nat.le_refl _)]
  exact hloop bytes.size 0 b rfl

theorem toList_ofText (text : String) : (ofText text).toList = text.toList.flatMap ofChar := by
  have hpush : ∀ (bytes : List UInt8) (sofar : String),
      (bytes.foldl (fun text b ↦ text.push (Char.ofNat b.toNat)) sofar).toList =
        sofar.toList ++ bytes.map fun b ↦ Char.ofNat b.toNat := by
    intro bytes
    induction bytes with
    | nil => simp
    | cons b bytes ih => simp [ih]
  have hbytes : text.toUTF8.data.toList = text.toList.flatMap String.utf8EncodeChar := by
    have h := @String.toByteArray_ofList text.toList
    rw [String.ofList_toList] at h
    rw [String.toUTF8, h, List.utf8Encode]
    simp
  rw [ofText, ofBytes, foldl_eq, hpush, hbytes, List.map_flatMap]
  rfl

theorem ofChar_cases (c : Char) : c.toNat < 128 ∧ ofChar c = [c] ∨
    ofChar c ≠ [] ∧ ∀ d ∈ ofChar c, 128 ≤ d.toNat := by
  have hof : ∀ b : UInt8, (Char.ofNat b.toNat).toNat = b.toNat := fun b ↦ by
    have := b.toNat_lt
    rw [Char.ofNat, dif_pos (.inl (by omega))]
    rfl
  have h := Utf8.encodes_encode c
  rw [Char.toNat_val] at h
  rw [ofChar]
  generalize String.utf8EncodeChar c = bytes at h
  generalize hn : c.toNat = n at h
  cases h with
  | one hb => exact .inl ⟨hb, by rw [List.map_singleton, ← hn, Char.ofNat_toNat]⟩
  | two hb _ hc =>
    rw [Utf8.isContinuation_iff] at hc
    exact .inr ⟨by simp, by simp [hof]; omega⟩
  | three hb _ hc hd =>
    rw [Utf8.allowsSecond_iff] at hc
    rw [Utf8.isContinuation_iff] at hd
    exact .inr ⟨by simp, by simp [hof]; omega⟩
  | four hb _ hc hd he =>
    rw [Utf8.allowsSecond_iff] at hc
    rw [Utf8.isContinuation_iff] at hd he
    exact .inr ⟨by simp, by simp [hof]; omega⟩

theorem exists_cons_of_flatMap {cs rest : List Char} {c : Char} (hc : c.toNat < 128)
    (h : cs.flatMap ofChar = c :: rest) : ∃ cs', cs = c :: cs' ∧ cs'.flatMap ofChar = rest := by
  cases cs with
  | nil => cases h
  | cons d cs =>
    rw [List.flatMap_cons] at h
    obtain ⟨-, hd⟩ | ⟨hne, hd⟩ := ofChar_cases d
    · rw [hd, List.singleton_append] at h
      obtain ⟨rfl, htail⟩ := List.cons.inj h
      exact ⟨cs, rfl, htail⟩
    · obtain ⟨e, es, he⟩ := List.exists_cons_of_ne_nil hne
      rw [he] at h
      have hbig := hd e (by simp [he])
      rw [(List.cons.inj h).1] at hbig
      omega

end Octet

namespace Shell

/-- Characters that mean something to the shell wherever they stand in a word, and the one that no
argument can hold. -/
def specials : List Char :=
  ['\x00', ' ', '\t', '\n', ';', '&', '|', '<', '>', '(', ')', '\\', '"', '\x27', '\x60', '*', '?',
    '[']

def isSpecial (c : Char) : Bool := specials.contains c

theorem ne_of_isSpecial {c d : Char} (hc : isSpecial c = false) (hd : isSpecial d = true) :
    c ≠ d := by
  rintro rfl
  rw [hc] at hd
  cases hd

/-- Behind a dollar sign, such a character makes an expansion of it. -/
def startsExpansion (c : Char) : Bool :=
  c = '(' || c = '{' || Word.isNameStart c || c.isDigit || Word.isSpecialParameter c

def isInert : List Char → Bool
  | [] => true
  | c :: cs => (c ≠ '$' || !cs.head?.any startsExpansion) && isInert cs

theorem isInert_append {xs ys : List Char} (hx : isInert xs = true) (hy : isInert ys = true)
    (h : xs.getLast? ≠ some '$' ∨ ys.head?.any startsExpansion = false) :
    isInert (xs ++ ys) = true := by
  induction xs with
  | nil => exact hy
  | cons x xs ih =>
    rw [isInert, Bool.and_eq_true] at hx
    rw [List.cons_append, isInert, Bool.and_eq_true]
    cases xs with
    | nil =>
      refine ⟨?_, hy⟩
      obtain h | h := h
      · have hne : x ≠ '$' := by simpa using h
        simp [hne]
      · simp [h]
    | cons y xs =>
      rw [List.getLast?_cons_cons] at h
      exact ⟨hx.1, ih hx.2 h⟩

theorem bind_ok {α β : Type} {x : Parse α} {f : α → Parse β} {s s' : Source} {a : α}
    (h : x s = .ok (a, s')) : (x >>= f) s = f a s' := by
  simp only [bind, StateT.bind, h, Except.bind]

/-- Names the action that is run, so that it can be taken apart. -/
theorem apply_eq {α : Type} {x : Parse α} {s : Source} {r : Except SyntaxFault (α × Source)}
    (h : ∀ act, x = act → act s = r) : x s = r := h x rfl

namespace Source

theorem joinLines_eq {cs : List Char} {line : Nat} (h : cs.head? ≠ some '\\') :
    joinLines cs line = (cs, line) := by
  unfold joinLines
  split
  · simp at h
  · rfl

theorem get_eq (s : Source) : (get : Parse Source) s = .ok (s, s) := rfl

theorem peek_eq {s : Source} (h : s.rest.head? ≠ some '\\') : peek s = .ok (s.rest.head?, s) := by
  rw [peek, bind_ok (get_eq s), joinLines_eq h]
  rfl

theorem size_eq (s : Source) : size s = .ok (s.rest.length, s) := rfl

theorem modify_eq (f : Source → Source) (s : Source) :
    (modify f : Parse Unit) s = .ok ((), f s) := rfl

theorem skip_eq {s : Source} {c : Char} {cs : List Char} (h : c ≠ '\n') (hs : s.rest = c :: cs) :
    skip s = .ok ((), { s with rest := cs }) := by
  simp [skip, hs, h, modify, modifyGet, MonadStateOf.modifyGet, StateT.modifyGet, pure, Except.pure]

end Source

namespace Word

open Source

def bare (text : String) : Word := [.text text false]

/-- The parts of a word of which a piece has been read. -/
def begun (cs : List Char) : List Part := if cs = [] then [] else bare (String.ofList cs)

theorem addChar_begun (cs : List Char) (c : Char) :
    addChar false c (begun cs) = begun (cs ++ [c]) := by
  unfold begun
  split
  · next h => simp [h, addChar, bare]
  · simp [addChar, bare]

theorem reverse_begun (cs : List Char) : (begun cs).reverse = begun cs := by
  unfold begun
  split <;> rfl

theorem isMeta_of_isSpecial {c : Char} (h : isSpecial c = false) : isMeta c = false := by
  simp_all [isSpecial, specials, isMeta]

theorem dollar_inert (script : Bool → Parse (Option Command)) (inside : Setting → Parse Word)
    {s : Source} (hs : s.rest.head? ≠ some '\\')
    (h : s.rest.head?.any startsExpansion = false) :
    dollar script inside {} s = .ok (.text "$" false, s) := by
  rw [dollar, bind_ok (peek_eq hs)]
  refine apply_eq fun act hact ↦ ?_
  split at hact
  · next hc => simp [hc, startsExpansion] at h
  · next hc => simp [hc, startsExpansion] at h
  · next c _ _ hc =>
    simp only [hc, startsExpansion, Option.any_some, Bool.or_eq_false_iff] at h
    simp only [h, Bool.false_eq_true, Bool.or_self, if_false] at hact
    rw [← hact]
    rfl
  · rw [← hact]
    rfl

theorem parts_plain (script : Bool → Parse (Option Command)) {cs rest : List Char}
    (hplain : ∀ c ∈ cs, isSpecial c = false) (hinert : isInert cs = true)
    (hrest : rest = [] ∨ ∃ after, rest = ' ' :: after) :
    ∀ (n : Nat) (before : List Char) (s : Source), cs.length < n → s.rest = cs ++ rest →
      parts script n {} 0 false (begun before) s =
        .ok (begun (before ++ cs), { s with rest }) := by
  induction cs with
  | nil =>
    intro n before s hn hs
    obtain ⟨n, rfl⟩ : ∃ m, n = m + 1 := ⟨n - 1, by omega⟩
    rw [List.nil_append] at hs
    have hstop : parts script (n + 1) {} 0 false (begun before) s =
        .ok ((begun before).reverse, s) := by
      obtain rfl | ⟨after, rfl⟩ := hrest
      · rw [parts, bind_ok (peek_eq (by simp [hs])), hs]
        rfl
      · rw [parts, bind_ok (peek_eq (by simp [hs])), hs]
        rfl
    rw [hstop, reverse_begun, List.append_nil, ← hs]
  | cons c cs ih =>
    intro n before s hn hs
    obtain ⟨n, rfl⟩ : ∃ m, n = m + 1 := ⟨n - 1, by omega⟩
    have hc := hplain c (by simp)
    have hne : ∀ d, isSpecial d = true → c ≠ d := fun _ ↦ ne_of_isSpecial hc
    have hpeek : peek s = .ok (some c, s) := by
      have := @peek_eq s (by simp [hs]; exact hne _ (by decide))
      simpa [hs] using this
    rw [isInert, Bool.and_eq_true] at hinert
    have hbehind : parts script n {} 0 false (addChar false c (begun before))
        { s with rest := cs ++ rest } = .ok (begun (before ++ c :: cs), { s with rest }) := by
      rw [addChar_begun, ih (fun d hd ↦ hplain d (by simp [hd])) hinert.2 n _ _ (by simpa using hn)
        rfl]
      simp
    have hskip := skip_eq (hne _ (by decide)) hs
    rw [parts, bind_ok hpeek]
    by_cases hdollar : c = '$'
    · subst hdollar
      have hnext : (cs ++ rest).head? ≠ some '\\' ∧
          (cs ++ rest).head?.any startsExpansion = false := by
        cases cs with
        | nil =>
          obtain rfl | ⟨after, rfl⟩ := hrest
          · simp
          · exact ⟨by simp, rfl⟩
        | cons d cs =>
          have hd := ne_of_isSpecial (hplain d (by simp)) (d := '\\') (by decide)
          exact ⟨by simpa using hd, by simpa using hinert.1⟩
      exact (bind_ok hskip).trans ((bind_ok (dollar_inert script _ hnext.1 hnext.2)).trans hbehind)
    · simp only [Bool.false_and, Bool.not_false, Bool.true_and, Bool.false_eq_true, if_false,
        if_true]
      have hadd : (do
          skip
          parts script n {} 0 false (addChar false c (begun before)) : Parse Word) s =
            .ok (begun (before ++ c :: cs), { s with rest }) := (bind_ok hskip).trans hbehind
      refine (congrFun ?_ s).trans hadd
      split
      · next h => cases h
      · next h => exact absurd (Option.some_inj.1 h) (hne _ (by decide))
      · next h => exact absurd (Option.some_inj.1 h) (hne _ (by decide))
      · next h => exact absurd (Option.some_inj.1 h) (hne _ (by decide))
      · next h => rw [Option.some_inj.1 h]
      · next h => exact absurd (Option.some_inj.1 h) hdollar
      · next h => exact absurd (Option.some_inj.1 h) (hne _ (by decide))
      · next h =>
        obtain rfl := Option.some_inj.1 h
        simp only [isMeta_of_isSpecial hc, Bool.false_eq_true, if_false]

end Word

/-- A text that the shell takes for one word and leaves as it is, whatever files and variables there
are. It is not the only kind of them: a bracket that is never closed stays as well. -/
structure Plain (text : String) : Prop where
  nonempty : text.toList ≠ []
  chars : ∀ c ∈ text.toList, isSpecial c = false
  inert : isInert text.toList = true
  noComment : text.toList.head? ≠ some '#'
  noHome : text.toList.head? ≠ some '~'

instance (text : String) : Decidable (Plain text) :=
  decidable_of_iff (text.toList ≠ [] ∧ text.toList.all (!isSpecial ·) ∧ isInert text.toList ∧
      text.toList.head? ≠ some '#' ∧ text.toList.head? ≠ some '~')
    ⟨fun ⟨h₁, h₂, h₃, h₄, h₅⟩ ↦ ⟨h₁, by simpa using h₂, h₃, h₄, h₅⟩,
      fun h ↦ ⟨h.1, by simpa using h.2, h.3, h.4, h.5⟩⟩

example : Plain "a$" ∧ ¬ Plain "$a" := by decide

theorem Plain.exists_cons {text : String} (h : Plain text) :
    ∃ c cs, text.toList = c :: cs ∧ ∀ d, isSpecial d = true → c ≠ d := by
  obtain ⟨c, cs, hcs⟩ := List.exists_cons_of_ne_nil h.nonempty
  exact ⟨c, cs, hcs, fun _ ↦ ne_of_isSpecial (h.chars c (by simp [hcs]))⟩

def spaced (words : List String) : List Char := words.flatMap fun w ↦ ' ' :: w.toList

theorem spaced_cases (words : List String) :
    spaced words = [] ∨ ∃ after, spaced words = ' ' :: after := by
  cases words with
  | nil => exact .inl rfl
  | cons w words => exact .inr ⟨_, rfl⟩

namespace Token

open Source

variable (script : Bool → Parse (Option Command)) {s : Source} {w : String} {rest : List Char}

theorem skipBlanks_plain (hw : Plain w) (line : Nat) :
    skipBlanks (w.toList ++ rest) line = (w.toList ++ rest, line) := by
  obtain ⟨c, cs, hcs, hne⟩ := hw.exists_cons
  have hcomment : c ≠ '#' := by simpa [hcs] using hw.noComment
  rw [hcs]
  unfold skipBlanks
  split
  iterate 3
    · next h => exact absurd (List.cons.inj h).1 (hne _ (by decide))
  · next h => exact absurd (List.cons.inj h).1 hcomment
  · rfl

theorem wordRead_plain (hw : Plain w) (hrest : rest = [] ∨ ∃ after, rest = ' ' :: after)
    (hs : s.rest = w.toList ++ rest) :
    Word.read script {} s = .ok (Word.bare w, { s with rest }) := by
  have h := Word.parts_plain script hw.chars hw.inert hrest (s.rest.length + 1) [] s
    (by rw [hs, List.length_append]; omega) hs
  rwa [Word.begun, if_pos rfl, Word.begun, List.nil_append, if_neg hw.nonempty,
    String.ofList_toList] at h

theorem read_plain (hw : Plain w) (hrest : rest = [] ∨ ∃ after, rest = ' ' :: after)
    (hs : s.rest = w.toList ++ rest ∨ s.rest = ' ' :: (w.toList ++ rest)) :
    read script false s = .ok (.word (Word.bare w), { s with rest }) := by
  obtain ⟨c, cs, hcs, hne⟩ := hw.exists_cons
  have hskip : skipBlanks s.rest s.line = (w.toList ++ rest, s.line) := by
    obtain hs | hs := hs <;> rw [hs] <;> exact skipBlanks_plain hw _
  have hpeek : peek { s with rest := w.toList ++ rest } =
      .ok ((w.toList ++ rest).head?, { s with rest := w.toList ++ rest }) :=
    peek_eq (by simpa [hcs] using hne _ (by decide))
  have hword : Word.read script {} { s with rest := w.toList ++ rest } = _ :=
    wordRead_plain script hw hrest rfl
  have hafter : peek { s with rest } = .ok (rest.head?, { s with rest }) :=
    peek_eq (by obtain rfl | ⟨after, rfl⟩ := hrest <;> simp)
  rw [read, bind_ok (modify_eq _ _), hskip, bind_ok hpeek, hcs]
  refine apply_eq fun act hact ↦ ?_
  split at hact
  · next h => cases h
  iterate 8
    · next h => exact absurd (Option.some_inj.1 h) (hne _ (by decide))
  rw [← hact, ← hcs, bind_ok hword, bind_ok hafter]
  refine apply_eq fun act hact ↦ ?_
  split at hact
  · next d c hd hc =>
    have hblank : c = ' ' := by
      obtain rfl | ⟨after, rfl⟩ := hrest
      · cases hc
      · exact (Option.some_inj.1 hc).symm
    rw [hblank, if_neg (by simp)] at hact
    rw [← hact]
    rfl
  · rw [← hact]
    rfl

theorem read_finish (hs : s.rest = []) : read script false s = .ok (.finish, s) := by
  cases s
  cases hs
  rfl

theorem pull_of_none (hs : s.pushed = none) : pull script s = read script false s := by
  rw [pull, bind_ok (get_eq s), hs]

theorem pull_of_some {token : Token} (hs : s.pushed = some token) :
    pull script s = .ok (token, { s with pushed := none }) := by
  rw [pull, bind_ok (get_eq s), hs]
  rfl

theorem next_eq {token : Token} {s' : Source} (keywords : Bool)
    (h : pull script s = .ok (token, s')) :
    next script false keywords s = .ok (if keywords then token.withKeyword else token, s') := by
  rw [next, bind_ok h]
  rfl

theorem alias?_eq {token : Token} (hs : s.aliases = []) : alias? token s = .ok (false, s) := by
  rw [alias?, bind_ok (get_eq s)]
  refine apply_eq fun act hact ↦ ?_
  cases token with
  | word w =>
    simp [hs] at hact
    rw [← hact]
    rfl
  | keyword | operator | redirect | document | newline | finish =>
    rw [← hact]
    rfl

theorem first_eq {token : Token} {s' : Source} {n : Nat} (h : pull script s = .ok (token, s'))
    (hs' : s'.aliases = []) : first script false n s = .ok (token.withKeyword, s') := by
  cases n with
  | zero => exact next_eq script true h
  | succ n =>
    rw [first, bind_ok (next_eq script true h), bind_ok (alias?_eq hs')]
    rfl

theorem plainFirst_eq {token : Token} {s' : Source} {n : Nat} (h : pull script s = .ok (token, s'))
    (hs' : s'.aliases = []) : plainFirst script n s = .ok (token, s') := by
  cases n with
  | zero => exact h
  | succ n =>
    rw [plainFirst, bind_ok h, bind_ok (alias?_eq hs')]
    rfl

theorem following_eq {token : Token} {s' : Source} (h : pull script s = .ok (token, s'))
    (hs' : s'.expanding = []) : following script s = .ok (token, s') := by
  rw [following, bind_ok (get_eq s), bind_ok h, bind_ok (get_eq s'), hs']
  rfl

end Token

namespace Script

open Source

variable (nested : Parse Command) (script : Bool → Parse (Option Command))

/-- A source that no alias and no here-document gets in the way of. -/
structure Clear (s : Source) : Prop where
  aliases : s.aliases = []
  expanding : s.expanding = []
  announced : s.announced = []

def atEnd (s : Source) : Source := { s with rest := [], pushed := some .finish }

theorem simple_behind {words : List String} (hwords : ∀ w ∈ words, Plain w) (line : Nat) :
    ∀ (n : Nat) (before : List Word) (s : Source), words.length < n → before ≠ [] → Clear s →
      s.pushed = none → s.rest = spaced words →
      simple nested script line n { words := before } s =
        .ok (.simple line [] (before ++ words.map Word.bare) [], atEnd s) := by
  induction words with
  | nil =>
    intro n before s hn hbefore hclear hpushed hrest
    obtain ⟨n, rfl⟩ : ∃ m, n = m + 1 := ⟨n - 1, by omega⟩
    obtain ⟨b, before, rfl⟩ := List.exists_cons_of_ne_nil hbefore
    have htoken : Token.following script s = .ok (.finish, s) :=
      Token.following_eq script ((Token.pull_of_none script hpushed).trans
        (Token.read_finish script hrest)) hclear.expanding
    rw [simple, if_neg (by simp), bind_ok htoken, List.map_nil, List.append_nil]
    cases s
    cases hrest
    rfl
  | cons w words ih =>
    intro n before s hn hbefore hclear hpushed hrest
    obtain ⟨n, rfl⟩ : ∃ m, n = m + 1 := ⟨n - 1, by omega⟩
    obtain ⟨b, before, rfl⟩ := List.exists_cons_of_ne_nil hbefore
    have htoken : Token.following script s =
        .ok (.word (Word.bare w), { s with rest := spaced words }) :=
      Token.following_eq script ((Token.pull_of_none script hpushed).trans
        (Token.read_plain script (hwords w (by simp)) (spaced_cases words) (.inr hrest)))
        hclear.expanding
    rw [simple, if_neg (by simp), bind_ok htoken]
    refine (ih (fun v hv ↦ hwords v (by simp [hv])) n (b :: before ++ [Word.bare w])
      { s with rest := spaced words } (by simpa using hn) (by simp)
      ⟨hclear.aliases, hclear.expanding, hclear.announced⟩ hpushed rfl).trans ?_
    simp [atEnd]

theorem next_atEnd (s : Source) : Token.next script false false (atEnd s) =
    .ok (.finish, { s with rest := [], pushed := none }) :=
  Token.next_eq script false (Token.pull_of_some script rfl)

theorem stages_atEnd (n : Nat) (command : Command) (s : Source) :
    stages nested script (n + 1) [command] (atEnd s) = .ok (command, atEnd s) := by
  rw [stages, bind_ok (next_atEnd script s)]
  rfl

theorem andOr_atEnd (n : Nat) (command : Command) (s : Source) :
    andOr nested script (n + 1) command (atEnd s) = .ok (command, atEnd s) := by
  rw [andOr, bind_ok (next_atEnd script s)]
  rfl

/-- A word has been taken that starts a command, and what is left are other words. -/
structure Begins (w : String) (words : List String) (s : Source) : Prop extends Clear s where
  noKeyword : w ∉ keywords
  noAssignment : (Word.bare w).assignment? = none
  plain : ∀ w ∈ words, Plain w
  pushed : s.pushed = some (.word (Word.bare w))
  rest : s.rest = spaced words

section Begins

variable {nested script} {w : String} {words : List String} {s : Source}

theorem length_le_spaced (words : List String) : words.length ≤ (spaced words).length := by
  induction words with
  | nil => exact Nat.zero_le _
  | cons w words ih =>
    simp only [spaced, List.flatMap_cons, List.length_append, List.length_cons] at ih ⊢
    omega

theorem withKeyword_bare (h : w ∉ keywords) :
    (Token.word (Word.bare w)).withKeyword = .word (Word.bare w) :=
  if_neg (by simpa using h)

theorem Begins.simple_eq (h : Begins w words s) {line n : Nat} (hn : words.length + 1 < n) :
    simple nested script line n {} s =
      .ok (.simple line [] ((w :: words).map Word.bare) [], atEnd s) := by
  obtain ⟨n, rfl⟩ : ∃ m, n = m + 1 := ⟨n - 1, by omega⟩
  have htoken := @Token.plainFirst_eq script s _ _ s.rest.length
    (Token.pull_of_some script h.pushed) h.aliases
  rw [simple, if_pos List.isEmpty_nil, bind_ok (size_eq s), bind_ok htoken]
  simp only [h.noAssignment]
  exact simple_behind nested script h.plain line n [Word.bare w] { s with pushed := none }
    (by omega) (by simp) ⟨h.aliases, h.expanding, h.announced⟩ rfl h.rest

theorem Begins.first_eq (h : Begins w words s) {n : Nat} : Token.first script false n s =
    .ok (.word (Word.bare w), { s with pushed := none }) := by
  rw [Token.first_eq script (Token.pull_of_some script h.pushed) h.aliases,
    withKeyword_bare h.noKeyword]

theorem Begins.push_eq (h : Begins w words s) :
    push (.word (Word.bare w)) { s with pushed := none } = .ok ((), s) := by
  rw [push, modify_eq, ← h.pushed]

theorem Begins.commandWith_eq (h : Begins w words s) : commandWith nested script s =
    .ok (.simple s.line [] ((w :: words).map Word.bare) [], atEnd s) := by
  have hcompound : compound? nested script s.line (.word (Word.bare w)) { s with pushed := none } =
      .ok (none, { s with pushed := none }) := rfl
  rw [commandWith, bind_ok (size_eq s), bind_ok h.first_eq, bind_ok (get_eq _), bind_ok hcompound]
  refine (bind_ok h.push_eq).trans ((bind_ok (size_eq s)).trans (h.simple_eq ?_))
  have := length_le_spaced words
  rw [h.rest]
  omega

theorem Begins.pipeline_eq (h : Begins w words s) (depth : Nat) :
    pipeline (command (depth + 1)) script s =
      .ok (.simple s.line [] ((w :: words).map Word.bare) [], atEnd s) := by
  have hcommand : command (depth + 1) s = _ := h.commandWith_eq
  rw [pipeline, bind_ok (size_eq s), bind_ok h.first_eq]
  refine (bind_ok h.push_eq).trans ((bind_ok hcommand).trans ?_)
  rw [bind_ok (size_eq _), stages_atEnd]

theorem Begins.item_eq (h : Begins w words s) (depth : Nat) :
    item (command (depth + 1)) script s =
      .ok ((.simple s.line [] ((w :: words).map Word.bare) [], .finish),
        { s with rest := [], pushed := none }) := by
  rw [item, bind_ok (size_eq _), bind_ok (h.pipeline_eq depth), bind_ok (andOr_atEnd ..),
    bind_ok (next_atEnd ..)]
  rfl

theorem readDocuments_eq (hs : s.announced = []) : Token.readDocuments script s = .ok ((), s) := by
  rw [Token.readDocuments, bind_ok (get_eq s), bind_ok (modify_eq _ s), hs]
  cases s
  cases hs
  rfl

theorem line_eq {depth n : Nat} (hs : Clear s) (hpushed : s.pushed = none) (hw : Plain w)
    (hkeyword : w ∉ keywords) (hassign : (Word.bare w).assignment? = none)
    (hwords : ∀ w ∈ words, Plain w) (hrest : s.rest = w.toList ++ spaced words) :
    line (depth + 1) (n + 1) none s =
      .ok (some (.simple s.line [] ((w :: words).map Word.bare) []),
        { s with rest := [], pushed := none }) := by
  have hbegins : Begins w words
      { s with rest := spaced words, pushed := some (.word (Word.bare w)) } :=
    { aliases := hs.aliases, expanding := hs.expanding, announced := hs.announced
      noKeyword := hkeyword, noAssignment := hassign, plain := hwords, pushed := rfl, rest := rfl }
  have hfirst : Token.first (script (depth + 1)) false s.rest.length s =
      .ok (.word (Word.bare w), { s with rest := spaced words }) := by
    rw [Token.first_eq _ ((Token.pull_of_none _ hpushed).trans
      (Token.read_plain _ hw (spaced_cases words) (.inl hrest))) hs.aliases,
      withKeyword_bare hkeyword]
  have hpush : push (.word (Word.bare w)) { s with rest := spaced words } = .ok ((), _) :=
    modify_eq _ _
  rw [line, bind_ok (size_eq s), bind_ok hfirst]
  refine (bind_ok hpush).trans ((bind_ok (hbegins.item_eq depth)).trans ?_)
  refine (bind_ok (readDocuments_eq ?_)).trans ?_
  · exact hs.announced
  · rfl

theorem next_eq_simple (hw : Plain w) (hkeyword : w ∉ keywords)
    (hassign : (Word.bare w).assignment? = none) (hwords : ∀ w ∈ words, Plain w) :
    next { rest := w.toList ++ spaced words } =
      .ok (.command (.simple 1 [] ((w :: words).map Word.bare) []) { rest := [] }) := by
  have hline := @line_eq w words { rest := w.toList ++ spaced words }
    (w.toList ++ spaced words).length (w.toList ++ spaced words).length ⟨rfl, rfl, rfl⟩ rfl hw
    hkeyword hassign hwords rfl
  have hempty : (w.toList ++ spaced words).isEmpty = false := by
    simp [hw.nonempty]
  rw [next, Token.skipBlanks_plain hw]
  simp only [hempty, StateT.run, hline]
  rfl

end Begins

end Script

section Expansion

variable {w : String} {words : List String}

theorem withHome_bare (hw : Plain w) (p : Process) : withHome p (Word.bare w) = Word.bare w := by
  obtain ⟨c, cs, hcs, -⟩ := hw.exists_cons
  have hc : c ≠ '~' := by simpa [hcs] using hw.noHome
  simp only [withHome, Word.bare, hcs]
  split
  · next h => exact absurd (List.cons.inj h).1 hc
  · rfl

theorem foldl_add_glyphs (separators cs : List Char) (closed : List (List Glyph))
    (field : List Glyph) :
    (cs.map fun c ↦ Mark.glyph ⟨c, false⟩ false).foldl (Fields.add separators)
        ⟨closed, some field, false⟩ =
      ⟨closed, some ((cs.map (⟨·, false⟩)).reverse ++ field), false⟩ := by
  induction cs generalizing field with
  | nil => rfl
  | cons c cs ih => simp [Fields.add, ih]

theorem splitFields_plain (hw : Plain w) (separators : List Char) :
    splitFields separators (Mark.ofText false false w) = [w.toList.map (⟨·, false⟩)] := by
  obtain ⟨c, cs, hcs, -⟩ := hw.exists_cons
  have hfirst : Fields.add separators {} (.glyph ⟨c, false⟩ false) =
      ⟨[], some [⟨c, false⟩], false⟩ := rfl
  simp [splitFields, Mark.ofText, hcs, hfirst, foldl_add_glyphs, Fields.close]

theorem isActive_plain (cs : List Char) (h : ∀ c ∈ cs, isSpecial c = false) :
    Pattern.isActive (cs.map (⟨·, false⟩)) = false := by
  have hactive : ∀ c, isSpecial c = false → c ≠ '\\' ∧ "*?[".toList.contains c = false := by
    simp +contextual [isSpecial, specials]
  induction cs with
  | nil => rfl
  | cons c cs ih =>
    obtain ⟨hescape, hc⟩ := hactive c (h c (by simp))
    have hcs := ih fun d hd ↦ h d (by simp [hd])
    cases cs with
    | nil => simp only [List.map_cons, List.map_nil, Pattern.isActive, hc, Bool.and_false]
    | cons d cs =>
      rw [List.map_cons] at hcs
      rw [List.map_cons, List.map_cons, Pattern.isActive, if_neg (by simp [hescape]), hc, hcs]
      rfl

theorem expandFields_bare (output : Option Command → Run String) (hw : Plain w) :
    expandFields output (Word.bare w) = (do let _ ← disk; return [w]) := by
  have hparts : expandParts output true wordDepth false (Word.bare w) =
      (pure (Mark.ofText false false w) : Run (List Mark)) := by
    show expandParts output true (9999 + 1) false (Word.bare w) = _
    rw [expandParts]
    rfl
  have htext : glyphText (w.toList.map (⟨·, false⟩)) = w := by
    simp [glyphText, List.map_map, Function.comp_def]
  have hfield : ∀ (p : Process) (d : Disk),
      (if p.has 'f' then [glyphText (w.toList.map (⟨·, false⟩))]
        else expandPattern d (w.toList.map (⟨·, false⟩))) = [w] := by
    intro p d
    rw [expandPattern, isActive_plain _ hw.chars, htext]
    simp
  have hprocess : ∀ {α : Type} (f : Process → Run α) (p : Process) k,
      (process >>= f) p k = f p p k := fun _ _ _ ↦ rfl
  have hpure : ∀ {α β : Type} (a : α) (f : α → Run β), (pure a >>= f) = f a := fun _ _ ↦ rfl
  funext p k
  rw [expandFields, hprocess, withHome_bare hw, hparts, hpure, hprocess, splitFields_plain hw]
  simp only [List.flatMap_cons, List.flatMap_nil, List.append_nil, hfield]

/-- The body of the loop need only be known where the words before have been taken up. -/
theorem forIn_bare (f : Word → List String → Run (ForInStep (List String))) (args : List String)
    (hf : ∀ before w after, words = before ++ w :: after → f (Word.bare w) (args ++ before) =
      (do let _ ← disk; return .yield (args ++ before ++ [w]))) :
    forIn (words.map Word.bare) args f =
      (do forM words fun _ ↦ (do let _ ← disk); return args ++ words) := by
  induction words generalizing args with
  | nil => simp
  | cons w words ih =>
    have hw := hf [] w words rfl
    rw [List.append_nil] at hw
    have hrest := ih (args ++ [w]) fun before v after h ↦ by
      simpa using hf (w :: before) v after (by rw [h, List.cons_append])
    simp only [List.map_cons, List.forIn_cons, hw, bind_assoc, pure_bind, hrest, List.forM_cons,
      List.append_assoc, List.singleton_append]

/-- Words that are plain stand for themselves; all that is done is to look at the files. -/
theorem expandWords_bare (self : Evaluator) (hwords : ∀ w ∈ words, Plain w)
    (hhead : ∀ name ∈ words.head?, name ≠ "command" ∧ takesAssignments (some name) = false) :
    expandWords self (words.map Word.bare) =
      (do forM words fun _ ↦ (do let _ ← disk); return words) := by
  rw [expandWords, forIn_bare _ [] fun before w after h ↦ ?_]
  · simp
  · have hw := hwords w (by simp [h])
    have hname : takesAssignments
        (if before.head? = some "command" then before[1]? else before.head?) = false := by
      cases before with
      | nil => rfl
      | cons name before =>
        obtain ⟨hcommand, htakes⟩ := hhead name (by simp [h])
        simpa [hcommand] using htakes
    simp [hname, expandFields_bare _ hw]

end Expansion

theorem Plain.append {a b : String} (ha : Plain a) (hb : Plain b)
    (h : a.toList.getLast? ≠ some '$' ∨ b.toList.head?.any startsExpansion = false) :
    Plain (a ++ b) := by
  obtain ⟨c, cs, hcs, -⟩ := ha.exists_cons
  refine ⟨by simp [hcs], fun d hd ↦ ?_, ?_, ?_, ?_⟩
  · rw [String.toList_append, List.mem_append] at hd
    exact hd.elim (ha.chars d) (hb.chars d)
  · rw [String.toList_append]
    exact isInert_append ha.inert hb.inert h
  · simpa [hcs] using ha.noComment
  · simpa [hcs] using ha.noHome

theorem toNat_lt_of_isSpecial {c : Char} (h : isSpecial c = true) : c.toNat < 128 := by
  have hall : specials.all (·.toNat < 128) = true := by decide
  exact of_decide_eq_true (List.all_eq_true.1 hall c (List.contains_iff_mem.1 h))

theorem toNat_lt_of_isNameChar {c : Char} (h : Word.isNameChar c = true) : c.toNat < 128 := by
  have hle : ∀ d : Char, d.toNat < 128 → c.val ≤ d.val → c.toNat < 128 :=
    fun d hd hcd ↦ Nat.lt_of_le_of_lt (UInt32.le_iff_toNat_le.1 hcd) hd
  simp only [Word.isNameChar, Word.isNameStart, Bool.or_eq_true, decide_eq_true_eq] at h
  obtain (halpha | rfl) | hdigit := h
  · obtain hupper | hlower := Bool.or_eq_true_iff.1 halpha
    · exact hle 'Z' (by decide) (of_decide_eq_true hupper).2
    · exact hle 'z' (by decide) (of_decide_eq_true (Bool.and_eq_true_iff.1 hlower).2)
  · decide
  · exact hle '9' (by decide) (of_decide_eq_true (Bool.and_eq_true_iff.1 hdigit).2)

theorem toNat_lt_of_startsExpansion {c : Char} (h : startsExpansion c = true) : c.toNat < 128 := by
  simp only [startsExpansion, Bool.or_eq_true, decide_eq_true_eq] at h
  obtain (((rfl | rfl) | hname) | hdigit) | hspecial := h
  · decide
  · decide
  · exact toNat_lt_of_isNameChar (by rw [Word.isNameChar, hname, Bool.true_or])
  · exact toNat_lt_of_isNameChar (by rw [Word.isNameChar, hdigit, Bool.or_true])
  · have hall : "!#$-?*@".toList.all (·.toNat < 128) = true := by decide
    exact of_decide_eq_true (List.all_eq_true.1 hall c (List.contains_iff_mem.1 hspecial))

theorem isInert_of_large {cs : List Char} (h : ∀ c ∈ cs, 128 ≤ c.toNat) : isInert cs = true := by
  induction cs with
  | nil => rfl
  | cons c cs ih =>
    have hne : c ≠ '$' := by
      rintro rfl
      exact absurd (h '$' (by simp)) (by decide)
    simp [isInert, hne, ih fun d hd ↦ h d (by simp [hd])]

theorem isInert_flatMap {cs : List Char} (h : isInert cs = true) :
    isInert (cs.flatMap Octet.ofChar) = true := by
  induction cs with
  | nil => rfl
  | cons c cs ih =>
    rw [isInert, Bool.and_eq_true] at h
    rw [List.flatMap_cons]
    obtain ⟨-, hc⟩ | ⟨-, hlarge⟩ := Octet.ofChar_cases c
    · rw [hc]
      refine isInert_append (by simp [isInert]) (ih h.2) ?_
      by_cases hdollar : c = '$'
      · right
        rw [Bool.eq_false_iff]
        intro hany
        obtain ⟨d, hd, hstarts⟩ := (Option.any_eq_true ..).1 hany
        obtain ⟨rest, hrest⟩ := List.head?_eq_some_iff.1 hd
        obtain ⟨cs', rfl, -⟩ :=
          Octet.exists_cons_of_flatMap (toNat_lt_of_startsExpansion hstarts) hrest
        simp [hdollar, hstarts] at h
      · left
        simpa using hdollar
    · refine isInert_append (isInert_of_large hlarge) (ih h.2) (.inl fun hlast ↦ ?_)
      exact absurd (hlarge '$' (List.mem_of_getLast? hlast)) (by decide)

theorem Plain.ofText {text : String} (h : Plain text) : Plain (Octet.ofText text) := by
  obtain ⟨c, cs, hcs, -⟩ := h.exists_cons
  have hhead : ∀ d : Char, d.toNat < 128 → text.toList.head? ≠ some d →
      (Octet.ofText text).toList.head? ≠ some d := by
    intro d hd hne hhead
    obtain ⟨rest, hrest⟩ := List.head?_eq_some_iff.1 hhead
    rw [Octet.toList_ofText] at hrest
    obtain ⟨cs', hcs', -⟩ := Octet.exists_cons_of_flatMap hd hrest
    exact hne (by rw [hcs']; rfl)
  refine ⟨?_, fun d hd ↦ ?_, ?_, hhead _ (by decide) h.noComment, hhead _ (by decide) h.noHome⟩
  · rw [Octet.toList_ofText, hcs, List.flatMap_cons]
    obtain ⟨-, hc⟩ | ⟨hc, -⟩ := Octet.ofChar_cases c <;> simp [hc]
  · rw [Octet.toList_ofText, List.mem_flatMap] at hd
    obtain ⟨e, he, hd⟩ := hd
    obtain ⟨-, heq⟩ | ⟨-, hbig⟩ := Octet.ofChar_cases e
    · rw [heq, List.mem_singleton] at hd
      rw [hd]
      exact h.chars e he
    · refine Bool.eq_false_iff.2 fun hspecial ↦ ?_
      have := toNat_lt_of_isSpecial hspecial
      have := hbig d hd
      omega
  · rw [Octet.toList_ofText]
    exact isInert_flatMap h.inert

/-- The text assigns something to a variable if it stands where a command starts. -/
def Assigns (text : String) : Prop := ∃ name value, text = name ++ "=" ++ value ∧ Word.isName name

theorem isNameChar_of_isName {cs : List Char} (h : Word.isName (String.ofList cs) = true) :
    ∀ c ∈ cs, Word.isNameChar c = true := by
  cases cs with
  | nil => simp
  | cons c cs =>
    simp only [Word.isName, String.toList_ofList, Bool.and_eq_true, List.all_eq_true] at h
    intro d hd
    obtain rfl | hd := List.mem_cons.1 hd
    · rw [Word.isNameChar, h.1, Bool.true_or]
    · exact h.2 d hd

theorem exists_append_of_flatMap {name cs rest : List Char} (hname : ∀ c ∈ name, c.toNat < 128)
    (h : cs.flatMap Octet.ofChar = name ++ rest) :
    ∃ cs', cs = name ++ cs' ∧ cs'.flatMap Octet.ofChar = rest := by
  induction name generalizing cs with
  | nil => exact ⟨cs, rfl, h⟩
  | cons c name ih =>
    obtain ⟨cs₁, rfl, h₁⟩ := Octet.exists_cons_of_flatMap (hname c (by simp)) h
    obtain ⟨cs₂, rfl, h₂⟩ := ih (fun d hd ↦ hname d (by simp [hd])) h₁
    exact ⟨cs₂, rfl, h₂⟩

theorem assignment?_ofText {text : String} (h : ¬ Assigns text) :
    (Word.bare (Octet.ofText text)).assignment? = none := by
  have hsplit : Word.splitAssignment? (Octet.ofText text) = none := by
    unfold Word.splitAssignment?
    simp only
    split
    · next value hdrop =>
      refine if_neg fun hname ↦ h ?_
      have hbytes := List.takeWhile_append_dropWhile (p := fun c ↦ decide (c ≠ '='))
        (l := (Octet.ofText text).toList)
      rw [hdrop, Octet.toList_ofText] at hbytes
      obtain ⟨cs₁, hcs₁, h₁⟩ := exists_append_of_flatMap
        (fun c hc ↦ toNat_lt_of_isNameChar (isNameChar_of_isName hname c (by
          rwa [Octet.toList_ofText]))) hbytes.symm
      obtain ⟨cs₂, rfl, -⟩ := Octet.exists_cons_of_flatMap (by decide) h₁
      refine ⟨_, String.ofList cs₂, String.toList_inj.1 ?_, hname⟩
      rw [hcs₁, Octet.toList_ofText]
      simp
    · rfl
  rw [Word.bare, Word.assignment?, hsplit]
  rfl

/-- The shell reads a command line as one simple command of the given words and nothing else, and
the words stay as they are when it is run. -/
structure ReadsAs (command : String) (words : List String) : Prop where
  reads : Script.next { rest := (Octet.ofText command).toList } =
    .ok (.command (.simple 1 [] ((words.map Octet.ofText).map Word.bare) []) { rest := [] })
  expands : ∀ self, expandWords self ((words.map Octet.ofText).map Word.bare) =
    (do forM (words.map Octet.ofText) fun _ ↦ (do let _ ← disk); return words.map Octet.ofText)

theorem ReadsAs.length_eq {command : String} {words others : List String}
    (h : ReadsAs command words) (h' : ReadsAs command others) : words.length = others.length := by
  have hsame := Except.ok.inj (h.reads.symm.trans h'.reads)
  simp only [Script.Step.command.injEq, Command.simple.injEq] at hsame
  simpa using congrArg List.length hsame.1.2.2.1

def reserved : List String := keywords ++ ["command", "export", "readonly", "local"]

theorem flatMap_spaced (words : List String) :
    (spaced words).flatMap Octet.ofChar = spaced (words.map Octet.ofText) := by
  induction words with
  | nil => rfl
  | cons w words ih =>
    have hblank : Octet.ofChar ' ' = [' '] := by decide
    simp only [spaced, List.flatMap_cons, List.flatMap_append, List.map_cons, hblank,
      Octet.toList_ofText] at ih ⊢
    rw [ih]
    rfl

theorem readsAs_of_plain {command w : String} {words : List String}
    (hcommand : command.toList = w.toList ++ spaced words) (hplain : ∀ v ∈ w :: words, Plain v)
    (hreserved : Octet.ofText w ∉ reserved) (hassigns : ¬ Assigns w) :
    ReadsAs command (w :: words) := by
  have hbytes : ∀ v ∈ (w :: words).map Octet.ofText, Plain v := by
    intro v hv
    obtain ⟨u, hu, rfl⟩ := List.mem_map.1 hv
    exact (hplain u hu).ofText
  refine ⟨?_, fun self ↦ expandWords_bare self hbytes ?_⟩
  · rw [Octet.toList_ofText, hcommand, List.flatMap_append, flatMap_spaced, ← Octet.toList_ofText]
    refine Script.next_eq_simple (hbytes _ (by simp)) (fun h ↦ hreserved (by simp [reserved, h]))
      (assignment?_ofText hassigns) fun v hv ↦ hbytes v (by simp [hv])
  · rintro name hname
    obtain rfl : Octet.ofText w = name := by simpa using hname
    simp only [reserved, List.mem_append, not_or] at hreserved
    simpa [takesAssignments] using hreserved.2

theorem not_assigns_of_notMem {text : String} (h : '=' ∉ text.toList) : ¬ Assigns text := by
  rintro ⟨name, value, rfl, -⟩
  simp at h

theorem not_reserved_of_slash {text : String} (h : '/' ∈ text.toList) :
    Octet.ofText text ∉ reserved := by
  have hslash : '/' ∈ (Octet.ofText text).toList := by
    rw [Octet.toList_ofText, List.mem_flatMap]
    exact ⟨'/', h, by decide⟩
  have hnone : ∀ name ∈ reserved, '/' ∉ name.toList := by decide
  exact fun hmem ↦ hnone _ hmem hslash

end Shell

namespace Disk

theorem walk_dot {d : Disk} {follow : Bool} {n links : Nat} {p q : Place} {names : List String}
    (h : d.walk follow (n + 1) links p ("." :: names) = .ok q) :
    d.walk follow n links p names = .ok q := by
  rw [walk] at h
  split at h
  · cases h
  split at h
  · cases h
  split at h
  · cases h
  · simpa using h

theorem names_dot_slash (path : String) : names ("./" ++ path) = "." :: names path := by
  have hlist : ("./" ++ path).toList = '.' :: '/' :: path.toList := by simp
  have hsplit : ('.' :: '/' :: path.toList).splitOn '/' = ['.'] :: path.toList.splitOn '/' := rfl
  rw [names, hlist, hsplit]
  rfl

theorem locate_of_dot_slash {d : Disk} {path : String} {follow : Bool} {q : Place}
    (hne : path.toList ≠ []) (hslash : '/' ∉ path.toList)
    (h : d.locate ("./" ++ path) follow = .ok q) : d.locate path follow = .ok q := by
  obtain ⟨c, cs, hcs⟩ := List.exists_cons_of_ne_nil hne
  have hlist : ("./" ++ path).toList = '.' :: '/' :: path.toList := by simp
  have hempty : path.isEmpty = false := by
    rw [Bool.eq_false_iff, ne_eq, String.isEmpty_iff]
    rintro rfl
    exact hne rfl
  have hwants : wantsDirectory ("./" ++ path) = wantsDirectory path := by
    simp [wantsDirectory, hlist, hcs]
  have habsolute : isAbsolute ("./" ++ path) = isAbsolute path := by
    have hc : c ≠ '/' := fun hc ↦ hslash (by simp [hcs, hc])
    simp [isAbsolute, hcs, hc]
  have hsize : ("./" ++ path).utf8ByteSize = 2 + path.utf8ByteSize := by
    rw [String.utf8ByteSize_append]
    rfl
  unfold locate at h ⊢
  split at h
  · cases h
  split at h
  · cases h
  next hnul =>
  split at h
  · cases h
  next hlimit =>
  rw [hlist] at hnul
  rw [if_neg (by simp [hempty]), if_neg (by simpa using hnul), if_neg (by omega)]
  rw [names_dot_slash, hwants, habsolute] at h
  exact (KeepsWays.refl d).walk (walk_dot h) 1

end Disk

namespace Shell

theorem readsAs_build_rust {path : String} (h : Plain path) :
    ReadsAs (Dialect.rust.recipe.buildCommand path)
      ["rustc", "-O", "-A", "warnings", path ++ ".rs", "-o", path] := by
  refine readsAs_of_plain ?_ ?_ (by decide +kernel) (not_assigns_of_notMem (by decide))
  · simp [Recipe.buildCommand, Recipe.intermediatePath, Dialect.rust, spaced]
  · have hpath := h.append (show Plain ".rs" by decide) (.inr (by decide))
    simp only [List.forall_mem_cons]
    exact ⟨by decide, by decide, by decide, by decide, hpath, by decide, h, by simp⟩

theorem readsAs_build_swift {path : String} (h : Plain path) :
    ReadsAs (Dialect.swift.recipe.buildCommand path)
      ["swiftc", path ++ ".swift", "-o", path, "-suppress-warnings"] := by
  refine readsAs_of_plain ?_ ?_ (by decide +kernel) (not_assigns_of_notMem (by decide))
  · simp [Recipe.buildCommand, Recipe.intermediatePath, Dialect.swift, spaced]
  · have hpath := h.append (show Plain ".swift" by decide) (.inr (by decide))
    simp only [List.forall_mem_cons]
    exact ⟨by decide, hpath, by decide, h, by decide, by simp⟩

theorem readsAs_slash {path : String} (h : Plain path) (hslash : '/' ∈ path.toList)
    (hassigns : ¬ Assigns path) : ReadsAs path [path] :=
  readsAs_of_plain (by simp [spaced]) (by simpa using h) (not_reserved_of_slash hslash) hassigns

theorem plain_dot_slash {path : String} (h : Plain path) : Plain ("./" ++ path) :=
  Plain.append (by decide) h (.inl (by decide))

theorem not_assigns_dot_slash (path : String) : ¬ Assigns ("./" ++ path) := by
  rintro ⟨name, value, h, hname⟩
  have hlist := congrArg String.toList h
  cases hcs : name.toList with
  | nil => simp [Word.isName, hcs] at hname
  | cons c cs =>
    have hc : c = '.' := by
      simp only [String.toList_append, hcs, List.cons_append] at hlist
      exact (List.cons.inj hlist).1.symm
    rw [Word.isName, hcs, hc] at hname
    exact absurd hname (by simp [show Word.isNameStart '.' = false by decide])

end Shell

namespace Plan

open Shell

/-- Both the text and the program are handed on by the shell under the names that they have, if
there is nothing in the path that the shell gives a meaning to. -/
theorem commands_survive_shell (p : Plan) (h : Plain p.path) :
    ReadsAs (Dialect.rust.recipe.buildCommand p.path)
      ["rustc", "-O", "-A", "warnings", p.path ++ ".rs", "-o", p.path] ∧
    ReadsAs (Dialect.swift.recipe.buildCommand p.path)
      ["swiftc", p.path ++ ".swift", "-o", p.path, "-suppress-warnings"] ∧
    (('/' ∈ p.path.toList → ¬ Assigns p.path) → ReadsAs p.runCommand [p.runCommand]) ∧
    ∀ (d : Disk) (follow : Bool) (q : Place),
      d.locate p.runCommand follow = .ok q → d.locate p.path follow = .ok q := by
  refine ⟨readsAs_build_rust h, readsAs_build_swift h, fun hassigns ↦ ?_, fun d follow q hq ↦ ?_⟩
  · by_cases hslash : '/' ∈ p.path.toList
    · rw [runCommand, if_pos (by simpa using hslash)]
      exact readsAs_slash h hslash (hassigns hslash)
    · rw [runCommand, if_neg (by simpa using hslash)]
      exact readsAs_slash (plain_dot_slash h) (by simp) (not_assigns_dot_slash _)
  · by_cases hslash : '/' ∈ p.path.toList
    · rwa [runCommand, if_pos (by simpa using hslash)] at hq
    · rw [runCommand, if_neg (by simpa using hslash)] at hq
      exact Disk.locate_of_dot_slash h.nonempty hslash hq

theorem commands_survive_shell_accented_path :
    Plain "bin/día" ∧ ¬ Assigns "bin/día" ∧
    ReadsAs "rustc -O -A warnings bin/día.rs -o bin/día"
      ["rustc", "-O", "-A", "warnings", "bin/día.rs", "-o", "bin/día"] ∧
    ReadsAs "bin/día" ["bin/día"] := by
  have hplain : Plain "bin/día" := by decide
  have hassigns : ¬ Assigns "bin/día" := not_assigns_of_notMem (by decide)
  obtain ⟨hrust, -, hrun, -⟩ := commands_survive_shell ⟨"bin/día", false, true⟩ hplain
  exact ⟨hplain, hassigns, hrust, hrun fun _ ↦ hassigns⟩

/-- A blank in a path makes two words of it. -/
theorem blank_splits_path :
    ReadsAs (Dialect.rust.recipe.buildCommand "a b")
      ["rustc", "-O", "-A", "warnings", "a", "b.rs", "-o", "a", "b"] ∧
    ¬ ReadsAs (Dialect.rust.recipe.buildCommand "a b")
      ["rustc", "-O", "-A", "warnings", "a b.rs", "-o", "a b"] ∧
    ReadsAs (Plan.runCommand ⟨"a b", false, true⟩) ["./a", "b"] ∧
    ¬ ReadsAs (Plan.runCommand ⟨"a b", false, true⟩) ["./a b"] := by
  have hbuild : ReadsAs (Dialect.rust.recipe.buildCommand "a b")
      ["rustc", "-O", "-A", "warnings", "a", "b.rs", "-o", "a", "b"] :=
    readsAs_of_plain (by decide) (by decide) (by decide +kernel) (not_assigns_of_notMem (by decide))
  have hrun : ReadsAs (Plan.runCommand ⟨"a b", false, true⟩) ["./a", "b"] :=
    readsAs_of_plain (by decide) (by decide) (by decide +kernel) (not_assigns_of_notMem (by decide))
  exact ⟨hbuild, fun h ↦ absurd (hbuild.length_eq h) (by decide), hrun,
    fun h ↦ absurd (hrun.length_eq h) (by decide)⟩

end Plan

end RegisterLang
