import Mathlib.Data.List.Induction
import Mathlib.Data.Nat.Digits.Defs
import RegisterLang.Text.Blank
import RegisterLang.Text.Decimal
import RegisterLang.Token.Lexeme

namespace RegisterLang

namespace Text

theorem trim_append_blank {c : Char} (h : isBlank c = true) (cs : List Char) :
    trim (cs ++ [c]) = trim cs := by
  rw [trim, trim, List.dropWhile_append]
  split
  · next he =>
    rw [List.isEmpty_iff] at he
    simp [he, h]
  · rw [List.reverse_append, List.reverse_singleton, List.singleton_append,
      List.dropWhile_cons_of_pos h]

theorem dropWhile_isBlank {cs : List Char} (h : ∀ c ∈ cs, isBlank c = false) :
    cs.dropWhile isBlank = cs := by
  cases cs with
  | nil => rfl
  | cons c cs => exact List.dropWhile_cons_of_neg (by simp [h c (.head _)])

theorem trim_eq_self {cs : List Char} (h : ∀ c ∈ cs, isBlank c = false) : trim cs = cs := by
  rw [trim, dropWhile_isBlank h, dropWhile_isBlank (by simpa using h), List.reverse_reverse]

end Text

namespace Decimal

theorem isBlank_of_digit? {c : Char} {d : Nat} (h : digit? c = some d) :
    Text.isBlank c = false := by
  have hranges : ∀ range ∈ Text.blankRanges, range.2 < 48 ∨ 57 < range.1 := by decide
  rw [digit?] at h
  split at h
  · next hc =>
    have hc : 48 ≤ c.toNat ∧ c.toNat ≤ 57 := by
      simpa [Char.le_def, UInt32.le_iff_toNat_le] using hc
    refine List.any_eq_false.2 fun range hmem ↦ ?_
    have := hranges range hmem
    simp only [Bool.and_eq_true, decide_eq_true_eq]
    omega
  · cases h

theorem isBlank_of_readDigits {cs : List Char} {acc n : Nat} (h : readDigits acc cs = some n) :
    ∀ c ∈ cs, Text.isBlank c = false := by
  induction cs generalizing acc with
  | nil => exact List.forall_mem_nil _
  | cons c cs ih =>
    obtain ⟨d, hd, h⟩ := Option.bind_eq_some_iff.1 h
    exact List.forall_mem_cons.2 ⟨isBlank_of_digit? hd, ih h⟩

theorem isBlank_of_readNat? {cs : List Char} {n : Nat} (h : readNat? cs = some n) :
    ∀ c ∈ cs, Text.isBlank c = false := by
  cases cs with
  | nil => cases h
  | cons c cs => exact isBlank_of_readDigits h

theorem isBlank_of_readInt64? {cs : List Char} {value : Int64} (h : readInt64? cs = some value) :
    ∀ c ∈ cs, Text.isBlank c = false := by
  obtain ⟨n, hn, -⟩ := Option.bind_eq_some_iff.1 h
  unfold readInt? at hn
  split at hn
  · obtain ⟨k, hk, -⟩ := Option.map_eq_some_iff.1 hn
    obtain ⟨k, hk, -⟩ := Option.bind_eq_some_iff.1 hk
    exact List.forall_mem_cons.2 ⟨by decide, isBlank_of_readNat? hk⟩
  · obtain ⟨k, hk, -⟩ := Option.map_eq_some_iff.1 hn
    exact List.forall_mem_cons.2 ⟨by decide, isBlank_of_readNat? hk⟩
  · obtain ⟨k, hk, -⟩ := Option.map_eq_some_iff.1 hn
    exact isBlank_of_readNat? hk

def Numeral (cs : List Char) : Prop := cs ≠ [] ∧ ∀ c ∈ cs, Lexeme.isDigit c = true

instance (cs : List Char) : Decidable (Numeral cs) :=
  decidable_of_iff (cs ≠ [] ∧ cs.all Lexeme.isDigit = true) (by rw [List.all_eq_true, Numeral])

def valueOf (cs : List Char) : Nat := Nat.ofDigits 10 (cs.reverse.map fun c ↦ c.toNat - '0'.toNat)

inductive Signed : List Char → Int → Prop where
  | plain {cs : List Char} : Numeral cs → Signed cs (valueOf cs)
  | plus {cs : List Char} : Numeral cs → Signed ('+' :: cs) (valueOf cs)
  | minus {cs : List Char} : Numeral cs → Signed ('-' :: cs) (-valueOf cs)

/-- A line with a number that fits a word, and blanks around it. -/
def Spells (line : List Char) (x : Int64) : Prop :=
  ∃ before number after, line = before ++ (number ++ after) ∧
    (∀ c ∈ before, Text.isBlank c = true) ∧ (∀ c ∈ after, Text.isBlank c = true) ∧
    Signed number x.toInt

theorem valueOf_cons (c : Char) (cs : List Char) :
    valueOf (c :: cs) = (c.toNat - '0'.toNat) * 10 ^ cs.length + valueOf cs := by
  simp only [valueOf, List.reverse_cons, List.map_append, List.map_singleton,
    Nat.ofDigits_append, Nat.ofDigits_singleton, List.length_map, List.length_reverse]
  rw [Nat.add_comm, Nat.mul_comm]

theorem digit?_eq_some_iff {c : Char} {d : Nat} :
    digit? c = some d ↔ Lexeme.isDigit c = true ∧ d = c.toNat - '0'.toNat := by
  rw [digit?, Lexeme.isDigit]
  split
  · next h =>
    rw [Option.some_inj, eq_comm]
    exact ⟨fun hd ↦ ⟨h, hd⟩, fun hd ↦ hd.2⟩
  · next h => simp [h]

theorem readDigits_eq_some_iff {cs : List Char} {acc n : Nat} :
    readDigits acc cs = some n ↔
      (∀ c ∈ cs, Lexeme.isDigit c = true) ∧ n = acc * 10 ^ cs.length + valueOf cs := by
  induction cs generalizing acc with
  | nil =>
    rw [readDigits, Option.some_inj, eq_comm]
    simp [valueOf]
  | cons c cs ih =>
    have hvalue (d : Nat) : (acc * 10 + d) * 10 ^ cs.length + valueOf cs =
        acc * 10 ^ (cs.length + 1) + (d * 10 ^ cs.length + valueOf cs) := by ring
    simp only [readDigits, Option.bind_eq_some_iff, digit?_eq_some_iff, ih, List.forall_mem_cons,
      List.length_cons, valueOf_cons, hvalue]
    constructor
    · rintro ⟨d, ⟨hc, rfl⟩, hcs, rfl⟩
      exact ⟨⟨hc, hcs⟩, rfl⟩
    · rintro ⟨⟨hc, hcs⟩, rfl⟩
      exact ⟨_, ⟨hc, rfl⟩, hcs, rfl⟩

theorem readNat?_eq_some_iff {cs : List Char} {n : Nat} :
    readNat? cs = some n ↔ Numeral cs ∧ n = valueOf cs := by
  cases cs with
  | nil => simp [readNat?, Numeral]
  | cons c cs => simp [readNat?, readDigits_eq_some_iff, Numeral]

theorem not_numeral_of_sign {c : Char} (h : Lexeme.isDigit c = false) (cs : List Char) :
    ¬ Numeral (c :: cs) := by
  intro hn
  have hc := hn.2 c (.head _)
  rw [h] at hc
  cases hc

theorem readInt?_eq_some_iff {cs : List Char} {n : Int} :
    readInt? cs = some n ↔ Signed cs n := by
  constructor
  · intro h
    unfold readInt? at h
    split at h
    · obtain ⟨k, hk, rfl⟩ := Option.map_eq_some_iff.1 h
      obtain ⟨n, hn, hk⟩ := Option.bind_eq_some_iff.1 hk
      obtain ⟨hcs, rfl⟩ := readNat?_eq_some_iff.1 hn
      obtain rfl := Option.some.inj hk
      exact .minus hcs
    · obtain ⟨k, hk, rfl⟩ := Option.map_eq_some_iff.1 h
      obtain ⟨hcs, rfl⟩ := readNat?_eq_some_iff.1 hk
      exact .plus hcs
    · obtain ⟨k, hk, rfl⟩ := Option.map_eq_some_iff.1 h
      obtain ⟨hcs, rfl⟩ := readNat?_eq_some_iff.1 hk
      exact .plain hcs
  · intro h
    cases h with
    | plus hcs | minus hcs => simp [readInt?, readNat?_eq_some_iff.2 ⟨hcs, rfl⟩]
    | plain hcs =>
      have hread := readNat?_eq_some_iff.2 ⟨hcs, rfl⟩
      unfold readInt?
      split
      · exact absurd hcs (not_numeral_of_sign (by decide) _)
      · exact absurd hcs (not_numeral_of_sign (by decide) _)
      · rw [hread]
        rfl

theorem Signed.unique {cs : List Char} {m n : Int} (h : Signed cs m) (h' : Signed cs n) : m = n :=
  Option.some.inj ((readInt?_eq_some_iff.2 h).symm.trans (readInt?_eq_some_iff.2 h'))

theorem readInt64?_eq_some_iff {cs : List Char} {x : Int64} :
    readInt64? cs = some x ↔ Signed cs x.toInt := by
  rw [readInt64?, Option.bind_eq_some_iff]
  constructor
  · rintro ⟨n, hn, hx⟩
    split at hx
    · next hrange =>
      cases hx
      rw [Int64.toInt_ofInt_of_le hrange.1 (Int.lt_add_one_of_le hrange.2)]
      exact readInt?_eq_some_iff.1 hn
    · cases hx
  · intro h
    refine ⟨x.toInt, readInt?_eq_some_iff.2 h, ?_⟩
    rw [if_pos ⟨Int64.minValue_le_toInt x, Int64.toInt_le x⟩, Int64.ofInt_toInt]

theorem readInt64?_eq_none_iff {cs : List Char} (h : Numeral cs) :
    readInt64? cs = none ↔ 2 ^ 63 - 1 < valueOf cs := by
  have hn : readInt? cs = some (valueOf cs : Int) := readInt?_eq_some_iff.2 (.plain h)
  have hmin : Int64.minValue.toInt ≤ (valueOf cs : Int) :=
    Int.le_trans (by decide) (Int.natCast_nonneg _)
  have hmax : Int64.maxValue.toInt = 2 ^ 63 - 1 := by decide
  simp only [readInt64?, hn, Option.bind_some, hmin, true_and, hmax]
  split
  · simp only [reduceCtorEq, false_iff]
    omega
  · simp only [true_iff]
    omega

theorem trim_of_blanks {before number after : List Char}
    (hb : ∀ c ∈ before, Text.isBlank c = true) (ha : ∀ c ∈ after, Text.isBlank c = true)
    (hn : ∀ c ∈ number, Text.isBlank c = false) :
    Text.trim (before ++ (number ++ after)) = number := by
  induction after using List.reverseRecOn with
  | nil =>
    rw [List.append_nil, Text.trim, List.dropWhile_append_of_pos hb]
    exact Text.trim_eq_self hn
  | append_singleton after c ih =>
    rw [← List.append_assoc, ← List.append_assoc, Text.trim_append_blank (ha c (by simp)),
      List.append_assoc]
    exact ih fun d hd ↦ ha d (List.mem_append_left _ hd)

theorem exists_blanks (line : List Char) :
    ∃ before after, line = before ++ (Text.trim line ++ after) ∧
      (∀ c ∈ before, Text.isBlank c = true) ∧ ∀ c ∈ after, Text.isBlank c = true := by
  refine ⟨line.takeWhile Text.isBlank,
    ((line.dropWhile Text.isBlank).reverse.takeWhile Text.isBlank).reverse, ?_, ?_, ?_⟩
  · rw [Text.trim, ← List.reverse_append, List.takeWhile_append_dropWhile, List.reverse_reverse,
      List.takeWhile_append_dropWhile]
  · exact List.all_eq_true.1 List.all_takeWhile
  · intro c hc
    exact List.all_eq_true.1 List.all_takeWhile c (List.mem_reverse.1 hc)

theorem readInt64?_trim_eq_some_iff {line : List Char} {x : Int64} :
    readInt64? (Text.trim line) = some x ↔ Spells line x := by
  constructor
  · intro h
    obtain ⟨before, after, hline, hb, ha⟩ := exists_blanks line
    exact ⟨before, Text.trim line, after, hline, hb, ha, readInt64?_eq_some_iff.1 h⟩
  · rintro ⟨before, number, after, rfl, hb, ha, hn⟩
    have hread := readInt64?_eq_some_iff.2 hn
    rwa [trim_of_blanks hb ha (isBlank_of_readInt64? hread)]

theorem valueOf_eq_ofDigitChars (cs : List Char) : valueOf cs = Nat.ofDigitChars 10 cs 0 := by
  induction cs with
  | nil => rfl
  | cons c cs ih =>
    rw [valueOf_cons, ih, Nat.ofDigitChars_cons, Nat.mul_zero, Nat.zero_add,
      @Nat.ofDigitChars_eq_ofDigitChars_zero cs (c.toNat - '0'.toNat), Nat.mul_comm]

theorem isDigit_eq (c : Char) : Lexeme.isDigit c = c.isDigit := by
  simp [Lexeme.isDigit, Char.isDigit, Char.le_def]

theorem numeral_toDigits (n : Nat) : Numeral (Nat.toDigits 10 n) := by
  refine ⟨Nat.toDigits_ne_nil, fun c hc ↦ ?_⟩
  rw [isDigit_eq]
  exact Nat.isDigit_of_mem_toDigits (by decide) (by decide) hc

theorem valueOf_toDigits (n : Nat) : valueOf (Nat.toDigits 10 n) = n := by
  rw [valueOf_eq_ofDigitChars, Nat.ofDigitChars_ten_toDigits]

theorem readCount?_toString {n : Nat} (h : n < UInt64.size) :
    readCount? (toString n).toList = some n := by
  have hn := numeral_toDigits n
  have hread := readNat?_eq_some_iff.2 ⟨hn, (valueOf_toDigits n).symm⟩
  rw [Nat.toString_eq_repr, Nat.toList_repr, readCount?, hread, Option.bind_some, if_pos h]
  intro cs hplus
  rw [hplus] at hn
  exact not_numeral_of_sign (by decide) cs hn

theorem toList_padZero (width n : Nat) : (padZero width n).toList =
    List.replicate (width - (Nat.toDigits 10 n).length) '0' ++ Nat.toDigits 10 n := by
  rw [padZero, Nat.toString_eq_ofList_toDigits]
  simp [Text.padLeft, Text.repeated]

theorem readNat?_padZero (width n : Nat) : readNat? (padZero width n).toList = some n := by
  rw [readNat?_eq_some_iff, toList_padZero]
  constructor
  · obtain ⟨hne, hd⟩ := numeral_toDigits n
    refine ⟨by simp [hne], fun c hc ↦ ?_⟩
    obtain hc | hc := List.mem_append.1 hc
    · rw [List.eq_of_mem_replicate hc]
      rfl
    · exact hd c hc
  · rw [valueOf_eq_ofDigitChars, Nat.ofDigitChars_append, Nat.ofDigitChars_replicate_zero,
      Nat.mul_zero, Nat.ofDigitChars_ten_toDigits]

theorem numeral_padZero (width n : Nat) : Numeral (padZero width n).toList :=
  (readNat?_eq_some_iff.1 (readNat?_padZero width n)).1

theorem newline_notMem_padZero (width n : Nat) : '\n' ∉ (padZero width n).toList :=
  fun h ↦ absurd ((numeral_padZero width n).2 _ h) (by decide)

theorem signed_writeInt64 (x : Int64) : Signed (writeInt64 x).toList x.toInt := by
  rw [writeInt64, Int.toString_eq_repr]
  cases x.toInt with
  | ofNat n =>
    have h := Signed.plain (numeral_toDigits n)
    rw [valueOf_toDigits] at h
    simpa [Int.repr, Nat.repr_eq_ofList_toDigits] using h
  | negSucc n =>
    have h := Signed.minus (numeral_toDigits (n + 1))
    rw [valueOf_toDigits] at h
    simpa [Int.repr, Nat.repr_eq_ofList_toDigits, Int.negSucc_eq] using h

theorem isBlank_writeInt64 (x : Int64) : ∀ c ∈ (writeInt64 x).toList, Text.isBlank c = false :=
  isBlank_of_readInt64? (readInt64?_eq_some_iff.2 (signed_writeInt64 x))

theorem newline_notMem_writeInt64 (x : Int64) : '\n' ∉ (writeInt64 x).toList :=
  fun h ↦ absurd (isBlank_writeInt64 x _ h) (by decide)

end Decimal

end RegisterLang
