import Mathlib.Tactic.SplitIfs
import RegisterLang.Text.Line

namespace RegisterLang

namespace Utf8

def Valid (bs : List UInt8) : Prop := (decode? bs).isSome = true

theorem isSome_mapM_id {α : Type} (xs : List (Option α)) :
    (xs.mapM id).isSome = true ↔ ∀ x ∈ xs, x.isSome = true := by
  induction xs with
  | nil => simp
  | cons x xs ih =>
    rw [List.mapM_cons]
    cases x with
    | none => simp
    | some a =>
      cases h : xs.mapM id with
      | none => simp_all
      | some as => simp_all

theorem chars_of_next {bs rest : List UInt8} {c : Option Char} (h : next bs = some (c, rest)) :
    chars bs = c :: chars rest := by
  rw [chars]
  split
  · next hn => cases hn.symm.trans h
  · next hn => cases hn.symm.trans h; rfl

theorem valid_iff {bs rest : List UInt8} {c : Option Char} (h : next bs = some (c, rest)) :
    Valid bs ↔ c.isSome = true ∧ Valid rest := by
  simp only [Valid, decode?, isSome_mapM_id, chars_of_next h, List.forall_mem_cons]

theorem valid_nil : Valid [] := by
  rw [Valid, decode?, chars]
  rfl

theorem newline_not_isContinuation : isContinuation 10 = false := by decide

theorem newline_not_allowsSecond (lead : UInt8) : allowsSecond lead 10 = false := by
  unfold allowsSecond secondRange
  repeat' split
  all_goals decide

theorem exists_bytes_of_next {bs rest : List UInt8} {c : Char} (h : next bs = some (some c, rest)) :
    ∃ bytes, bs = bytes ++ rest ∧ (bytes = [10] ∨ 10 ∉ bytes) ∧
      ∀ more, next (bytes ++ more) = some (some c, more) := by
  cases bs with
  | nil => simp [next] at h
  | cons b bs =>
    simp only [next] at h
    split at h
    · next hb =>
      cases h
      refine ⟨[b], rfl, ?_, fun more ↦ by simp [next, hb]⟩
      by_cases h10 : b = 10
      · exact .inl (by rw [h10])
      · exact .inr (by simpa using fun h ↦ h10 h.symm)
    · next hb =>
      have h10 : ¬ 10 = b := by
        rintro rfl
        exact hb (by decide)
      repeat' split at h
      all_goals cases h
      · rename_i hlead _ c hc
        have hcn : ¬ 10 = c := fun h ↦ by simp [← h, newline_not_isContinuation] at hc
        exact ⟨[b, c], rfl, .inr (by simp [h10, hcn]), fun more ↦ by simp [next, hb, hlead, hc]⟩
      · rename_i hno hlead _ c hc _ d hd
        have hcn : ¬ 10 = c := fun h ↦ by simp [← h, newline_not_allowsSecond] at hc
        have hdn : ¬ 10 = d := fun h ↦ by simp [← h, newline_not_isContinuation] at hd
        exact ⟨[b, c, d], rfl, .inr (by simp [h10, hcn, hdn]),
          fun more ↦ by simp [next, hb, hno, hlead, hc, hd]⟩
      · rename_i hno hno' hlead _ c hc _ d hd _ e he
        have hcn : ¬ 10 = c := fun h ↦ by simp [← h, newline_not_allowsSecond] at hc
        have hdn : ¬ 10 = d := fun h ↦ by simp [← h, newline_not_isContinuation] at hd
        have hen : ¬ 10 = e := fun h ↦ by simp [← h, newline_not_isContinuation] at he
        exact ⟨[b, c, d, e], rfl, .inr (by simp [h10, hcn, hdn, hen]),
          fun more ↦ by simp [next, hb, hno, hno', hlead, hc, hd, he]⟩

theorem next_eq_none {bs : List UInt8} (h : next bs = none) : bs = [] := by
  cases bs with
  | nil => rfl
  | cons b bs =>
    simp only [next] at h
    repeat' split at h
    all_goals cases h

end Utf8

theorem splitLine_append_of_notMem {bytes : List UInt8} (h : 10 ∉ bytes) (rest : List UInt8) :
    splitLine (bytes ++ rest) = (bytes ++ (splitLine rest).1, (splitLine rest).2) := by
  induction bytes with
  | nil => rfl
  | cons b bytes ih =>
    simp only [List.mem_cons, not_or] at h
    rw [List.cons_append, splitLine, if_neg (Ne.symm h.1), ih h.2]
    rfl

theorem valid_splitLine {bs : List UInt8} (h : Utf8.Valid bs) :
    Utf8.Valid (splitLine bs).1 ∧ Utf8.Valid (splitLine bs).2 := by
  induction hn : bs.length using Nat.strongRecOn generalizing bs with
  | ind n ih =>
    cases hnext : Utf8.next bs with
    | none =>
      rw [Utf8.next_eq_none hnext]
      exact ⟨Utf8.valid_nil, Utf8.valid_nil⟩
    | some r =>
      obtain ⟨_ | c, rest⟩ := r
      · cases ((Utf8.valid_iff hnext).1 h).1
      · have hrest := ((Utf8.valid_iff hnext).1 h).2
        have hlt := Utf8.next_length_lt hnext
        obtain ⟨bytes, rfl, hb, hmore⟩ := Utf8.exists_bytes_of_next hnext
        obtain rfl | hb := hb
        · exact ⟨(Utf8.valid_iff (hmore [])).2 ⟨rfl, Utf8.valid_nil⟩, hrest⟩
        · have hi := ih rest.length (hn ▸ hlt) hrest rfl
          rw [splitLine_append_of_notMem hb]
          exact ⟨(Utf8.valid_iff (hmore _)).2 ⟨rfl, hi.1⟩, hi.2⟩

theorem readLine_of_valid {input : List UInt8} (h : Utf8.Valid input) :
    ∃ line rest, readLine input = (some line, rest) ∧ Utf8.Valid rest := by
  obtain ⟨hline, hrest⟩ := valid_splitLine h
  obtain ⟨line, hl⟩ := Option.isSome_iff_exists.1 hline
  exact ⟨line, (splitLine input).2, by simp [readLine, hl], hrest⟩

namespace Utf8

/-- Bytes that spell the number of a character. The shortest spelling counts alone, and there are
none for surrogates. -/
inductive Encodes : List UInt8 → Nat → Prop where
  | one {b : UInt8} : b.toNat < 128 → Encodes [b] b.toNat
  | two {b c : UInt8} : 194 ≤ b.toNat → b.toNat ≤ 223 → isContinuation c = true →
      Encodes [b, c] (b.toNat % 32 * 64 + c.toNat % 64)
  | three {b c d : UInt8} : 224 ≤ b.toNat → b.toNat ≤ 239 → allowsSecond b c = true →
      isContinuation d = true →
      Encodes [b, c, d] ((b.toNat % 16 * 64 + c.toNat % 64) * 64 + d.toNat % 64)
  | four {b c d e : UInt8} : 240 ≤ b.toNat → b.toNat ≤ 244 → allowsSecond b c = true →
      isContinuation d = true → isContinuation e = true →
      Encodes [b, c, d, e]
        (((b.toNat % 8 * 64 + c.toNat % 64) * 64 + d.toNat % 64) * 64 + e.toNat % 64)

theorem isContinuation_iff {b : UInt8} :
    isContinuation b = true ↔ 128 ≤ b.toNat ∧ b.toNat ≤ 191 := by
  simp [isContinuation, UInt8.le_iff_toNat_le]

theorem allowsSecond_iff {lead b : UInt8} : allowsSecond lead b = true ↔
    128 ≤ b.toNat ∧ b.toNat ≤ 191 ∧ (lead.toNat = 224 → 160 ≤ b.toNat) ∧
      (lead.toNat = 237 → b.toNat ≤ 159) ∧ (lead.toNat = 240 → 144 ≤ b.toNat) ∧
      (lead.toNat = 244 → b.toNat ≤ 143) := by
  unfold allowsSecond secondRange
  simp only [← UInt8.toNat_inj, Bool.and_eq_true, decide_eq_true_eq, UInt8.le_iff_toNat_le,
    UInt8.reduceToNat]
  split_ifs <;> simp only [UInt8.reduceToNat] <;> omega

theorem next_of_encodes {bytes : List UInt8} {n : Nat} (h : Encodes bytes n) (rest : List UInt8) :
    next (bytes ++ rest) = some (some (Char.ofNat n), rest) := by
  cases h with
  | @one b hb => simp [next, UInt8.lt_iff_toNat_lt, hb]
  | @two b c hb hb' hc =>
    have hbig : ¬ b.toNat < 128 := by omega
    simp [next, UInt8.lt_iff_toNat_lt, UInt8.le_iff_toNat_le, hbig, hb, hb', hc, assemble]
  | @three b c d hb hb' hc hd =>
    have hbig : ¬ b.toNat < 128 := by omega
    have hmore : ¬ b.toNat ≤ 223 := by omega
    simp [next, UInt8.lt_iff_toNat_lt, UInt8.le_iff_toNat_le, hbig, hmore, hb, hb', hc, hd,
      assemble]
  | @four b c d e hb hb' hc hd he =>
    have hbig : ¬ b.toNat < 128 := by omega
    have hmore : ¬ b.toNat ≤ 223 := by omega
    have hmost : ¬ b.toNat ≤ 239 := by omega
    simp [next, UInt8.lt_iff_toNat_lt, UInt8.le_iff_toNat_le, hbig, hmore, hmost, hb, hb', hc, hd,
      he, assemble]

theorem exists_encodes_of_next {bs rest : List UInt8} {c : Char}
    (h : next bs = some (some c, rest)) :
    ∃ bytes n, bs = bytes ++ rest ∧ Encodes bytes n ∧ c = Char.ofNat n := by
  cases bs with
  | nil => simp [next] at h
  | cons b bs =>
    simp only [next, UInt8.lt_iff_toNat_lt, UInt8.le_iff_toNat_le, UInt8.reduceToNat,
      Bool.and_eq_true, decide_eq_true_eq] at h
    repeat' split at h
    all_goals cases h
    · next hb => exact ⟨[b], _, rfl, .one hb, rfl⟩
    · rename_i hb _ c hc
      exact ⟨[b, c], _, rfl, .two hb.1 hb.2 hc, rfl⟩
    · rename_i hb _ c hc _ d hd
      exact ⟨[b, c, d], _, rfl, .three hb.1 hb.2 hc hd, rfl⟩
    · rename_i hb _ c hc _ d hd _ e he
      exact ⟨[b, c, d, e], _, rfl, .four hb.1 hb.2 hc hd he, rfl⟩

theorem encodes_encode (c : Char) : Encodes (String.utf8EncodeChar c) c.val.toNat := by
  have hvalid : c.val.toNat < 55296 ∨ 57343 < c.val.toNat ∧ c.val.toNat < 1114112 := c.valid
  have hof {bytes : List UInt8} {n : Nat} (h : Encodes bytes n) (hn : n = c.val.toNat) :
      Encodes bytes c.val.toNat := hn ▸ h
  unfold String.utf8EncodeChar
  simp only
  split_ifs with h₁ h₂ h₃
  · refine hof (.one ?_) ?_ <;> rw [UInt8.toNat_ofNat'] <;> omega
  · refine hof (.two ?_ ?_ ?_) ?_ <;> simp only [isContinuation_iff, UInt8.toNat_ofNat'] <;> omega
  · refine hof (.three ?_ ?_ ?_ ?_) ?_ <;>
      simp only [isContinuation_iff, allowsSecond_iff, UInt8.toNat_ofNat'] <;> omega
  · refine hof (.four ?_ ?_ ?_ ?_ ?_) ?_ <;>
      simp only [isContinuation_iff, allowsSecond_iff, UInt8.toNat_ofNat'] <;> omega

theorem Encodes.isValidChar {bytes : List UInt8} {n : Nat} (h : Encodes bytes n) :
    n < 55296 ∨ 57343 < n ∧ n < 1114112 := by
  cases h with
  | one hb => omega
  | two hb hb' hc => omega
  | three hb hb' hc hd =>
    rw [allowsSecond_iff] at hc
    omega
  | four hb hb' hc hd he =>
    rw [allowsSecond_iff] at hc
    omega

theorem Encodes.encode_eq {bytes : List UInt8} {n : Nat} (h : Encodes bytes n) :
    String.utf8EncodeChar (Char.ofNat n) = bytes := by
  have hn : (Char.ofNat n).val.toNat = n := by
    have hvalid : n.isValidChar := h.isValidChar
    rw [Char.ofNat, dif_pos hvalid]
    rfl
  unfold String.utf8EncodeChar
  simp only [hn]
  cases h with
  | @one b hb =>
    rw [if_pos (by omega), UInt8.ofNat_toNat]
  | @two b c hb hb' hc =>
    rw [isContinuation_iff] at hc
    rw [if_neg (by omega), if_pos (by omega)]
    simp only [List.cons.injEq, ← UInt8.toNat_inj, UInt8.toNat_ofNat', and_true]
    omega
  | @three b c d hb hb' hc hd =>
    rw [isContinuation_iff] at hd
    rw [allowsSecond_iff] at hc
    rw [if_neg (by omega), if_neg (by omega), if_pos (by omega)]
    simp only [List.cons.injEq, ← UInt8.toNat_inj, UInt8.toNat_ofNat', and_true]
    omega
  | @four b c d e hb hb' hc hd he =>
    rw [isContinuation_iff] at hd he
    rw [allowsSecond_iff] at hc
    rw [if_neg (by omega), if_neg (by omega), if_neg (by omega)]
    simp only [List.cons.injEq, ← UInt8.toNat_inj, UInt8.toNat_ofNat', and_true]
    omega

theorem next_eq_some_iff {bs rest : List UInt8} {c : Char} :
    next bs = some (some c, rest) ↔ bs = String.utf8EncodeChar c ++ rest := by
  constructor
  · intro h
    obtain ⟨bytes, n, rfl, hn, rfl⟩ := exists_encodes_of_next h
    rw [hn.encode_eq]
  · rintro rfl
    have h := next_of_encodes (encodes_encode c) rest
    rwa [Char.toNat_val, Char.ofNat_toNat] at h

theorem decode?_of_next {bs rest : List UInt8} {c : Option Char} (h : next bs = some (c, rest)) :
    decode? bs = c.bind fun c ↦ (decode? rest).map (c :: ·) := by
  rw [decode?, decode?, chars_of_next h, List.mapM_cons]
  cases c with
  | none => rfl
  | some c => cases (chars rest).mapM id <;> rfl

theorem decode?_nil : decode? [] = some [] := by
  rw [decode?, chars]
  rfl

theorem decode?_eq_some_iff {bs : List UInt8} {cs : List Char} :
    decode? bs = some cs ↔ bs = cs.flatMap String.utf8EncodeChar := by
  induction cs generalizing bs with
  | nil =>
    constructor
    · intro h
      cases hnext : next bs with
      | none => exact next_eq_none hnext
      | some r =>
        obtain ⟨c, rest⟩ := r
        rw [decode?_of_next hnext] at h
        cases c <;> simp at h
    · rintro rfl
      exact decode?_nil
  | cons c cs ih =>
    constructor
    · intro h
      cases hnext : next bs with
      | none =>
        rw [next_eq_none hnext, decode?_nil] at h
        cases h
      | some r =>
        obtain ⟨c', rest⟩ := r
        rw [decode?_of_next hnext] at h
        obtain ⟨_, rfl, h⟩ := Option.bind_eq_some_iff.1 h
        obtain ⟨cs', hrest, hcs⟩ := Option.map_eq_some_iff.1 h
        cases hcs
        rw [next_eq_some_iff.1 hnext, ih.1 hrest, List.flatMap_cons]
    · rintro rfl
      have hnext : next ((c :: cs).flatMap String.utf8EncodeChar) =
          some (some c, cs.flatMap String.utf8EncodeChar) :=
        next_eq_some_iff.2 List.flatMap_cons
      rw [decode?_of_next hnext, ih.2 rfl]
      rfl

theorem eq_newline_of_mem {c : Char} (h : 10 ∈ String.utf8EncodeChar c) : c = '\n' := by
  have hc : next (String.utf8EncodeChar c ++ []) = some (some c, []) := next_eq_some_iff.2 rfl
  obtain ⟨bytes, hbytes, rfl | hn, -⟩ := exists_bytes_of_next hc
  · rw [hbytes] at hc
    cases hc
    rfl
  · rw [List.append_cancel_right hbytes] at h
    exact absurd h hn

theorem newline_mem_iff {cs : List Char} : 10 ∈ cs.flatMap String.utf8EncodeChar ↔ '\n' ∈ cs := by
  constructor
  · intro h
    obtain ⟨c, hc, h⟩ := List.mem_flatMap.1 h
    rwa [← eq_newline_of_mem h]
  · exact fun h ↦ List.mem_flatMap.2 ⟨'\n', h, by decide⟩

end Utf8

end RegisterLang
