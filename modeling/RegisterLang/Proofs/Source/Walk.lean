import RegisterLang.Proofs.Text.Places
import RegisterLang.Token.Scanner

namespace RegisterLang

namespace Text

theorem cut?_toList_eq_none_iff {source : String} {n : Nat} :
    cut? n source.toList = none ↔ ¬ String.Pos.Raw.IsValid source ⟨n⟩ := by
  rw [Option.eq_none_iff_forall_ne_some, String.Pos.Raw.isValid_iff_exists_append, Prod.forall]
  constructor
  · rintro h ⟨before, after, rfl, hn⟩
    refine h before.toList after.toList (cut?_eq_some_iff.2 ⟨String.toList_append, ?_⟩)
    rw [size_toList]
    exact (String.Pos.Raw.ext_iff.1 hn).symm
  · intro h before after hcut
    obtain ⟨htext, rfl⟩ := cut?_eq_some_iff.1 hcut
    refine h ⟨.ofList before, .ofList after, ?_, ?_⟩
    · rw [← String.ofList_append, ← htext, String.ofList_toList]
    · rw [← utf8ByteSize_ofList]
      rfl

/-- Of two cuts of one text, the second cuts what is behind the first. -/
theorem exists_cut_between {xs ys before after : List Char} (h : xs ++ ys = before ++ after)
    (hsize : size xs ≤ size before) :
    ∃ between, before = xs ++ between ∧ ys = between ++ after := by
  obtain ⟨between, hbefore, hys⟩ | ⟨between, rfl, rfl⟩ := List.append_eq_append_iff.1 h
  · exact ⟨between, hbefore, hys⟩
  · cases between with
    | nil => exact ⟨[], by simp, rfl⟩
    | cons c cs =>
      have hc := Char.utf8Size_pos c
      rw [size_append, size_cons] at hsize
      omega

theorem slice?_eq_none_iff (before after : List Char) (start : Nat) :
    slice? (before ++ after) start (size before) = none ↔
      size before < start ∨ cut? start (before ++ after) = none := by
  rw [slice?]
  by_cases hstart : start ≤ size before
  · rw [if_pos hstart]
    cases hcut : cut? start (before ++ after) with
    | none => simp
    | some parts =>
      obtain ⟨xs, ys⟩ := parts
      obtain ⟨htext, rfl⟩ := cut?_eq_some_iff.1 hcut
      obtain ⟨between, rfl, rfl⟩ := exists_cut_between htext.symm hstart
      simp [cut?_size]
  · rw [if_neg hstart]
    simp [Nat.lt_of_not_le hstart]

theorem slice?_take {m n : Nat} (h : m ≤ n) (text : List Char) :
    slice? text (size (text.take m)) (size (text.take n)) = some ((text.take n).drop m) := by
  have htake : text.take n = text.take m ++ (text.take n).drop m := by
    conv_lhs => rw [← List.take_append_drop m (text.take n), List.take_take, Nat.min_eq_left h]
  have hfragment := Span.fragment?_append (text.take m) ((text.take n).drop m) (text.drop n)
  rwa [← List.append_assoc, ← htake, List.take_append_drop, Span.fragment?, Span.stop,
    ← size_append, ← htake] at hfragment

end Text

namespace Head

theorem advance_eq (text rest : List Char) (offset : Nat) :
    advance ⟨text, rest, offset⟩ =
      ⟨text, rest.drop 1, offset + Text.size (rest.take 1)⟩ := by
  cases rest <;> rfl

theorem advanceBy_eq (n : Nat) (text rest : List Char) (offset : Nat) :
    advanceBy n ⟨text, rest, offset⟩ =
      ⟨text, rest.drop n, offset + Text.size (rest.take n)⟩ := by
  induction n generalizing rest offset with
  | zero => rfl
  | succ n ih =>
    rw [advanceBy, advance_eq, ih, List.drop_drop, Nat.add_assoc, ← Text.size_append,
      Nat.add_comm n 1, List.take_add]

theorem advanceBy_ofText (n : Nat) (text : List Char) :
    advanceBy n (ofText text) = ⟨text, text.drop n, Text.size (text.take n)⟩ := by
  rw [ofText, advanceBy_eq, Nat.zero_add]

/-- The head stands before character `n` of the source, or at its end if there is no such
character. -/
structure StandsAt (source : String) (n : Nat) (h : Head) : Prop where
  current : h.current = source.toList[n]?
  offset : h.offset = (String.ofList (source.toList.take n)).utf8ByteSize
  exhausted : source.toList.length ≤ n → h.offset = source.utf8ByteSize
  offset_le : h.offset ≤ sourceLimit
  hasMore : h.hasMore = h.current.isSome
  fragment : ∀ m ≤ n, h.fragmentFrom? (advanceBy m (ofText source.toList)).offset =
    some ((source.toList.take n).drop m)
  no_fragment : ∀ start, h.fragmentFrom? start = none ↔
    h.offset < start ∨ ¬ String.Pos.Raw.IsValid source ⟨start⟩

/-- A head on a source whose offsets fit a 32-bit word stands, after as many advances, before the
character of that number, and its offset counts the bytes of the characters before it. -/
theorem walk_counts_bytes (source : String) (hsize : source.utf8ByteSize ≤ sourceLimit) (n : Nat) :
    StandsAt source n (advanceBy n (ofText source.toList)) := by
  have hparts := List.take_append_drop n source.toList
  have hbytes : Text.size (source.toList.take n) + Text.size (source.toList.drop n) =
      source.utf8ByteSize := by
    rw [← Text.size_append, hparts, Text.size_toList]
  rw [advanceBy_ofText]
  exact {
    current := List.head?_drop
    offset := (Text.utf8ByteSize_ofList _).symm
    exhausted := fun hn ↦ by
      rw [List.take_of_length_le hn]
      exact Text.size_toList source
    offset_le := Nat.le_trans (Nat.le_of_add_right_le (Nat.le_of_eq hbytes)) hsize
    hasMore := by
      rw [hasMore, current]
      cases source.toList.drop n <;> rfl
    fragment := fun m hm ↦ by
      rw [advanceBy_ofText]
      exact Text.slice?_take hm source.toList
    no_fragment := fun start ↦ by
      have hnone := Text.slice?_eq_none_iff (source.toList.take n) (source.toList.drop n) start
      rwa [hparts, Text.cut?_toList_eq_none_iff] at hnone }

theorem walk_counts_bytes_accent : "é+".utf8ByteSize ≤ sourceLimit ∧
    ∃ h, h = advanceBy 1 (ofText "é+".toList) ∧ StandsAt "é+" 1 h ∧ h.current = some '+' ∧
      h.offset = 2 ∧ h.fragmentFrom? 0 = some ['é'] ∧ h.fragmentFrom? 3 = none := by
  have hsize : "é+".utf8ByteSize ≤ sourceLimit := by decide
  have h := walk_counts_bytes "é+" hsize 1
  have hoffset : (advanceBy 1 (ofText "é+".toList)).offset = 2 := rfl
  exact ⟨hsize, _, rfl, h, h.current, hoffset, h.fragment 0 (Nat.zero_le 1),
    (h.no_fragment 3).2 (.inl (by rw [hoffset]; decide))⟩

end Head

end RegisterLang
