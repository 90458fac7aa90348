import RegisterLang.Proofs.Grammar.Trivia
import RegisterLang.Proofs.Token.Coverage
import RegisterLang.Proofs.Token.Writing

namespace RegisterLang

namespace Segment

def word (s : Segment) : Word := (s.kind, String.ofList s.content)

@[simp]
theorem word_token (offset : Nat) (s : Segment) : (s.token offset).word = s.word :=
  Prod.ext rfl (s.text_token offset)

def words (ss : List Segment) : List Word :=
  (ss.filter fun s ↦ !s.kind.isSkippable).map word

theorem words_append (ss more : List Segment) : words (ss ++ more) = words ss ++ words more := by
  simp [words]

theorem words_cons_of_skippable {s : Segment} (h : s.kind.isSkippable = true) (ss : List Segment) :
    words (s :: ss) = words ss := by
  simp [words, h]

theorem words_cons {s : Segment} (h : s.kind.isSkippable = false) (ss : List Segment) :
    words (s :: ss) = s.word :: words ss := by
  simp [words, h]

theorem words_tokens (ss : List Segment) (offset : Nat) (error : Option LexicalError) :
    Tokens.words ⟨tokens offset ss, error⟩ = words ss := by
  induction ss generalizing offset with
  | nil => rfl
  | cons s ss ih =>
    have ih := ih (offset + Text.size s.text)
    simp only [Tokens.words, Tokens.significant, tokens] at ih ⊢
    cases hs : s.kind.isSkippable with
    | true => rw [List.filter_cons_of_neg (by simp [token, hs]), ih, words_cons_of_skippable hs]
    | false =>
      rw [List.filter_cons_of_pos (by simp [token, hs]), List.map_cons, ih, word_token,
        words_cons hs]

def blank : Segment := ⟨.blanks, [' '], by decide, List.all_eq_true.1 (by decide)⟩

def spaced : List Segment → List Segment
  | [] => []
  | s :: ss => blank :: s :: spaced ss

theorem size_spaced_cons (s : Segment) (ss : List Segment) :
    Text.size (flat (spaced (s :: ss))) = Text.size s.text + 1 + Text.size (flat (spaced ss)) := by
  have hblank : Text.size blank.text = 1 := by decide
  rw [spaced, flat_cons, flat_cons, Text.size_append, Text.size_append, hblank]
  omega

theorem words_spaced {ss : List Segment} (h : ∀ s ∈ ss, s.kind.isSkippable = false) :
    words (spaced ss) = ss.map word := by
  induction ss with
  | nil => rfl
  | cons s ss ih =>
    rw [spaced, words_cons_of_skippable (by decide), words_cons (h s (.head _)),
      ih fun s hs ↦ h s (.tail _ hs), List.map_cons]

theorem not_merges_blank {s : Segment} (h : s.kind.isSkippable = false) :
    ¬ s.Merges blank ∧ ¬ blank.Merges s := by
  have hs : s.shape ≠ .blanks := by
    intro hs
    rw [kind, hs] at h
    cases h
  exact ⟨fun hm ↦ hs hm.1, fun hm ↦ hs hm.1.symm⟩

theorem isChain_append_spaced {before fill : List Segment}
    (hchain : before.IsChain fun s t ↦ ¬ s.Merges t)
    (hlast : ∀ s ∈ before.getLast?, s.kind.isSkippable = false)
    (hfill : ∀ s ∈ fill, s.kind.isSkippable = false) :
    (before ++ spaced fill).IsChain fun s t ↦ ¬ s.Merges t := by
  induction fill generalizing before with
  | nil => simpa [spaced] using hchain
  | cons s fill ih =>
    have hs := hfill s (.head _)
    have hnext : (before ++ [blank, s]).IsChain fun s t ↦ ¬ s.Merges t := by
      refine List.isChain_append.2 ⟨hchain, ?_, fun t ht b hb ↦ ?_⟩
      · simpa using (not_merges_blank hs).2
      · cases hb
        exact (not_merges_blank (hlast t ht)).1
    have hall := ih hnext (by simpa using hs) fun t ht ↦ hfill t (.tail _ ht)
    simpa [spaced] using hall

theorem Apart.nil {ss : List Segment} {rest : List Char} (h : Apart ss rest) : Apart ss [] := by
  induction ss with
  | nil => trivial
  | cons s ss ih =>
    refine ⟨fun c hc ↦ h.1 c ?_, ih h.2⟩
    rw [List.append_nil] at hc
    rw [List.head?_append, hc]
    rfl

theorem exists_cut (ss : List Segment) {k : Nat} (hk : k ≤ (words ss).length) :
    ∃ before after, ss = before ++ after ∧ words before = (words ss).take k ∧
      ∀ s ∈ before.getLast?, s.kind.isSkippable = false := by
  induction ss generalizing k with
  | nil => exact ⟨[], [], rfl, by simp [words], by simp⟩
  | cons s ss ih =>
    cases k with
    | zero => exact ⟨[], s :: ss, rfl, by simp [words], by simp⟩
    | succ k =>
      cases hs : s.kind.isSkippable with
      | true =>
        rw [words_cons_of_skippable hs] at hk ⊢
        obtain ⟨before, after, rfl, hw, hlast⟩ := ih hk
        refine ⟨s :: before, after, rfl, by rw [words_cons_of_skippable hs, hw], ?_⟩
        cases before with
        | nil =>
          have hlength := (congrArg List.length hw).trans (List.length_take_of_le hk)
          cases hlength
        | cons t before => simpa [List.getLast?_cons_cons] using hlast
      | false =>
        rw [words_cons hs] at hk ⊢
        obtain ⟨before, after, rfl, hw, hlast⟩ := ih (Nat.le_of_succ_le_succ hk)
        refine ⟨s :: before, after, rfl, by rw [words_cons hs, hw, List.take_succ_cons], ?_⟩
        cases before with
        | nil => simpa using hs
        | cons t before => simpa [List.getLast?_cons_cons] using hlast

end Segment

open Segment

theorem Tokens.exists_segments_of_ofSource (source : String) :
    ∃ ss rest, source.toList = flat ss ++ rest ∧ Apart ss rest ∧
      (Tokens.ofSource source).tokens = Segment.tokens 0 ss := by
  rw [Tokens.ofSource]
  split
  · exact ⟨[], source.toList, rfl, trivial, rfl⟩
  · obtain ⟨ss, rest, hcs, hapart, hts, -⟩ := exists_segments_of_scanFrom 0 source.toList
    exact ⟨ss, rest, hcs, hapart, hts⟩

theorem exists_text (source : String) {k : Nat} (hk : k ≤ (Tokens.ofSource source).words.length)
    {fill : List Segment} (hfill : ∀ s ∈ fill, s.kind.isSkippable = false) :
    ∃ program : String,
      (Tokens.scanFrom 0 program.toList).words =
        (Tokens.ofSource source).words.take k ++ fill.map word ∧
      (Tokens.scanFrom 0 program.toList).error = none ∧
      program.utf8ByteSize ≤ source.utf8ByteSize + Text.size (flat (spaced fill)) := by
  obtain ⟨ss, rest, hcs, hapart, hts⟩ := Tokens.exists_segments_of_ofSource source
  have hwords : (Tokens.ofSource source).words = words ss := by
    rw [← words_tokens ss 0 (Tokens.ofSource source).error, ← hts]
  rw [hwords] at hk ⊢
  obtain ⟨before, after, rfl, hw, hlast⟩ := exists_cut ss hk
  have hchain := isChain_append_spaced (apart_nil_iff.1 hapart.nil).left_of_append hlast hfill
  have hscan := Tokens.scanFrom_flat (apart_nil_iff.2 hchain) 0
  rw [List.append_nil, Tokens.scanFrom_nil, List.append_nil] at hscan
  refine ⟨String.ofList (flat (before ++ spaced fill)), ?_, ?_, ?_⟩
  · rw [String.toList_ofList, hscan, words_tokens, words_append, hw, words_spaced hfill]
  · rw [String.toList_ofList, hscan]
  · have hsize := congrArg Text.size hcs
    rw [Text.size_toList] at hsize
    simp only [flat, List.flatMap_append, Text.size_append] at hsize
    rw [Text.utf8ByteSize_ofList, hsize]
    simp only [flat, List.flatMap_append, Text.size_append]
    omega

theorem Span.Tile.increasing {spans : List Span} {start stop : Nat} (h : Tile start spans stop) :
    (∀ s ∈ spans, start ≤ s.index ∧ 0 < s.size) ∧ spans.Pairwise fun s t ↦ s.index < t.index := by
  induction spans generalizing start with
  | nil => exact ⟨nofun, .nil⟩
  | cons s spans ih =>
    obtain ⟨rfl, hpos, htile⟩ := h
    obtain ⟨hall, hpair⟩ := ih htile
    have hle : ∀ t ∈ spans, s.index < t.index := by
      intro t ht
      have := (hall t ht).1
      rw [Span.stop] at this
      omega
    refine ⟨List.forall_mem_cons.2 ⟨⟨Nat.le_refl _, hpos⟩, fun t ht ↦ ?_⟩, .cons hle hpair⟩
    exact ⟨Nat.le_of_lt (hle t ht), (hall t ht).2⟩

theorem Span.Tile.stop_le {spans : List Span} {start stop : Nat} (h : Tile start spans stop) :
    start ≤ stop ∧ ∀ s ∈ spans, s.stop ≤ stop := by
  induction spans generalizing start with
  | nil => exact ⟨Nat.le_of_eq h, by simp⟩
  | cons s spans ih =>
    obtain ⟨rfl, -, htile⟩ := h
    obtain ⟨hstop, hall⟩ := ih htile
    exact ⟨(Nat.le_add_right _ _).trans hstop, List.forall_mem_cons.2 ⟨hstop, hall⟩⟩

theorem Tokens.increasing_significant (source : String) :
    (∀ t ∈ (ofSource source).significant.tokens,
      0 < t.span.size ∧ t.span.stop ≤ source.utf8ByteSize) ∧
    (ofSource source).significant.tokens.Pairwise fun t u ↦ t.span.index < u.span.index := by
  obtain ⟨ss, rest, hcs, -, hts⟩ := Tokens.exists_segments_of_ofSource source
  have htile := Segment.tile_tokens ss 0
  rw [← hts] at htile
  have hsub : (ofSource source).significant.tokens.Sublist (ofSource source).tokens :=
    List.filter_sublist
  have hsize := congrArg Text.size hcs
  rw [Text.size_toList, Text.size_append] at hsize
  obtain ⟨hspans, hpair⟩ := htile.increasing
  refine ⟨fun t ht ↦ ?_, (List.pairwise_map.1 hpair).sublist hsub⟩
  have hmem := List.mem_map_of_mem (f := Token.span) (hsub.mem ht)
  have hstop := htile.stop_le.2 _ hmem
  exact ⟨(hspans _ hmem).2, by omega⟩

namespace Grammar

theorem placeOf_ne {ts : List Token} {size j k : Nat} (hpos : ∀ t ∈ ts, 0 < t.span.size)
    (hpair : ts.Pairwise fun t u ↦ t.span.index < u.span.index) (hj : j < k) (hk : k ≤ ts.length) :
    placeOf ts size j ≠ placeOf ts size k := by
  have hlt : j < ts.length := Nat.lt_of_lt_of_le hj hk
  have hplace : placeOf ts size j = ts[j].span := by simp [placeOf, hlt]
  rw [hplace]
  obtain hk | rfl := Nat.lt_or_eq_of_le hk
  · have hplace : placeOf ts size k = ts[k].span := by simp [placeOf, hk]
    have hindex := List.pairwise_iff_getElem.1 hpair j k hlt hk hj
    intro h
    rw [h, hplace] at hindex
    exact Nat.lt_irrefl _ hindex
  · have hplace : placeOf ts size ts.length = ⟨size, 0⟩ := by simp [placeOf]
    have hsize := hpos _ (List.getElem_mem hlt)
    intro h
    rw [h, hplace] at hsize
    exact Nat.lt_irrefl _ hsize

theorem placeOf_injective {source : String} {size j k : Nat}
    (hj : j ≤ (Tokens.ofSource source).significant.tokens.length)
    (hk : k ≤ (Tokens.ofSource source).significant.tokens.length)
    (h : placeOf (Tokens.ofSource source).significant.tokens size j =
      placeOf (Tokens.ofSource source).significant.tokens size k) : j = k := by
  obtain ⟨hspans, hpair⟩ := Tokens.increasing_significant source
  have hpos : ∀ t ∈ (Tokens.ofSource source).significant.tokens, 0 < t.span.size :=
    fun t ht ↦ (hspans t ht).1
  obtain hlt | he | hlt := Nat.lt_trichotomy j k
  · exact absurd h (placeOf_ne hpos hpair hlt hk)
  · exact he
  · exact absurd h.symm (placeOf_ne hpos hpair hlt hj)

end Grammar

end RegisterLang
