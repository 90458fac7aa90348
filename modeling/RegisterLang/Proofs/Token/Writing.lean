import Mathlib.Data.List.Chain
import RegisterLang.Proofs.Text.Places
import RegisterLang.Proofs.Token.Segment

namespace RegisterLang

namespace Segment

/-- Neighbours that are read as one. -/
def Merges (s t : Segment) : Prop :=
  s.shape = t.shape ∧ s.shape ∈ [Shape.blanks, .digits, .letters, .operator]

/-- The kind that a segment stands for. Marks and keywords have the spelling of the segment, and
letters that spell no keyword are a variable. -/
def Denotes (s : Segment) (k : Kind) : Prop :=
  match s.shape with
  | .blanks => k = .whitespace
  | .digits => k = .integer
  | .comment => k = .comment
  | .paren | .operator => k.literal = some (String.ofList s.text)
  | .letters => k ∈ Kind.keywords ∧ k.literal = some (String.ofList s.text) ∨
      k = .identifier ∧ ∀ keyword ∈ Kind.keywords, keyword.literal ≠ some (String.ofList s.text)

/-- One token for each segment from a byte offset on: of its kind, with its content, and where it
stands. -/
def Shown : Nat → List Segment → List Token → Prop
  | _, [], ts => ts = []
  | offset, s :: ss, ts => ∃ t more, ts = t :: more ∧ s.Denotes t.kind ∧
      t.text = String.ofList s.content ∧ t.span = ⟨offset, Text.size s.text⟩ ∧
      Shown (offset + Text.size s.text) ss more

theorem denotes_kind (s : Segment) : s.Denotes s.kind := by
  obtain ⟨shape, text, fits⟩ := s
  cases shape with
  | blanks | digits | comment => rfl
  | paren => rcases fits with rfl | rfl <;> rfl
  | operator =>
    obtain ⟨c, rfl, hc⟩ := fits
    rcases Shape.eq_of_isOperator hc with rfl | rfl | rfl | rfl | rfl | rfl <;> rfl
  | letters =>
    simp only [Denotes, kind]
    cases hk : Kind.keyword? (String.ofList text) with
    | none =>
      rw [Kind.keyword?, List.find?_eq_none] at hk
      exact .inr ⟨rfl, fun k hmem he ↦ hk k hmem (decide_eq_true he)⟩
    | some k =>
      have hl := List.find?_some hk
      exact .inl ⟨List.mem_of_find?_eq_some hk, of_decide_eq_true hl⟩

theorem literal_eq_of_denotes {s : Segment} {k : Kind} {spelling : String} (h : s.Denotes k)
    (hk : k.literal = some spelling) : spelling = String.ofList s.content := by
  obtain ⟨shape, text, fits⟩ := s
  cases shape with
  | blanks | digits | comment =>
    rw [show k = _ from h] at hk
    cases hk
  | paren | operator => exact Option.some.inj (hk.symm.trans h)
  | letters =>
    obtain ⟨-, hl⟩ | ⟨rfl, -⟩ := h
    · exact Option.some.inj (hk.symm.trans hl)
    · cases hk

theorem text_token (offset : Nat) (s : Segment) :
    (s.token offset).text = String.ofList s.content := by
  simp only [token, Token.text, value]
  cases hk : s.kind.literal with
  | none => simp
  | some spelling => simpa using literal_eq_of_denotes s.denotes_kind hk

theorem shown_tokens (ss : List Segment) (offset : Nat) : Shown offset ss (tokens offset ss) := by
  induction ss generalizing offset with
  | nil => rfl
  | cons s ss ih => exact ⟨_, _, rfl, s.denotes_kind, s.text_token offset, rfl, ih _⟩

theorem absorbs_eq_false_iff {s t : Segment} {c : Char} (hc : Shape.of? c = some t.shape) :
    s.shape.absorbs c = false ↔ ¬ s.Merges t := by
  rw [← Bool.not_eq_true, not_iff_not]
  constructor
  · intro h
    have hs := Shape.of?_eq_of_absorbs h
    refine ⟨Option.some.inj (hs.symm.trans hc), ?_⟩
    cases hshape : s.shape with
    | blanks | digits | letters | operator => decide
    | paren | comment =>
      rw [hshape] at h
      cases h
  · rintro ⟨hs, hmem⟩
    refine Shape.absorbs_of_of? (hs ▸ hc) ?_ ?_
    · intro he
      rw [he] at hmem
      exact absurd hmem (by decide)
    · intro he
      rw [he] at hmem
      exact absurd hmem (by decide)

theorem apart_nil_iff {ss : List Segment} :
    Apart ss [] ↔ ss.IsChain fun s t ↦ ¬ s.Merges t := by
  induction ss with
  | nil => exact ⟨fun _ ↦ .nil, fun _ ↦ trivial⟩
  | cons s ss ih =>
    cases ss with
    | nil => exact ⟨fun _ ↦ .singleton s, fun _ ↦ ⟨by simp, trivial⟩⟩
    | cons t ss =>
      obtain ⟨c, cs, ht, hc⟩ := t.fits.exists_cons
      rw [Apart, ih, List.isChain_cons_cons, ← absorbs_eq_false_iff hc]
      simp [ht]

theorem eq_of_flat_eq {ss ts : List Segment} (hs : Apart ss []) (ht : Apart ts [])
    (h : flat ss = flat ts) : ss = ts := by
  induction ss generalizing ts with
  | nil =>
    cases ts with
    | nil => rfl
    | cons t ts => exact absurd (List.append_eq_nil_iff.1 h.symm).1 t.ne_nil
  | cons s ss ih =>
    cases ts with
    | nil => exact absurd (List.append_eq_nil_iff.1 h).1 s.ne_nil
    | cons t ts =>
      have hns := Lexeme.next_segment s hs.1
      have hnt := Lexeme.next_segment t ht.1
      rw [List.append_nil] at hns hnt
      have he : some _ = some _ := hns.symm.trans ((congrArg Lexeme.next h).trans hnt)
      simp only [Option.some.injEq, Lexeme.mk.injEq] at he
      rw [eq_of_text_eq he.1, ih hs.2 ht.2 he.2.2]

end Segment

/-- Segments one after the other, none of which merges with the next. -/
structure Writing where
  segments : List Segment
  separated : segments.IsChain fun s t ↦ ¬ s.Merges t

namespace Writing

open Segment

def text (w : Writing) : List Char := flat w.segments

theorem ofSource_text (w : Writing) (h : Text.size w.text ≤ sourceLimit) :
    Tokens.ofSource (String.ofList w.text) = ⟨Segment.tokens 0 w.segments, none⟩ := by
  have hscan := Tokens.scanFrom_flat (apart_nil_iff.2 w.separated) 0
  rw [List.append_nil, Tokens.scanFrom_nil] at hscan
  rw [Tokens.ofSource, Text.utf8ByteSize_ofList, if_neg (Nat.not_lt.2 h), String.toList_ofList]
  simp [text, hscan]

theorem toExcept_text (w : Writing) (h : Text.size w.text ≤ sourceLimit) :
    (Tokens.ofSource (String.ofList w.text)).toExcept = .ok (Segment.tokens 0 w.segments) := by
  rw [w.ofSource_text h, Tokens.toExcept]

theorem exists_of_toExcept {source : String} {ts : List Token}
    (h : (Tokens.ofSource source).toExcept = .ok ts) : ∃ w : Writing, w.text = source.toList := by
  unfold Tokens.ofSource Tokens.toExcept at h
  split at h
  · next he =>
    split at he <;> cases h
  · next he =>
    split at he
    · cases he
    · obtain ⟨ss, rest, hcs, hapart, -, herror⟩ :=
        Tokens.exists_segments_of_scanFrom 0 source.toList
      rw [he] at herror
      cases herror
      exact ⟨⟨ss, apart_nil_iff.1 hapart⟩, by rw [text, hcs, List.append_nil]⟩

theorem eq_of_text_eq {v w : Writing} (h : v.text = w.text) : v = w := by
  obtain ⟨ss, hs⟩ := v
  obtain ⟨ts, ht⟩ := w
  cases Segment.eq_of_flat_eq (apart_nil_iff.2 hs) (apart_nil_iff.2 ht) h
  rfl

/-- The texts that can be read are those that are written in segments which do not merge. Each is
read as one token for each segment, and is written in one way only. -/
theorem readable_iff_written :
    (∀ w : Writing, Text.size w.text < 4 * 1024 * 1024 * 1024 →
      ∃ ts, (Tokens.ofSource (String.ofList w.text)).toExcept = .ok ts ∧
        Shown 0 w.segments ts) ∧
    ∀ (source : String) (ts : List Token), (Tokens.ofSource source).toExcept = .ok ts →
      ∃ w : Writing, w.text = source.toList ∧ ∀ v : Writing, v.text = source.toList → v = w := by
  constructor
  · intro w h
    have hle : Text.size w.text ≤ sourceLimit := by
      rw [sourceLimit]
      omega
    exact ⟨_, w.toExcept_text hle, shown_tokens w.segments 0⟩
  · intro source ts h
    obtain ⟨w, hw⟩ := exists_of_toExcept h
    exact ⟨w, hw, fun v hv ↦ eq_of_text_eq (hv.trans hw.symm)⟩

def mixedLine : Writing where
  segments :=
    [⟨.letters, "IFP".toList, by decide, List.all_eq_true.1 (by decide)⟩,
      ⟨.comment, "\x7bé→\x7d".toList, "é→".toList, by decide, by decide⟩,
      ⟨.letters, "IF".toList, by decide, List.all_eq_true.1 (by decide)⟩,
      ⟨.operator, "=".toList, '=', by decide⟩,
      ⟨.digits, "07".toList, by decide, List.all_eq_true.1 (by decide)⟩]
  separated := by simp [Segment.Merges]

theorem readable_iff_written_mixedLine :
    Text.size mixedLine.text < 4 * 1024 * 1024 * 1024 ∧
    (∃ ts, (Tokens.ofSource "IFP\x7bé→\x7dIF=07").toExcept = .ok ts ∧
      Shown 0 mixedLine.segments ts) ∧
    ∀ v : Writing, v.text = "IFP\x7bé→\x7dIF=07".toList → v = mixedLine := by
  obtain ⟨ts, h, hs⟩ := readable_iff_written.1 mixedLine (by decide)
  obtain ⟨w, -, hw⟩ := readable_iff_written.2 _ ts h
  exact ⟨by decide, ⟨ts, h, hs⟩, fun v hv ↦ (hw v hv).trans (hw mixedLine rfl).symm⟩

end Writing

end RegisterLang
