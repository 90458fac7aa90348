import RegisterLang.Token.Scanner

namespace RegisterLang

def Kind.Spells (k : Kind) (text : String) : Prop :=
  match k with
  | .identifier => text.toList ≠ [] ∧ ∀ c ∈ text.toList, Lexeme.isLetter c = true
  | .integer => text.toList ≠ [] ∧ ∀ c ∈ text.toList, Lexeme.isDigit c = true
  | _ => True

theorem Kind.spells_of_literal {k : Kind} (h : k.literal.isSome = true) (text : String) :
    k.Spells text := by
  cases k <;> trivial

theorem Kind.literal_of_keyword? {k : Kind} {text : String} (h : keyword? text = some k) :
    k.literal.isSome = true := by
  have hk := of_decide_eq_true (List.find?_some (p := fun k : Kind ↦ k.literal = some text) h)
  rw [hk]
  rfl

theorem Kind.literal_of_operator? {k : Kind} {c : Char} (h : operator? c = some k) :
    k.literal.isSome = true := by
  unfold operator? at h
  split at h <;> cases h <;> rfl

namespace Lexeme

theorem takeWhile_spells {p : Char → Bool} {c : Char} (h : p c = true) (cs : List Char) :
    (String.ofList ((c :: cs).takeWhile p)).toList ≠ [] ∧
      ∀ d ∈ (String.ofList ((c :: cs).takeWhile p)).toList, p d = true := by
  rw [String.toList_ofList]
  exact ⟨by simp [h], List.all_eq_true.1 List.all_takeWhile⟩

theorem spells_of_next {cs : List Char} {l : Lexeme} {kind : Kind} {value : String}
    (h : next cs = some l) (hok : l.outcome = .ok (kind, value)) : kind.Spells value := by
  cases cs with
  | nil => simp [next] at h
  | cons c cs =>
    simp only [next] at h
    split at h
    · cases h
      cases hok
      trivial
    split at h
    · next hc =>
      cases h
      cases hok
      exact takeWhile_spells hc cs
    split at h
    · cases h
      cases hok
      trivial
    split at h
    · cases h
      cases hok
      trivial
    split at h
    · next hc =>
      cases h
      simp only [word, Except.ok.injEq] at hok
      split at hok
      · next hk =>
        cases hok
        exact Kind.spells_of_literal (Kind.literal_of_keyword? hk) _
      · cases hok
        exact takeWhile_spells hc cs
    split at h
    · cases h
      simp only [operator] at hok
      split at hok
      · split at hok <;> cases hok
        next ho => exact Kind.spells_of_literal (Kind.literal_of_operator? ho) _
      · cases hok
    split at h
    · cases h
      unfold comment at hok
      simp only at hok
      split at hok <;> cases hok
      trivial
    · cases h
      cases hok

end Lexeme

namespace Tokens

theorem length_scanFrom_le (offset : Nat) (cs : List Char) :
    (scanFrom offset cs).tokens.length ≤ cs.length := by
  fun_induction scanFrom offset cs with
  | case1 => simp
  | case2 => simp
  | case3 offset cs l h kind value hl width more ih =>
    have hlt := Lexeme.rest_length_lt h hl
    exact Nat.lt_of_le_of_lt ih hlt

theorem length_le_utf8ByteSize (cs : List Char) : cs.length ≤ (String.ofList cs).utf8ByteSize := by
  induction cs with
  | nil => simp
  | cons c cs ih =>
    have hc := Char.utf8Size_pos c
    rw [← List.singleton_append, String.ofList_append, String.utf8ByteSize_append]
    simp
    omega

theorem length_ofSource_le (source : String) : (ofSource source).tokens.length ≤ sourceLimit := by
  rw [ofSource]
  split
  · simp
  · have hs := length_le_utf8ByteSize source.toList
    rw [String.ofList_toList] at hs
    have := length_scanFrom_le 0 source.toList
    omega

theorem spells_of_mem_scanFrom {offset : Nat} {cs : List Char} {t : Token}
    (h : t ∈ (scanFrom offset cs).tokens) : t.kind.Spells t.value := by
  fun_induction scanFrom offset cs with
  | case1 => cases h
  | case2 => cases h
  | case3 offset cs l hn kind value hl width more ih =>
    cases h with
    | head => exact Lexeme.spells_of_next hn hl
    | tail _ h => exact ih h

theorem spells_of_mem_ofSource {source : String} {t : Token} (h : t ∈ (ofSource source).tokens) :
    t.kind.Spells t.value := by
  rw [ofSource] at h
  split at h
  · cases h
  · exact spells_of_mem_scanFrom h

end Tokens

end RegisterLang
