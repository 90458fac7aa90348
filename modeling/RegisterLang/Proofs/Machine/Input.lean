import RegisterLang.Proofs.Machine.Arithmetic
import RegisterLang.Proofs.Machine.Safety
import RegisterLang.Proofs.Text.Encoding
import RegisterLang.Proofs.Text.Numerals

namespace RegisterLang

/-- The first line of a stream, up to and including its newline, and what follows it. A stream
without a newline is a line of its own. -/
inductive FirstLine : List UInt8 → List UInt8 → List UInt8 → Prop where
  | newline {body rest : List UInt8} : 10 ∉ body →
      FirstLine (body ++ 10 :: rest) (body ++ [10]) rest
  | last {line : List UInt8} : 10 ∉ line → FirstLine line line []

def NoText (line : List UInt8) : Prop :=
  ∀ text : List Char, line ≠ text.flatMap String.utf8EncodeChar

def CountsAs (text : List Char) (value : Int64) : Prop :=
  Decimal.Spells text value ∨ value = 0 ∧ ∀ x, ¬ Decimal.Spells text x

theorem firstLine_splitLine (input : List UInt8) :
    FirstLine input (splitLine input).1 (splitLine input).2 := by
  induction input with
  | nil => exact .last List.not_mem_nil
  | cons b input ih =>
    rw [splitLine]
    split
    · next hb =>
      subst hb
      exact @FirstLine.newline [] input List.not_mem_nil
    · next hb =>
      generalize splitLine input = s at ih
      obtain ⟨line, rest⟩ := s
      cases ih with
      | @newline body _ hbody =>
        exact @FirstLine.newline (b :: body) rest (by simp [hbody, Ne.symm hb])
      | last hline => exact .last (by simp [hline, Ne.symm hb])

theorem FirstLine.splitLine_eq {input line rest : List UInt8} (h : FirstLine input line rest) :
    splitLine input = (line, rest) := by
  cases h with
  | newline hbody => rw [splitLine_append_of_notMem hbody, splitLine, if_pos rfl]
  | last hline =>
    have h := splitLine_append_of_notMem hline []
    simpa [splitLine] using h

section

variable {line : List Char} (h : '\n' ∉ line)

include h

theorem firstLine_encode (rest : List UInt8) :
    FirstLine ((line ++ ['\n']).flatMap String.utf8EncodeChar ++ rest)
      ((line ++ ['\n']).flatMap String.utf8EncodeChar) rest := by
  have hnewline : String.utf8EncodeChar '\n' = [10] := by decide
  have hline : 10 ∉ line.flatMap String.utf8EncodeChar := fun h10 ↦ h (Utf8.newline_mem_iff.1 h10)
  simpa [hnewline] using FirstLine.newline hline

theorem firstLine_encode_last :
    FirstLine (line.flatMap String.utf8EncodeChar) (line.flatMap String.utf8EncodeChar) [] :=
  .last fun h10 ↦ h (Utf8.newline_mem_iff.1 h10)

end

theorem noText_iff {line : List UInt8} : NoText line ↔ Utf8.decode? line = none := by
  rw [Option.eq_none_iff_forall_ne_some]
  exact forall_congr' fun text ↦ not_congr Utf8.decode?_eq_some_iff.symm

theorem countsAs_integerOf (text : List Char) : CountsAs text (Machine.integerOf text) := by
  rw [Machine.integerOf]
  cases h : Decimal.readInt64? (Text.trim text) with
  | some value => exact .inl (Decimal.readInt64?_trim_eq_some_iff.1 h)
  | none =>
    refine .inr ⟨rfl, fun x hx ↦ ?_⟩
    cases h.symm.trans (Decimal.readInt64?_trim_eq_some_iff.2 hx)

namespace Machine

def MeetsNoText (p : Program) (m : Machine) : Prop :=
  ∃ name line rest, p.ops[m.position]? = some (.read name) ∧ FirstLine m.input line rest ∧
    NoText line

variable {p : Program} {m m' m₁ : Machine} {n : Nat} {fault : Fault}

theorem step_read {name : String} (h : p.ops[m.position]? = some (.read name)) :
    ∃ line rest, FirstLine m.input line rest ∧
      ((∃ text value, line = text.flatMap String.utf8EncodeChar ∧ CountsAs text value ∧
        step p m = (.ok .running, { m with
          position := m.position + 1, input := rest, storage := m.storage.set name value })) ∨
      NoText line ∧ step p m =
        (.error (.system .invalidText), { m with position := m.position + 1, input := rest })) := by
  refine ⟨_, _, firstLine_splitLine m.input, ?_⟩
  rw [step_eq h]
  simp only [runOp, readInteger, readLine]
  cases ht : Utf8.decode? (splitLine m.input).1 with
  | some text =>
    exact .inl ⟨text, _, Utf8.decode?_eq_some_iff.1 ht, countsAs_integerOf text, rfl⟩
  | none => exact .inr ⟨noText_iff.2 ht, rfl⟩

theorem continueTo_error {limit : Option Nat} {fuel : Nat}
    (h : continueTo p limit fuel 0 m = some (.error fault, m')) :
    (∃ n, limit = some n ∧ fault = .runtime (.stepLimit n)) ∨
    (∃ n m₁, Reaches p n m m₁ ∧ step p m₁ = (.error fault, m')) ∨
    ∃ n m₁, Reaches p n m m₁ ∧ step p m₁ = (.ok .halted, m') ∧
      settle () m' = (.error fault, m') := by
  obtain ⟨n, m₁, hn, hc, -⟩ := closes_of_continueTo (fun b _ ↦ Nat.zero_le b) h
  generalize hr : (Except.error fault, m') = r at hc
  cases hc with
  | limit hlimit =>
    cases hr
    exact .inl ⟨_, hlimit, rfl⟩
  | fault _ hs =>
    cases hr
    exact .inr (.inl ⟨n, m₁, hn, hs⟩)
  | @halt m₂ _ hs =>
    obtain rfl : m' = m₂ := by simpa using congrArg Prod.snd hr
    exact .inr (.inr ⟨n, m₁, hn, hs, rfl⟩)

theorem step_healthy (p : Program) (h : m.Healthy) : (step p m).2.Healthy := by
  obtain ⟨taken, room, ho⟩ := exists_step_output p m
  rw [Healthy, ho]
  exact h

theorem step_valid (p : Program) (h : Utf8.Valid m.input) : Utf8.Valid (step p m).2.input := by
  obtain ⟨hi | ⟨-, hi⟩, -⟩ := step_streams p m
  · rwa [hi]
  · rw [hi]
    exact (valid_splitLine h).2

theorem fault_of_step (hp : p.Sound) (hl : Level p m) (hh : m.Healthy)
    (h : step p m = (.error fault, m')) :
    fault = .runtime .divisionByZero ∨ fault = .system .invalidText ∧ MeetsNoText p m := by
  cases ho : p.ops[m.position]? with
  | none =>
    rw [step, ho] at h
    cases h
  | some op =>
    have hsafe := (step_safe hp hl).1
    rw [h] at hsafe
    rw [step_eq ho] at h
    cases op with
    | load | loadVariable | store | push | negate | jump | halt => cases h
    | jumpUnless =>
      rw [runOp] at h
      split at h <;> cases h
    | print =>
      rw [runOp, Sink.write, hh.1] at h
      cases h
    | read name =>
      obtain ⟨line, rest, hline, ⟨text, value, -, -, hok⟩ | ⟨hno, herror⟩⟩ := step_read ho
      · cases ((step_eq ho).symm.trans hok).symm.trans h
      · cases ((step_eq ho).symm.trans herror).symm.trans h
        exact .inr ⟨rfl, name, line, rest, ho, hline, hno⟩
    | apply operation =>
      rw [runOp] at h
      split at h
      · cases h
        exact absurd rfl hsafe
      · split at h
        · cases h
        · next happly =>
          cases h
          exact .inl (congrArg _ (eq_divisionByZero_of_apply happly))

theorem MeetsNoText.not_valid (h : MeetsNoText p m) : ¬ Utf8.Valid m.input := by
  obtain ⟨name, line, rest, -, hline, hno⟩ := h
  intro hvalid
  have hfirst := (valid_splitLine hvalid).1
  rw [hline.splitLine_eq, Utf8.Valid, noText_iff.1 hno] at hfirst
  cases hfirst

theorem fault_of_execute {source : String} {limit : Option Nat} {fuel : Nat}
    (h : assemble source = .ok p) (hh : m.Healthy)
    (he : execute p limit fuel m = some (.error fault, m')) :
    fault = .runtime .divisionByZero ∨
      (∃ n, limit = some n ∧ fault = .runtime (.stepLimit n)) ∨
      fault = .system .invalidText ∧ ¬ Utf8.Valid m.input ∧
        ∃ n m₁, Reaches p n m.reset m₁ ∧ MeetsNoText p m₁ := by
  have hp := Grammar.sound_of_assemble h
  have hkeeps {n : Nat} {m₁ : Machine} (hn : Reaches p n m.reset m₁) : Level p m₁ ∧ m₁.Healthy :=
    hn.keeps (P := fun m ↦ Level p m ∧ m.Healthy)
      (fun _ hm ↦ ⟨(step_safe hp hm.1).2, step_healthy p hm.2⟩) ⟨level_reset m, hh⟩
  obtain hlimit | ⟨n, m₁, hn, hs⟩ | ⟨n, m₁, hn, hs, hflush⟩ := continueTo_error he
  · exact .inr (.inl hlimit)
  · obtain ⟨hl, hh₁⟩ := hkeeps hn
    obtain hzero | ⟨hfault, hmeets⟩ := fault_of_step hp hl hh₁ hs
    · exact .inl hzero
    · refine .inr (.inr ⟨hfault, fun hvalid ↦ ?_, n, m₁, hn, hmeets⟩)
      exact hmeets.not_valid
        (hn.keeps (P := fun m ↦ Utf8.Valid m.input) (fun _ ↦ step_valid p) hvalid)
  · have hh' := step_healthy p (hkeeps hn).2
    rw [hs] at hh'
    rw [settle, Sink.flush, hh'.2] at hflush
    cases hflush

/-- Op code of a source text, on any input and with an output that takes all that is written, fails
only where it divides by zero, at its limit, or in front of a line that is not text, which input
that is UTF-8 does not have. A read takes one line and stores the number that the line spells, or
zero. -/
theorem execute_fails_only_for_division_limit_or_no_text (source : String) (p : Program)
    (h : assemble source = .ok p) :
    (∀ limit fuel m fault m', m.Healthy → execute p limit fuel m = some (.error fault, m') →
      fault = .runtime .divisionByZero ∨
      (∃ n, limit = some n ∧ fault = .runtime (.stepLimit n)) ∨
      fault = .system .invalidText ∧ ¬ Utf8.Valid m.input ∧
        ∃ n m₁, Reaches p n m.reset m₁ ∧ MeetsNoText p m₁) ∧
    ∀ m name, p.ops[m.position]? = some (.read name) →
      ∃ line rest, FirstLine m.input line rest ∧
        ((∃ text value, line = text.flatMap String.utf8EncodeChar ∧ CountsAs text value ∧
          step p m = (.ok .running, { m with
            position := m.position + 1, input := rest, storage := m.storage.set name value })) ∨
        NoText line ∧ step p m =
          (.error (.system .invalidText),
            { m with position := m.position + 1, input := rest })) := by
  exact ⟨fun limit fuel m fault m' hh he ↦ fault_of_execute h hh he, fun m name ho ↦ step_read ho⟩

theorem execute_fails_only_for_division_limit_or_no_text_letter :
    assemble "BEGIN READ x PRINT 7 / x END" =
      .ok ⟨#[.read "x", .load 7, .push, .loadVariable "x", .apply .divide, .print, .halt]⟩ ∧
    ∀ limit fuel fault m', execute ⟨#[.read "x", .load 7, .push, .loadVariable "x",
        .apply .divide, .print, .halt]⟩ limit fuel { input := [0xC3, 0xA9, 10] } =
          some (.error fault, m') →
      fault = .runtime .divisionByZero ∨ ∃ n, limit = some n ∧ fault = .runtime (.stepLimit n) := by
  have h : assemble "BEGIN READ x PRINT 7 / x END" =
      .ok ⟨#[.read "x", .load 7, .push, .loadVariable "x", .apply .divide, .print, .halt]⟩ :=
    Grammar.assemble_eq_ok_iff.2 ⟨.program (.sequence (.read (.target "x"))
      (.sequence (.print (.expression (.term (.unsigned (.integer "7"))
        (.moreFactors .divide rfl (.identifier "x") .noFactors)) .noTerms)) .empty)),
      ⟨by decide +kernel, by decide⟩, by decide +kernel, by decide +kernel⟩
  refine ⟨h, fun limit fuel fault m' he ↦ ?_⟩
  obtain hzero | hlimit | ⟨-, hno, -⟩ := (execute_fails_only_for_division_limit_or_no_text _ _ h).1
    limit fuel { input := [0xC3, 0xA9, 10] } fault m' ⟨rfl, rfl⟩ he
  · exact .inl hzero
  · exact .inr hlimit
  · have hvalid : (Utf8.decode? [0xC3, 0xA9, 10]).isSome = true := by decide +kernel
    exact absurd hvalid hno

/-- A byte that begins no character stops the program, where a line that is no number should have
been read as zero. -/
theorem read_of_no_text_fails :
    assemble "BEGIN READ x PRINT x END" =
      .ok ⟨#[.read "x", .loadVariable "x", .print, .halt]⟩ ∧
    execute ⟨#[.read "x", .loadVariable "x", .print, .halt]⟩ none 4 { input := [0xFF, 10] } =
      some (.error (.system .invalidText), { position := 1 }) := by
  refine ⟨Grammar.assemble_eq_ok_iff.2 ⟨.program (.sequence (.read (.target "x"))
    (.sequence (.print (.expression (.term (.unsigned (.identifier "x")) .noFactors) .noTerms))
      .empty)), ⟨by decide +kernel, by decide⟩, by decide +kernel, by decide +kernel⟩, ?_⟩
  decide +kernel

end Machine

end RegisterLang
