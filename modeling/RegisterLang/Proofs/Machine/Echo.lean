import RegisterLang.Proofs.Machine.Limits

namespace RegisterLang

def lineOf (value : Int64) : List UInt8 :=
  ((Decimal.writeInt64 value).toList ++ ['\n']).flatMap String.utf8EncodeChar

theorem integerOf_line (value : Int64) :
    Machine.integerOf ((Decimal.writeInt64 value).toList ++ ['\n']) = value := by
  have hspells : Decimal.Spells ((Decimal.writeInt64 value).toList ++ ['\n']) value :=
    ⟨[], _, ['\n'], rfl, by simp, by simp [Text.isBlank, Text.blankRanges],
      Decimal.signed_writeInt64 value⟩
  rw [Machine.integerOf, Decimal.readInt64?_trim_eq_some_iff.2 hspells]
  rfl

namespace Machine

def printed (p : Program) : Nat → Machine → List Int64
  | 0, _ => []
  | n + 1, m =>
    if p.ops[m.position]? = some .print then m.register :: printed p n (step p m).2
    else printed p n (step p m).2

def stored (p : Program) : Nat → Machine → List Int64
  | 0, _ => []
  | n + 1, m =>
    match p.ops[m.position]? with
    | some (.read name) => (step p m).2.storage.get name :: stored p n (step p m).2
    | _ => stored p n (step p m).2

variable {p q : Program} {m m' m₁ m₂ m₃ : Machine} {n k : Nat} {values : List Int64}

theorem output_of_step (h : step p m = (.ok .running, m')) : m'.output.text =
    m.output.text ++ if p.ops[m.position]? = some .print then
      Decimal.writeInt64 m.register ++ "\n" else "" := by
  by_cases hop : p.ops[m.position]? = some .print
  · rw [step_eq hop, runOp] at h
    split at h
    · next hwrite =>
      cases h
      rw [if_pos hop]
      exact Sink.text_of_write hwrite
    · cases h
  · obtain ⟨-, ho | ⟨hprint, -⟩⟩ := step_streams p m
    · have hkeeps : m'.output = m.output := by rwa [h] at ho
      simp [hkeeps, hop]
    · exact absurd hprint hop

theorem output_of_reaches (h : Reaches p n m m₁) :
    m₁.output.text.toList.flatMap String.utf8EncodeChar =
      m.output.text.toList.flatMap String.utf8EncodeChar ++ (printed p n m).flatMap lineOf := by
  induction n generalizing m with
  | zero =>
    cases h
    simp [printed]
  | succ n ih =>
    obtain ⟨m₂, hs, h⟩ := h
    rw [ih h, output_of_step hs, printed, hs]
    split <;> simp [lineOf]

theorem step_read_line {name : String} (ho : p.ops[m.position]? = some (.read name))
    (hm : m.input = values.flatMap lineOf) :
    step p m = (.ok .running, { m with
      position := m.position + 1, input := values.tail.flatMap lineOf,
      storage := m.storage.set name (values.headD 0) }) := by
  rw [step_eq ho, runOp, readInteger, hm]
  cases values with
  | nil =>
    have hread : readLine [] = (some [], []) := by
      simp [readLine, splitLine, Utf8.decode?_nil]
    simp only [List.flatMap_nil, hread]
    rfl
  | cons value values =>
    have hread : readLine ((value :: values).flatMap lineOf) =
        (some ((Decimal.writeInt64 value).toList ++ ['\n']), values.flatMap lineOf) := by
      rw [readLine, List.flatMap_cons, lineOf,
        (firstLine_encode (Decimal.newline_notMem_writeInt64 value) _).splitLine_eq]
      simp only [Utf8.decode?_eq_some_iff.2 rfl]
    simp only [hread, integerOf_line]
    rfl

theorem input_of_step (h : step p m = (.ok .running, m'))
    (hop : ∀ name, p.ops[m.position]? ≠ some (.read name)) : m'.input = m.input := by
  obtain ⟨hi | ⟨⟨name, hname⟩, -⟩, -⟩ := step_streams p m
  · rwa [h] at hi
  · exact absurd hname (hop name)

theorem stored_of_reaches (h : Reaches p n m m₁) (hm : m.input = values.flatMap lineOf) :
    stored p n m = values.take (stored p n m).length ++
        List.replicate ((stored p n m).length - values.length) 0 ∧
      m₁.input = (values.drop (stored p n m).length).flatMap lineOf := by
  induction n generalizing m values with
  | zero =>
    cases h
    simpa [stored] using hm
  | succ n ih =>
    obtain ⟨m₂, hs, h⟩ := h
    rw [stored, hs]
    split
    · next name ho =>
      have hread := step_read_line ho hm
      cases hs.symm.trans hread
      obtain ⟨hstored, hinput⟩ := ih h rfl
      rw [Storage.get_set, if_pos rfl, List.length_cons]
      cases values with
      | nil => exact ⟨by simpa [List.replicate_succ] using hstored, by simpa using hinput⟩
      | cons value values => exact ⟨by simpa using hstored, by simpa using hinput⟩
    · next ho => exact ih h ((input_of_step hs ho).trans hm)

theorem exists_printed {p : Program} {m : Machine} (hh : m.Healthy)
    (hp : p.Holds m.position (values.flatMap fun value ↦ [.load value, .print])) :
    ∃ n m', Reaches p n m m' ∧ printed p n m = values ∧ m'.Healthy ∧
      m'.position = m.position + 2 * values.length := by
  induction values generalizing m with
  | nil => exact ⟨0, m, .refl, rfl, hh, by simp⟩
  | cons value values ih =>
    obtain ⟨hload, hprint, hp⟩ := hp
    have h₁ : step p m = (.ok .running, { m with position := m.position + 1, register := value }) :=
      step_eq hload
    have h₂ :=
      step_print hprint (m := { m with position := m.position + 1, register := value }) hh.1
    obtain ⟨n, m', hn, hprinted, hh', hpos⟩ := @ih { m with
      position := m.position + 2, register := value,
      output.text := m.output.text ++ (Decimal.writeInt64 value ++ "\n") } hh hp
    refine ⟨n + 2, m', ⟨_, h₁, _, h₂, hn⟩, ?_, hh', ?_⟩
    · simp [printed, h₁, h₂, hload, hprint, hprinted]
    · simp only [List.length_cons] at hpos ⊢
      omega

theorem exists_execute_printed (values : List Int64) :
    ∃ p m n fuel, execute p none fuel {} = some (.ok (), m) ∧ Reaches p n {} m ∧
      printed p n {} = values := by
  let p : Program := ⟨(values.flatMap fun value ↦ [.load value, .print]).toArray⟩
  obtain ⟨n, m, hn, hprinted, hh, hpos⟩ :=
    exists_printed (p := p) (m := {}) ⟨rfl, rfl⟩ (Program.holds_all _)
  have hhalt : step p m = (.ok .halted, m) := by
    have hsize : p.ops.size = 2 * values.length := by
      simp [p, List.length_flatMap, List.map_const', Nat.mul_comm]
    rw [step, Array.getElem?_eq_none (by omega)]
  refine ⟨p, m, n, n + 1, ?_, hn, hprinted⟩
  rw [← settle_eq () hh.2]
  exact (continueTo_of_reaches hn).trans (continueTo_of_halted hhalt)

/-- What a program prints, a program reads back. Any values can be printed in a run that halts. If
the output of a run is the input of another, then the reads of the other store the printed values in
their order, and zeros when there are no more. The reads do not fail, and with the last value the
input is used up. -/
theorem printed_values_are_read_back :
    (∀ values, ∃ p m n fuel, execute p none fuel {} = some (.ok (), m) ∧ Reaches p n {} m ∧
      printed p n {} = values) ∧
    ∀ p q n k m m₁ m₂ m₃, m.output.text = "" → Reaches p n m m₁ →
      m₂.input = m₁.output.text.toList.flatMap String.utf8EncodeChar → Reaches q k m₂ m₃ →
      stored q k m₂ = (printed p n m).take (stored q k m₂).length ++
          List.replicate ((stored q k m₂).length - (printed p n m).length) 0 ∧
        ((printed p n m).length ≤ (stored q k m₂).length → m₃.input = []) ∧
        ∀ name, q.ops[m₃.position]? = some (.read name) → ∃ m₄, step q m₃ = (.ok .running, m₄) ∧
          m₄.storage.get name = ((printed p n m).drop (stored q k m₂).length).headD 0 := by
  refine ⟨exists_execute_printed, fun p q n k m m₁ m₂ m₃ hempty hp hinput hq ↦ ?_⟩
  rw [output_of_reaches hp, hempty] at hinput
  obtain ⟨hstored, hleft⟩ := stored_of_reaches hq hinput
  refine ⟨hstored, fun hall ↦ ?_, fun name ho ↦ ⟨_, step_read_line ho hleft, ?_⟩⟩
  · rw [hleft, List.drop_eq_nil_of_le hall]
    rfl
  · rw [Storage.get_set, if_pos rfl]

theorem printed_values_are_read_back_extremes :
    let p : Program := ⟨#[.load Int64.minValue, .print, .load Int64.maxValue, .print]⟩
    let q : Program := ⟨#[.read "x", .read "y"]⟩
    ∃ m₁ m₃ m₄, Reaches p 4 {} m₁ ∧
      Reaches q 1 { input := m₁.output.text.toList.flatMap String.utf8EncodeChar } m₃ ∧
      m₃.storage.get "x" = Int64.minValue ∧ step q m₃ = (.ok .running, m₄) ∧
      m₄.storage.get "y" = Int64.maxValue := by
  intro p q
  obtain ⟨m₁, hp⟩ : ∃ m₁, Reaches p 4 {} m₁ := ⟨_, _, rfl, _, rfl, _, rfl, _, rfl, rfl⟩
  have hread : q.ops[0]? = some (.read "x") := rfl
  have hq := step_read_line (m := { input := _ }) hread (output_of_reaches hp)
  obtain ⟨-, -, hnext⟩ := printed_values_are_read_back.2 p q 4 1 {} m₁ _ _ rfl hp rfl
    ⟨_, hq, rfl⟩
  obtain ⟨m₄, hm₄, hget⟩ := hnext "y" rfl
  exact ⟨m₁, _, m₄, hp, ⟨_, hq, rfl⟩, rfl, hm₄, hget⟩

end Machine

end RegisterLang
