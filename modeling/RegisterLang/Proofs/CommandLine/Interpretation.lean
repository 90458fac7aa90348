import RegisterLang.CommandLine.Program
import RegisterLang.Proofs.Grammar.Report
import RegisterLang.Proofs.Input.Portions

namespace RegisterLang

namespace Input

/-- A text that is typed in, the source text in front, and what is left for the program to read. A
line that starts with a dot ends the source text and belongs to neither. -/
inductive Parts : List Char → List Char → List Char → Prop where
  | row {line whole source rest : List Char} : '\n' ∉ line → line.head? ≠ some '.' →
      Parts whole source rest → Parts (line ++ '\n' :: whole) (line ++ '\n' :: source) rest
  | dot {line rest : List Char} : '\n' ∉ line → Parts ('.' :: line ++ '\n' :: rest) [] rest
  | lastDot {line : List Char} : '\n' ∉ line → Parts ('.' :: line) [] []
  | last {line : List Char} : '\n' ∉ line → line.head? ≠ some '.' → Parts line line []

variable {whole source rest : List Char}

theorem exists_parts (whole : List Char) : ∃ source rest, Parts whole source rest := by
  obtain ⟨ls, margin, rfl, hls, hm⟩ := Text.exists_rows whole
  induction ls with
  | nil =>
    by_cases hd : margin.head? = some '.'
    · obtain ⟨line, rfl⟩ := List.head?_eq_some_iff.1 hd
      exact ⟨[], [], .lastDot (List.not_mem_of_not_mem_cons hm)⟩
    · exact ⟨margin, [], .last hm hd⟩
  | cons l ls ih =>
    obtain ⟨hl, hls⟩ := List.forall_mem_cons.1 hls
    have hrow : Text.rows (l :: ls) ++ margin = l ++ '\n' :: (Text.rows ls ++ margin) := by
      simp [Text.rows]
    rw [hrow]
    by_cases hd : l.head? = some '.'
    · obtain ⟨line, rfl⟩ := List.head?_eq_some_iff.1 hd
      exact ⟨[], _, .dot (List.not_mem_of_not_mem_cons hl)⟩
    · obtain ⟨source, rest, h⟩ := ih hls
      exact ⟨_, rest, .row hl hd h⟩

theorem Parts.suffix (h : Parts whole source rest) : rest <:+ whole := by
  induction h with
  | @row line _ _ _ _ _ _ ih => exact ih.trans ⟨line ++ ['\n'], by simp⟩
  | @dot line rest => exact ⟨'.' :: line ++ ['\n'], by simp⟩
  | lastDot | last => exact List.nil_suffix

theorem Parts.ofStream_eq (h : Parts whole source rest) :
    ofStream (whole.flatMap String.utf8EncodeChar) =
      (.ok source, rest.flatMap String.utf8EncodeChar) := by
  have hsplit (line rest : List Char) : (line ++ '\n' :: rest).flatMap String.utf8EncodeChar =
      (line ++ ['\n']).flatMap String.utf8EncodeChar ++
        rest.flatMap String.utf8EncodeChar := by simp
  induction h with
  | @row line whole source rest hl hd _ ih =>
    have hhead : (line ++ ['\n']).head? ≠ some '.' := by
      cases line with
      | nil => simp
      | cons c line => simpa using hd
    rw [hsplit, ofStream_of_plain (firstLine_encode hl _) (by simp) rfl hhead, ih]
    simp [Except.map]
  | @dot line rest hl =>
    have hl : '\n' ∉ '.' :: line := by simpa using hl
    rw [hsplit, ofStream_of_dotted (firstLine_encode hl _) (by simp) ⟨line ++ ['\n'], rfl⟩]
  | @lastDot line hl =>
    have hl : '\n' ∉ '.' :: line := by simpa using hl
    exact ofStream_of_dotted (firstLine_encode_last hl) (by simp) ⟨line, rfl⟩
  | @last line hl hd =>
    cases line with
    | nil => rw [List.flatMap_nil, ofStream]
    | cons c line =>
      rw [ofStream_of_plain (firstLine_encode_last hl) (by simp) rfl hd, ofStream]
      simp [Except.map]

end Input

namespace CommandLine

open Input

/-- What is given together in a reading is not declared to exclude each other. -/
def Reader.Excludes (reader : Reader) : Prop :=
  ∀ args r p q, reader args = .ok r → p.excludes q → r.has p → r.has q = false

/-- The arguments are read as asking for a source text from the console that is run at once, within
a limit if there is one. -/
def Asks (reader : Reader) (args : List String) (limit : Option Nat) : Prop :=
  ∃ r, reader args = .ok r ∧ r.has .readConsole ∧ r.has .interpret ∧
    limit = (r.value? .stepLimit).bind fun text ↦ Decimal.readCount? text.toList

def outcome (source : String) : World × Except Failure Unit → Nat × World
  | (w, .ok ()) => (0, w)
  | (w, .error failure) => report failure source w

/-- How a command ends after a run on the machine: its exit code, and the world with what was
printed. -/
inductive Ends (limit : Option Nat) (w : World) (m : Machine) :
    Except Machine.Fault Unit → Nat × World → Prop where
  | success : Ends limit w m (.ok ()) (0, w.print m.output.text)
  | divisionByZero {text : String} :
      Ends limit w m (.error (.runtime .divisionByZero))
        (70, (w.print m.output.text).printError text)
  | stepLimit {n : Nat} {text : String} : limit = some n →
      Ends limit w m (.error (.runtime (.stepLimit n)))
        (70, (w.print m.output.text).printError text)

namespace Reading

variable {r : Reading} {p q : Parameter}

theorem check_of_read {args : List String} (h : read args = .ok r) : r.check = .ok () := by
  rw [read] at h
  cases hr : ({} : Reading).readAll args with
  | error refusal => rw [hr] at h; cases h
  | ok r' =>
    cases hc : r'.check with
    | error refusal => simp [hr, hc, bind, Except.bind] at h
    | ok =>
      simp only [hr, hc, bind, Except.bind, pure, Except.pure, Except.ok.injEq] at h
      rwa [← h]

theorem has_eq_false_of_check (h : r.check = .ok ()) (hp : r.has p = true)
    (hexcludes : p.excludes q = true) : r.has q = false := by
  rw [Bool.eq_false_iff]
  intro hq
  have hmem {p : Parameter} (hp : r.has p = true) : p ∈ r.given.map (·.1) := by
    simpa [has] using hp
  rw [check, if_pos] at h
  · cases h
  · exact List.any_eq_true.2 ⟨p, hmem hp, List.any_eq_true.2 ⟨q, hmem hq, hexcludes⟩⟩

theorem readAll_value {arg : String} (hw : r.waiting = some (p, none))
    (harg : arg.toList.head? ≠ some '-') (args : List String) :
    r.readAll (arg :: args) = { r with waiting := some (p, some arg) }.readAll args := by
  rw [readAll]
  split
  · next h => simp [h] at harg
  · next h => simp [h] at harg
  · next h => simp [h] at harg
  · rw [hw]

end Reading

theorem excludes_read : Reader.Excludes read :=
  fun _ _ _ _ hread hexcludes hp ↦
    Reading.has_eq_false_of_check (Reading.check_of_read hread) hp hexcludes

theorem asks_stepLimit {n : Nat} (hn : n < UInt64.size) :
    Asks read ["-c", "--interpret", "--step-limit", toString n] (some n) := by
  have hcount := Decimal.readCount?_toString hn
  have harg : (toString n).toList.head? ≠ some '-' := by
    intro hd
    obtain ⟨cs, hcs⟩ := List.head?_eq_some_iff.1 hd
    have hdigit := Decimal.numeral_toDigits n
    rw [← Nat.toList_repr, ← Nat.toString_eq_repr, hcs] at hdigit
    exact Decimal.not_numeral_of_sign (by decide) cs hdigit
  have hstart : ({} : Reading).readAll ["-c", "--interpret", "--step-limit", toString n] =
      ({ given := [(.readConsole, ""), (.interpret, "")],
         waiting := some (.stepLimit, none) } : Reading).readAll [toString n] := rfl
  refine ⟨⟨[(.readConsole, ""), (.interpret, ""), (.stepLimit, toString n)], none⟩, ?_, rfl, rfl,
    ?_⟩
  · rw [read, hstart, Reading.readAll_value rfl harg, Reading.readAll]
    have haccept : Parameter.stepLimit.checkValue (toString n) = .ok () := by
      rw [Parameter.checkValue, hcount]
      rfl
    simp only [Reading.settle, Reading.accept, Option.getD_some, haccept]
    rfl
  · exact hcount.symm

theorem Console.append_afterUsing (input : List UInt8) (used : Nat) :
    (afterUsing input used).buffer ++ (afterUsing input used).rest = input.drop used := by
  simp only [afterUsing, blockSize]
  generalize htaken : (used + (8192 - 1)) / 8192 * 8192 = taken
  have hle : used ≤ taken := by omega
  obtain ⟨more, rfl⟩ := Nat.exists_eq_add_of_le hle
  rw [List.drop_take, Nat.add_sub_cancel_left, ← List.drop_drop, List.take_append_drop]

section

variable {reader : Reader} {args : List String} {limit : Option Nat}
  {whole source rest : List Char} {w : World}

theorem settings_of_asks (hr : reader.Excludes) (h : Asks reader args limit) : ∃ r language,
    reader args = .ok r ∧ r.settings = .ok ⟨.console, language, .interpret limit⟩ := by
  obtain ⟨r, hread, hconsole, hinterpret, rfl⟩ := h
  have htokens : r.has .tokens = false := hr args r .interpret .tokens hread (by decide) hinterpret
  have hlisting : r.has .listing = false :=
    hr args r .interpret .listing hread (by decide) hinterpret
  refine ⟨r, r.language, hread, ?_⟩
  simp [Reading.settings, Reading.origin, Reading.task, hconsole, hinterpret, htokens, hlisting]

theorem readSource_console (h : Parts whole source rest)
    (hw : w.input = whole.flatMap String.utf8EncodeChar) :
    ∃ console, readSource .console w = (.ok (String.ofList source), console) ∧
      console.buffer ++ console.rest = rest.flatMap String.utf8EncodeChar := by
  refine ⟨_, ?_, Console.append_afterUsing w.input
    (w.input.length - (rest.flatMap String.utf8EncodeChar).length) |>.trans ?_⟩
  · simp only [readSource, hw, h.ofStream_eq]
  · obtain ⟨front, rfl⟩ := h.suffix
    rw [hw, List.flatMap_append, List.length_append, Nat.add_sub_cancel, List.drop_left]

theorem run_eq_of_asks (hr : reader.Excludes) (ha : Asks reader args limit)
    (h : Parts whole source rest) (hw : w.input = whole.flatMap String.utf8EncodeChar)
    (exec : Executor) (fuel : Nat) : run reader args exec fuel w =
      (interpret (String.ofList source) limit fuel (rest.flatMap String.utf8EncodeChar) w).map
        (outcome (String.ofList source)) := by
  obtain ⟨r, language, hread, hsettings⟩ := settings_of_asks hr ha
  obtain ⟨console, hsource, hinput⟩ := readSource_console h hw
  rw [run, hread]
  simp only [hsettings, hsource, perform, hinput]
  refine Option.map_congr fun (w, result) _ ↦ ?_
  cases result <;> rfl

theorem ends_of_execute {p : Program} {fuel : Nat} {result : Except Machine.Fault Unit}
    {m : Machine}
    (hp : assemble (String.ofList source) = .ok p) (hr : reader.Excludes)
    (ha : Asks reader args limit) (h : Parts whole source rest)
    (hw : w.input = whole.flatMap String.utf8EncodeChar) (exec : Executor)
    (hm : Machine.execute p limit fuel { input := rest.flatMap String.utf8EncodeChar } =
      some (result, m)) :
    ∃ ending, run reader args exec fuel w = some ending ∧ Ends limit w m result ending := by
  rw [run_eq_of_asks hr ha h hw, interpret, hp]
  simp only [hm, Option.map_some]
  cases result with
  | ok => exact ⟨_, rfl, .success⟩
  | error fault =>
    obtain rfl | ⟨n, hn, rfl⟩ | ⟨-, hno, -⟩ := Machine.fault_of_execute hp ⟨rfl, rfl⟩ hm
    · exact ⟨_, rfl, .divisionByZero⟩
    · exact ⟨_, rfl, .stepLimit hn⟩
    · exact absurd (Option.isSome_of_eq_some (Utf8.decode?_eq_some_iff.2 rfl)) hno

end

/-- A source text from the console and the program in it share standard input. A line that starts
with a dot divides every text into them, and the command prints what the program prints on its part
and ends as its run does: with 0, or with 70 after a division by zero or at the limit. It prints
nothing and ends with 65 if there is no program. So it is whatever reads the arguments, as long as
it reads them as asking for this and keeps apart what excludes each other. -/
theorem console_run_shares_input :
    (∀ whole, ∃ source rest, Parts whole source rest) ∧
    Reader.Excludes read ∧
    Asks read ["-c", "--interpret"] none ∧
    (∀ n < UInt64.size, Asks read ["-c", "--interpret", "--step-limit", toString n] (some n)) ∧
    ∀ reader : Reader, reader.Excludes → ∀ args limit whole source rest w exec fuel,
      Asks reader args limit → Parts whole source rest →
      w.input = whole.flatMap String.utf8EncodeChar →
      (∀ failure, assemble (String.ofList source) = .error failure →
        ∃ text, run reader args exec fuel w = some (65, w.printError text)) ∧
      ∀ p, assemble (String.ofList source) = .ok p →
        (Machine.execute p limit fuel { input := rest.flatMap String.utf8EncodeChar } = none →
          run reader args exec fuel w = none) ∧
        ∀ result m, Machine.execute p limit fuel { input := rest.flatMap String.utf8EncodeChar } =
            some (result, m) →
          ∃ ending, run reader args exec fuel w = some ending ∧ Ends limit w m result ending := by
  refine ⟨exists_parts, excludes_read, ⟨_, rfl, rfl, rfl, rfl⟩, fun n hn ↦ asks_stepLimit hn, ?_⟩
  intro reader hr args limit whole source rest w exec fuel ha h hw
  refine ⟨fun failure hf ↦ ?_, fun p hp ↦ ⟨fun hm ↦ ?_, fun result m ↦ ?_⟩⟩
  · rw [run_eq_of_asks hr ha h hw, interpret, hf]
    obtain ⟨e, rfl, -⟩ | ⟨fault, rfl⟩ := Grammar.error_cases_of_assemble hf <;> exact ⟨_, rfl⟩
  · rw [run_eq_of_asks hr ha h hw, interpret, hp]
    simp only [hm, Option.map_none]
  · exact ends_of_execute hp hr ha h hw exec

theorem console_run_shares_input_quotient :
    Parts "BEGIN READ x PRINT 7 / x END\n.\n2\n".toList "BEGIN READ x PRINT 7 / x END\n".toList
      "2\n".toList ∧
    ∀ exec, run read ["-c", "--interpret"] exec 7 { input :=
        "BEGIN READ x PRINT 7 / x END\n.\n2\n".toList.flatMap String.utf8EncodeChar } =
      some (0, { output := "3\n", input :=
        "BEGIN READ x PRINT 7 / x END\n.\n2\n".toList.flatMap String.utf8EncodeChar }) := by
  have hparts : Parts "BEGIN READ x PRINT 7 / x END\n.\n2\n".toList
      "BEGIN READ x PRINT 7 / x END\n".toList "2\n".toList :=
    @Parts.row "BEGIN READ x PRINT 7 / x END".toList _ _ _ (by decide) (by decide)
      (@Parts.dot [] "2\n".toList (by decide))
  have hp : assemble (String.ofList "BEGIN READ x PRINT 7 / x END\n".toList) =
      .ok ⟨#[.read "x", .load 7, .push, .loadVariable "x", .apply .divide, .print, .halt]⟩ :=
    Grammar.assemble_eq_ok_iff.2 ⟨.program (.sequence (.read (.target "x"))
      (.sequence (.print (.expression (.term (.unsigned (.integer "7"))
        (.moreFactors .divide rfl (.identifier "x") .noFactors)) .noTerms)) .empty)),
      ⟨by decide +kernel, by decide⟩, by decide +kernel, by decide +kernel⟩
  refine ⟨hparts, fun exec ↦ ?_⟩
  obtain ⟨-, hexcludes, hasks, -, hrun⟩ := console_run_shares_input
  obtain ⟨ending, hending, hends⟩ := ((hrun read hexcludes _ _ _ _ _
    { input := "BEGIN READ x PRINT 7 / x END\n.\n2\n".toList.flatMap String.utf8EncodeChar }
    exec 7 hasks hparts rfl).2 _ hp).2 (.ok ())
    { position := 7, register := 3, storage := ⟨[("x", 2)]⟩, output := { text := "3\n" } }
    (by decide +kernel)
  rw [hending]
  cases hends
  rfl

end CommandLine

end RegisterLang
