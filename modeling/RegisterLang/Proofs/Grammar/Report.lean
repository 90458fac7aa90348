import RegisterLang.Proofs.Grammar.Blame
import RegisterLang.Proofs.Text.Places

namespace RegisterLang

def Span.Fits (span : Span) (text : List Char) : Prop :=
  ∃ before covered after, text = before ++ (covered ++ after) ∧
    span = ⟨Text.size before, Text.size covered⟩

theorem Tokens.fits_ofSource {source : String} (h : source.utf8ByteSize ≤ sourceLimit) :
    (∀ t ∈ (ofSource source).tokens, t.span.Fits source.toList) ∧
      ∀ e ∈ (ofSource source).error, e.span.Fits source.toList := by
  obtain ⟨ss, rest, hcs, -, hts, herror⟩ := exists_segments_of_scanFrom 0 source.toList
  rw [ofSource, if_neg (Nat.not_lt.2 h), hts]
  constructor
  · intro t ht
    obtain ⟨xs, s, ys, htext, rfl⟩ := Segment.exists_place_of_mem_tokens [] ss rest t ht
    exact ⟨xs, s.text, ys, hcs.trans htext, rfl⟩
  · intro e he
    rw [Option.mem_def.1 he] at herror
    obtain ⟨taken, more, rfl, -, hspan⟩ := herror
    exact ⟨_, taken, more, hcs, by rw [hspan, Nat.zero_add]⟩

namespace Grammar

variable {source : String}

theorem fits_frontOf (h : source.utf8ByteSize ≤ sourceLimit) {left : List Token}
    (hleft : left <:+ (Tokens.ofSource source).significant.tokens) :
    (frontOf source.utf8ByteSize left).Fits source.toList := by
  cases left with
  | nil => exact ⟨source.toList, [], [], by simp, by rw [Text.size_toList]; rfl⟩
  | cons t left =>
    have ht : t ∈ (Tokens.ofSource source).tokens :=
      (List.mem_filter.1 (hleft.subset (List.mem_cons_self ..))).1
    exact (Tokens.fits_ofSource h).1 t ht

theorem fits_of_error (h : source.utf8ByteSize ≤ sourceLimit) {e : SourceError}
    (he : (instructions source).2 = .error e) : e.span.Fits source.toList := by
  obtain ⟨is, left, result, hreading⟩ := exists_reading source
  rw [hreading.instructions_eq] at he
  obtain rfl : result = .error e := he
  have hlexical : ∀ l, (Tokens.ofSource source).error = some l → l.span.Fits source.toList :=
    fun l hl ↦ (Tokens.fits_ofSource h).2 l hl
  cases hreading with
  | @refused l hread => exact hlexical l (congrArg Tokens.error hread)
  | run hread hend hruns =>
    subst hread
    obtain ⟨l, rfl, herror, -⟩ | ⟨kind, rfl⟩ | rfl := hruns.error_cases
    · exact hlexical l herror
    · exact fits_frontOf h hruns.left_suffix
    · exact fits_frontOf h hruns.left_suffix

theorem error_cases_of_assemble {f : Failure} (h : assemble source = .error f) :
    (∃ e, f = .source e ∧ (instructions source).2 = .error e) ∨ ∃ fault, f = .assembly fault := by
  rw [assemble, compile_eq_foldl] at h
  cases hresult : (instructions source).2 with
  | error e =>
    rw [hresult] at h
    cases h
    exact .inl ⟨e, rfl, rfl⟩
  | ok =>
    simp only [hresult] at h
    split at h
    · cases h
    · next fault _ =>
      cases h
      exact .inr ⟨fault, rfl⟩

end Grammar

namespace Failure

def quotation (number : Nat) (line : List Char) (blanks carets : Nat) : String :=
  let gutter := Text.repeated (toString number).length ' '
  String.join <| List.map (· ++ "\n")
    [ gutter ++ "--> " ++ toString number ++ ":" ++ toString (blanks + 1),
      gutter ++ " |",
      toString number ++ " | " ++ String.ofList line,
      gutter ++ " | " ++ Text.repeated blanks ' ' ++ Text.repeated carets '^' ]

open Text (size lines lineStart within lastLine firstLine)

/-- A line of a text that is quoted for a span, with carets below it behind a number of blanks: it
is the one on which the span starts, the blanks reach from its start to the span, and there is a
caret for each character of the span on this line. Carets stand below the line or right behind it.
-/
structure Marks (text : List Char) (span : Span) (number : Nat) (line : List Char)
    (blanks carets : Nat) : Prop where
  number_eq : number = (within 0 span.index text).count '\n' + 1
  line_eq : (lines text)[number - 1]? = some line
  starts_behind : lineStart (number - 1) text ≤ span.index
  starts_before : span.index ≤ lineStart (number - 1) text + size line
  blanks_eq : blanks = (within (lineStart (number - 1) text) span.index text).length
  carets_eq : carets = max 1 (within span.index
    (min span.stop (lineStart (number - 1) text + size line)) text).length
  carets_within : blanks + carets ≤ line.length + 1

variable (before covered after : List Char)

theorem quote?_of_cut :
    quote? ⟨size before, size covered⟩ (before ++ (covered ++ after)) =
      some (quotation (before.count '\n' + 1) (lastLine before ++ firstLine (covered ++ after))
        (lastLine before).length (max 1 (firstLine covered).length)) := by
  have haround : Span.around? ⟨size before, size covered⟩ (before ++ (covered ++ after)) =
      some (before, covered ++ after) := by
    rw [Span.around?, Text.size_append, Nat.min_eq_left (Nat.le_add_right ..), Text.cut?_size]
  obtain ⟨earlier, hearlier, -⟩ := (Text.line_of_cut before (covered ++ after)).2
  have hsize : size before = size earlier + size (lastLine before) := by
    rw [← Text.size_append, ← hearlier]
  have hvisible := (Text.firstLine_of_cut covered after).2
  have hcarets : caretCount? ⟨size before, size covered⟩
      ⟨size before - size (lastLine before),
        size (lastLine before) + size (firstLine (covered ++ after))⟩
      (before ++ (covered ++ after)) = some (max 1 (firstLine covered).length) := by
    have hstop : size before - size (lastLine before) +
        (size (lastLine before) + size (firstLine (covered ++ after))) - size before =
          size (firstLine (covered ++ after)) := by omega
    have hfragment := Span.fragment?_append before (firstLine covered)
      (covered.dropWhile (· ≠ '\n') ++ after)
    rw [← List.append_assoc (firstLine covered), Text.firstLine_append_dropWhile] at hfragment
    simp only [caretCount?, Span.stop, hstop, hvisible, hfragment, Option.map_some, Nat.max_comm]
  simp only [quote?, Span.lineColumn?, Span.surroundingLine?, haround, Option.map_some,
    Option.bind_eq_bind, Option.bind_some, hcarets]
  simp [quotation, String.append_assoc]

theorem marks_of_cut :
    Marks (before ++ (covered ++ after)) ⟨size before, size covered⟩ (before.count '\n' + 1)
      (lastLine before ++ firstLine (covered ++ after)) (lastLine before).length
      (max 1 (firstLine covered).length) := by
  obtain ⟨hline, earlier, hearlier, hstart⟩ := Text.line_of_cut before (covered ++ after)
  obtain ⟨⟨more, hmore⟩, hvisible⟩ := Text.firstLine_of_cut covered after
  have hsize : size before = size earlier + size (lastLine before) := by
    rw [← Text.size_append, ← hearlier]
  constructor
  · have hw := Text.within_append [] before (covered ++ after)
    rw [Text.size_nil, Nat.zero_add, List.nil_append] at hw
    rw [hw]
  · exact hline
  · rw [Nat.add_sub_cancel, hstart]
    exact hsize ▸ Nat.le_add_right ..
  · rw [Nat.add_sub_cancel, hstart, Text.size_append]
    show size before ≤ _
    omega
  · have hw := Text.within_append earlier (lastLine before) (covered ++ after)
    rw [← List.append_assoc, ← hearlier, ← hsize] at hw
    rw [Nat.add_sub_cancel, hstart, hw]
  · have hw := Text.within_append before (firstLine covered) (covered.dropWhile (· ≠ '\n') ++ after)
    rw [← List.append_assoc (firstLine covered), Text.firstLine_append_dropWhile] at hw
    have hstop : min (size before + size covered)
        (size earlier + size (lastLine before ++ firstLine (covered ++ after))) =
          size before + size (firstLine covered) := by
      rw [Text.size_append]
      omega
    rw [Nat.add_sub_cancel, hstart, Span.stop, hstop, hw]
  · rw [hmore, List.length_append, List.length_append]
    omega

end Failure

/-- Every error for which a source text has no op code can be reported. One that is blamed on a
place in the text is reported with the line on which that place starts, and is marked there. -/
theorem reports_mark_blamed_place (source : String)
    (h : source.utf8ByteSize < 4 * 1024 * 1024 * 1024) (f : Failure)
    (hf : assemble source = .error f) :
    ∃ report, f.report? source.toList = some report ∧
      match f.span? with
      | none => report = "error: " ++ f.message ++ "\n"
      | some span => ∃ number line blanks carets,
          Failure.Marks source.toList span number line blanks carets ∧
          report = "error: " ++ f.message ++ "\n" ++
            Failure.quotation number line blanks carets := by
  have hle : source.utf8ByteSize ≤ sourceLimit := by
    rw [sourceLimit]
    omega
  obtain ⟨e, rfl, he⟩ | ⟨fault, rfl⟩ := Grammar.error_cases_of_assemble hf
  · obtain ⟨before, covered, after, htext, hspan⟩ := Grammar.fits_of_error hle he
    have hquote := Failure.quote?_of_cut before covered after
    have hmarks := Failure.marks_of_cut before covered after
    rw [← htext, ← hspan] at hquote hmarks
    exact ⟨_, by simp only [Failure.report?, Failure.span?, hquote, Option.map_some],
      _, _, _, _, hmarks, rfl⟩
  · exact ⟨_, rfl, rfl⟩

theorem reports_mark_blamed_place_comment :
    "\x7bé\x7d \x7bß\nEND".utf8ByteSize < 4 * 1024 * 1024 * 1024 ∧
    assemble "\x7bé\x7d \x7bß\nEND" =
      .error (.source (.lexical ⟨.unterminatedComment, ⟨5, 7⟩⟩)) ∧
    Failure.Marks "\x7bé\x7d \x7bß\nEND".toList ⟨5, 7⟩ 1 "\x7bé\x7d \x7bß".toList 4 2 ∧
    Failure.report? (.source (.lexical ⟨.unterminatedComment, ⟨5, 7⟩⟩))
      "\x7bé\x7d \x7bß\nEND".toList =
        some ("error: lexical error: unterminated comment, expected \"\x7d\" before end of " ++
          "input\n --> 1:5\n  |\n1 | \x7bé\x7d \x7bß\n  |     ^^\n") := by
  have hf : assemble "\x7bé\x7d \x7bß\nEND" =
      .error (.source (.lexical ⟨.unterminatedComment, ⟨5, 7⟩⟩)) := by decide +kernel
  obtain ⟨report, hr, number, line, blanks, carets, hm, rfl⟩ :=
    reports_mark_blamed_place _ (by decide) _ hf
  obtain rfl : number = 1 := hm.number_eq
  obtain rfl : blanks = 4 := hm.blanks_eq
  obtain rfl : line = "\x7bé\x7d \x7bß".toList := (Option.some.inj hm.line_eq).symm
  obtain rfl : carets = 2 := hm.carets_eq
  exact ⟨by decide, hf, hm, hr.trans rfl⟩

end RegisterLang
