import RegisterLang.Proofs.Dialect.Indentation
import RegisterLang.Proofs.Dialect.Rust
import RegisterLang.Proofs.Dialect.Swift
import RegisterLang.Proofs.Text.Places

namespace RegisterLang

/-- An instruction as far as the clauses of it tell. The end of a block looks the same for a branch
and for a loop, and an integer may have leading zeros or be out of range. -/
def Instruction.outline : Instruction → Instruction
  | .loopEnd => .branchEnd
  | .loadInteger _ => .loadInteger ""
  | i => i

def outlineOf : Option (List Clause) → Instruction
  | some [.branch condition] => .branch condition
  | some [.close, .otherwise] => .otherwise
  | some [.close] => .branchEnd
  | some [.loop] => .loopStart
  | some [.exit] => .exitLoop
  | some [.simple .print] => .print
  | some [.simple (.read name)] => .read name
  | some [.simple (.loadVariable name)] => .loadVariable name
  | some [.simple (.store name)] => .store name
  | some [.simple .push] => .push
  | some [.simple (.apply operation)] => .apply operation
  | some [.simple .negate] => .negate
  | _ => .loadInteger ""

theorem Instruction.cases_of_outline_eq {i j : Instruction} (h : i.outline = j.outline) :
    i = j ∨ i.isClosing = true ∧ j.isClosing = true ∨
      ∃ a b, i = .loadInteger a ∧ j = .loadInteger b := by
  unfold outline at h
  split at h <;> split at h
  · exact .inl rfl
  · cases h
  · exact .inr (.inl ⟨rfl, by rw [← h]; rfl⟩)
  · cases h
  · exact .inr (.inr ⟨_, _, rfl, rfl⟩)
  · next hinteger => exact absurd h.symm (hinteger _)
  · exact .inr (.inl ⟨by rw [h]; rfl, rfl⟩)
  · simp_all
  · exact .inl h

theorem Discipline.Pending.eq_of_isClosing {p : Pending} {i j : Instruction} (hi : p.Admits i)
    (hj : p.Admits j) (hic : i.isClosing = true) (hjc : j.isClosing = true) : i = j := by
  cases i <;> cases hic <;> cases j <;> cases hjc <;> simp_all [Admits]

def IsLine (text : String) : Prop := ∃ code, text = code ++ "\n" ∧ '\n' ∉ code.toList

theorem eq_of_join_eq {xs ys : List String} (hx : ∀ x ∈ xs, IsLine x) (hy : ∀ y ∈ ys, IsLine y)
    (h : String.join xs = String.join ys) : xs = ys := by
  induction xs generalizing ys with
  | nil =>
    cases ys with
    | nil => rfl
    | cons y ys =>
      obtain ⟨code, rfl, -⟩ := hy y (.head _)
      have h := congrArg String.toList h
      simp at h
  | cons x xs ih =>
    obtain ⟨⟨code, rfl, hn⟩, hxs⟩ := List.forall_mem_cons.1 hx
    cases ys with
    | nil =>
      have h := congrArg String.toList h
      simp at h
    | cons y ys =>
      obtain ⟨⟨code', rfl, hn'⟩, hys⟩ := List.forall_mem_cons.1 hy
      have h := congrArg String.toList h
      simp only [String.join_cons, String.toList_append, List.append_assoc] at h
      have hnewline : "\n".toList = ['\n'] := rfl
      rw [hnewline, List.singleton_append, List.singleton_append] at h
      have hcode : code.toList = code'.toList := by
        have hfirst := congrArg Text.firstLine h
        rwa [Text.firstLine_append hn, Text.firstLine_append hn', Text.firstLine_cons_newline,
          Text.firstLine_cons_newline, List.append_nil, List.append_nil] at hfirst
      rw [hcode] at h
      have hrest := (List.cons.inj (List.append_cancel_left h)).2
      rw [String.toList_inj.1 hcode, ih hxs hys (String.toList_inj.1 hrest)]

namespace Dialect

open Discipline Grammar

/-- A dialect whose lines can be read, each apart from the others. -/
structure Recoverable (d : Dialect) (clauses? : List Char → Option (List Clause)) : Prop where
  readable : d.Readable clauses?
  lined : d.Lined
  integer : ∀ {text : String}, Kind.integer.Spells text → ∀ depth,
    clauses? (line depth (d.loadInteger text)).toList =
      (Decimal.readInt64? text.toList).map fun value ↦ [.simple (.load value)]
  integer_inj : ∀ {a b : String}, d.loadInteger a = d.loadInteger b → a = b

theorem recoverable_rust : rust.Recoverable RustText.spelling.clauses? :=
  ⟨RustText.readable, lined (.inl rfl), RustText.clauses?_loadInteger, by simp [rust]⟩

theorem recoverable_swift : swift.Recoverable SwiftText.clauses? :=
  ⟨SwiftText.readable, lined (.inr rfl), SwiftText.clauses?_loadInteger, by simp [swift]⟩

theorem line_inj {depth : Nat} {code code' : String} (h : line depth code = line depth code') :
    code = code' := by
  simpa [line] using h

section

variable {d : Dialect} {clauses? : List Char → Option (List Clause)} {p q : Pending}
variable {is js : List Instruction} {i j : Instruction}

theorem Recoverable.outlineOf_line (hd : d.Recoverable clauses?) (hstart : i ≠ .programStart)
    (hend : i ≠ .programEnd) (hw : i.Worded) (level : Nat) :
    outlineOf (clauses? (line level (d.code i)).toList) = i.outline := by
  have hplain (hp : i.Plain) : clauses? (line level (d.code i)).toList = some i.clauses := by
    have h := hd.readable.write hp (level + i.outdent)
    rwa [write_eq d _ hstart hend, Nat.add_sub_cancel] at h
  cases i with
  | programStart => exact absurd rfl hstart
  | programEnd => exact absurd rfl hend
  | loadInteger text =>
    rw [code, hd.integer hw]
    cases Decimal.readInt64? text.toList <;> rfl
  | read | loadVariable | store => rw [hplain hw]; rfl
  | _ => rw [hplain trivial]; rfl

theorem Recoverable.eq_of_line_eq (hd : d.Recoverable clauses?) (ha : p.Admits i)
    (ha' : p.Admits j) (hi : i ≠ .programStart ∧ i ≠ .programEnd)
    (hj : j ≠ .programStart ∧ j ≠ .programEnd) (hw : i.Worded) (hw' : j.Worded)
    (h : line (d.bodyDepth + (around is i).length) (d.code i) =
      line (d.bodyDepth + (around is j).length) (d.code j)) : i = j := by
  have ho : i.outline = j.outline := by
    rw [← hd.outlineOf_line hi.1 hi.2 hw, h, hd.outlineOf_line hj.1 hj.2 hw']
  obtain heq | ⟨hic, hjc⟩ | ⟨a, b, rfl, rfl⟩ := Instruction.cases_of_outline_eq ho
  · exact heq
  · exact Pending.eq_of_isClosing ha ha' hic hjc
  · exact congrArg _ (hd.integer_inj (line_inj h))

theorem Recoverable.eq_of_bodyLines_eq (hd : d.Recoverable clauses?) (hb : Body is p)
    (hb' : Body js q) (hw : ∀ i ∈ is, i.Worded) (hw' : ∀ j ∈ js, j.Worded)
    (h : d.bodyLines is = d.bodyLines js) : is = js ∧ p = q := by
  induction hb generalizing js q with
  | nil =>
    cases hb' with
    | nil => exact ⟨rfl, rfl⟩
    | snoc => simp [bodyLines] at h
  | snoc hb hstart hend ha ih =>
    cases hb' with
    | nil => simp [bodyLines] at h
    | snoc hb' hstart' hend' ha' =>
      rw [bodyLines_append_singleton, bodyLines_append_singleton] at h
      obtain ⟨hinit, hlast⟩ := List.append_inj' h rfl
      obtain ⟨hw, hwi⟩ := List.forall_mem_append.1 hw
      obtain ⟨hw', hwj⟩ := List.forall_mem_append.1 hw'
      obtain ⟨rfl, rfl⟩ := ih hb' hw hw' hinit
      obtain rfl := hd.eq_of_line_eq ha ha' ⟨hstart, hend⟩ ⟨hstart', hend'⟩
        (hwi _ (.head _)) (hwj _ (.head _)) (List.cons.inj hlast).1
      exact ⟨rfl, rfl⟩

theorem isLine_of_mem_bodyLines (hd : d.Lined) (hb : Body is p) (hw : ∀ i ∈ is, i.Worded) :
    ∀ x ∈ d.bodyLines is, IsLine x := by
  induction hb with
  | nil => simp [bodyLines]
  | @snoc is p i hb hstart hend _ ih =>
    obtain ⟨hw, hwi⟩ := List.forall_mem_append.1 hw
    rw [bodyLines_append_singleton]
    refine List.forall_mem_append.2 ⟨ih hw, List.forall_mem_singleton.2 ⟨_, rfl, ?_⟩⟩
    have hn := (hd i hstart hend (hwi i (.head _))).newline_notMem
    simp [indent, hn]

theorem Recoverable.eq_of_text_eq (hd : d.Recoverable clauses?) (hb : Body is p) (hb' : Body js q)
    (hw : ∀ i ∈ is, i.Worded) (hw' : ∀ j ∈ js, j.Worded)
    (h : d.header ++ String.join (d.bodyLines is) ++ d.footer =
      d.header ++ String.join (d.bodyLines js) ++ d.footer) : is = js := by
  have hjoin : String.join (d.bodyLines is) = String.join (d.bodyLines js) := by
    simpa using h
  refine (hd.eq_of_bodyLines_eq hb hb' hw hw' ?_).1
  exact eq_of_join_eq (isLine_of_mem_bodyLines hd.lined hb hw)
    (isLine_of_mem_bodyLines hd.lined hb' hw') hjoin

theorem Recoverable.instructions_eq (hd : d.Recoverable clauses?) {source other : String}
    (hs : (renderIn d source).2 = .ok ()) (ho : (renderIn d other).2 = .ok ())
    (h : (renderIn d source).1 = (renderIn d other).1) :
    (instructions source).1.toList = (instructions other).1.toList := by
  have hw := worded_of_mem_instructions source
  have hw' := worded_of_mem_instructions other
  have hsource := written d source
  have hother := written d other
  generalize (instructions source).1.toList = is at hsource hw
  generalize (instructions other).1.toList = js at hother hw'
  generalize renderIn d source = out at *
  generalize renderIn d other = out' at *
  cases hsource with
  | nothing | stopped => cases hs
  | finished hb =>
    cases hother with
    | nothing | stopped => cases ho
    | finished hb' =>
      have hw := (List.forall_mem_append.1 (List.forall_mem_cons.1 hw).2).1
      have hw' := (List.forall_mem_append.1 (List.forall_mem_cons.1 hw').2).1
      rw [hd.eq_of_text_eq hb hb' hw hw' h]

end

/-- Two accepted source texts that come out as the same text in a target language give the same
instructions. So they have the same op code, or fail to have one for the same reason. -/
theorem text_tells_instructions {d : Dialect} (hd : d = .rust ∨ d = .swift)
    {source other : String} (hs : (renderIn d source).2 = .ok ())
    (ho : (renderIn d other).2 = .ok ()) (h : (renderIn d source).1 = (renderIn d other).1) :
    instructions source = instructions other ∧ assemble source = assemble other := by
  have hlist : (instructions source).1.toList = (instructions other).1.toList := by
    obtain rfl | rfl := hd
    · exact recoverable_rust.instructions_eq hs ho h
    · exact recoverable_swift.instructions_eq hs ho h
  have hresult : (instructions source).2 = (instructions other).2 := by
    simp only [renderIn, compile_eq_foldl] at hs ho
    rw [hs, ho]
  have hall : instructions source = instructions other :=
    Prod.ext (Array.toList_inj.1 hlist) hresult
  refine ⟨hall, ?_⟩
  simp only [assemble, compile_eq_foldl, hall]

theorem text_tells_instructions_signed :
    (renderIn rust "BEGIN LOOP x = +07 END END").2 = .ok () ∧
    (renderIn rust "BEGIN LOOP x = (07) END END").2 = .ok () ∧
    (renderIn rust "BEGIN LOOP x = +07 END END").1 =
      (renderIn rust "BEGIN LOOP x = (07) END END").1 ∧
    instructions "BEGIN LOOP x = +07 END END" = instructions "BEGIN LOOP x = (07) END END" ∧
    assemble "BEGIN LOOP x = +07 END END" = assemble "BEGIN LOOP x = (07) END END" := by
  have hsigned : IsTreeOf (.program (.sequence (.loop (.sequence (.assign "x" (.expression
      (.term (.plus (.integer "07")) .noFactors) .noTerms)) .empty)) .empty))
      "BEGIN LOOP x = +07 END END" := ⟨by decide +kernel, by decide⟩
  have hgroup : IsTreeOf (.program (.sequence (.loop (.sequence (.assign "x" (.expression
      (.term (.unsigned (.group (.expression (.term (.unsigned (.integer "07")) .noFactors)
        .noTerms))) .noFactors) .noTerms)) .empty)) .empty))
      "BEGIN LOOP x = (07) END END" := ⟨by decide +kernel, by decide⟩
  have hs : (renderIn rust "BEGIN LOOP x = +07 END END").2 = .ok () := by
    simp only [renderIn, compile_of_isTreeOf hsigned]
  have ho : (renderIn rust "BEGIN LOOP x = (07) END END").2 = .ok () := by
    simp only [renderIn, compile_of_isTreeOf hgroup]
  have h : (renderIn rust "BEGIN LOOP x = +07 END END").1 =
      (renderIn rust "BEGIN LOOP x = (07) END END").1 := by
    simp only [renderIn, compile_of_isTreeOf hsigned, compile_of_isTreeOf hgroup,
      Tree.instructions, List.append_nil]
  exact ⟨hs, ho, h, text_tells_instructions (.inl rfl) hs ho h⟩

end Dialect

end RegisterLang
