import RegisterLang.Proofs.Grammar.Runs
import RegisterLang.Proofs.Grammar.Words

namespace RegisterLang

namespace Segment

def programStart : Segment :=
  ⟨.letters, ['B', 'E', 'G', 'I', 'N'], by decide, List.all_eq_true.1 (by decide)⟩

def blockEnd : Segment := ⟨.letters, ['E', 'N', 'D'], by decide, List.all_eq_true.1 (by decide)⟩

def rightParen : Segment := ⟨.paren, [')'], .inr rfl⟩

def assignment : Segment := ⟨.operator, ['='], '=', rfl, rfl⟩

def zero : Segment := ⟨.digits, ['0'], by decide, List.all_eq_true.1 (by decide)⟩

def name : Segment := ⟨.letters, ['x'], by decide, List.all_eq_true.1 (by decide)⟩

end Segment

namespace Grammar

open Segment (flat spaced)

/-- Items that can be passed with some tokens that were taken and with words still to be written,
which take up a number of bytes. -/
def Completes (taken : List Token) (bytes depth : Nat) (items : List Item) : Prop :=
  ∃ (fill : List Segment) (is : List Instruction) (last : Token),
    Passes items depth (taken ++ fill.map (Segment.token 0)) is [last] ∧
    (∀ s ∈ fill, s.kind.isSkippable = false) ∧ Text.size (flat (spaced fill)) ≤ bytes

variable {items : List Item} {depth bytes : Nat} {taken : List Token}

namespace Completes

theorem mono (h : Completes taken bytes depth items) {more : Nat} (hle : bytes ≤ more) :
    Completes taken more depth items := by
  obtain ⟨fill, is, last, hp, hs, hb⟩ := h
  exact ⟨fill, is, last, hp, hs, hb.trans hle⟩

theorem give (h : Completes taken bytes depth items) (i : Instruction) :
    Completes taken bytes depth (.give i :: items) := by
  obtain ⟨fill, is, last, hp, hfill⟩ := h
  exact ⟨fill, _, last, .give hp, hfill⟩

theorem enter (h : Completes taken bytes (depth + 1) items) (hd : depth + 1 ≤ nestingLimit) :
    Completes taken bytes depth (.enter :: items) := by
  obtain ⟨fill, is, last, hp, hfill⟩ := h
  exact ⟨fill, is, last, .enter hd hp, hfill⟩

theorem leave (h : Completes taken bytes (depth - 1) items) :
    Completes taken bytes depth (.leave :: items) := by
  obtain ⟨fill, is, last, hp, hfill⟩ := h
  exact ⟨fill, is, last, .leave hp, hfill⟩

theorem taking (h : Completes taken bytes depth items) (t : Token) :
    Completes (t :: taken) bytes depth (.token t.kind :: items) := by
  obtain ⟨fill, is, last, hp, hfill⟩ := h
  exact ⟨fill, is, last, .token hp, hfill⟩

theorem of_expand {p : Production} (hd : depth ≤ nestingLimit) (hne : taken ≠ [])
    (h : Completes taken bytes depth (expand p taken.head? ++ items)) :
    Completes taken bytes depth (.production p :: items) := by
  obtain ⟨fill, is, last, hp, hfill⟩ := h
  obtain ⟨t, taken, rfl⟩ := List.exists_cons_of_ne_nil hne
  exact ⟨fill, is, last, .of_expand hd hp, hfill⟩

theorem nullable (h : Completes [] bytes depth items) (hd : depth ≤ nestingLimit) {p : Production}
    (hp : p.isNullable = true) : Completes [] bytes depth (.production p :: items) := by
  obtain ⟨fill, is, last, hpass, hfill⟩ := h
  refine ⟨fill, is, last, ?_, hfill⟩
  cases p with
  | block => exact .nothing .empty rfl rfl rfl rfl hd hpass
  | alternative => exact .nothing .noAlternative rfl rfl rfl rfl hd hpass
  | moreTerms => exact .nothing .noTerms rfl rfl rfl rfl hd hpass
  | moreFactors => exact .nothing .noFactors rfl rfl rfl rfl hd hpass
  | program | statement | readTarget | expression | term | signed | factor => cases hp

theorem token (h : Completes [] bytes depth items) (s : Segment) (hs : s.kind.isSkippable = false) :
    Completes [] (Text.size s.text + 1 + bytes) depth (.token s.kind :: items) := by
  obtain ⟨fill, is, last, hp, hall, hb⟩ := h
  refine ⟨s :: fill, is, last, .token (t := s.token 0) hp, List.forall_mem_cons.2 ⟨hs, hall⟩, ?_⟩
  rw [Segment.size_spaced_cons]
  omega

theorem one (h : Completes [] bytes depth items) {p : Production} (t : Tree p)
    (hp : p.isProgram = false) (s : Segment) (hs : s.kind.isSkippable = false)
    (hw : t.words = [s.word]) (hd : depth + t.nesting ≤ nestingLimit) :
    Completes [] (Text.size s.text + 1 + bytes) depth (.production p :: items) := by
  obtain ⟨fill, is, last, hpass, hall, hb⟩ := h
  refine ⟨s :: fill, _, last, .one t hp (a := s.token 0) ?_ hd hpass,
    List.forall_mem_cons.2 ⟨hs, hall⟩, ?_⟩
  · rw [hw, Segment.word_token]
  · rw [Segment.size_spaced_cons]
    omega

end Completes

/-- What waits at a depth behind a production: nothing but ends of blocks and groups, one for each
level, and the end of the program. -/
inductive Rest : Nat → List Item → Prop where
  | last : Rest 0 [.sight .blockEnd, .give .programEnd]
  | give {i : Instruction} {items : List Item} {depth : Nat} : Rest depth items →
      Rest depth (.give i :: items)
  | nullable {p : Production} {items : List Item} {depth : Nat} : p.isNullable = true →
      Rest depth items → Rest depth (.production p :: items)
  | leave {items : List Item} {depth : Nat} : Rest depth items → Rest (depth + 1) (.leave :: items)
  | endOfBlock {i : Instruction} {items : List Item} {depth : Nat} : Rest depth items →
      Rest (depth + 1) (.token .blockEnd :: .give i :: .leave :: items)
  | endOfGroup {items : List Item} {depth : Nat} : Rest depth items →
      Rest (depth + 1) (.token .rightParen :: .leave :: items)

theorem Rest.completes (h : Rest depth items) (hd : depth ≤ nestingLimit) :
    Completes [] (4 * (depth + 1)) depth items := by
  induction h with
  | last =>
    exact ⟨[.blockEnd], _, _, .sight (t := Segment.blockEnd.token 0) (.give .done), by decide,
      by decide⟩
  | give _ ih => exact (ih hd).give _
  | nullable hp _ ih => exact (ih hd).nullable hd hp
  | leave _ ih => exact (ih (by omega)).leave.mono (by omega)
  | @endOfBlock i items depth _ ih =>
    have h : Completes [] (4 * (depth + 1)) (depth + 1) (.leave :: items) :=
      (ih (by omega)).leave
    have hsize : Text.size Segment.blockEnd.text = 3 := by decide
    exact ((h.give i).token .blockEnd (by decide)).mono (by omega)
  | @endOfGroup items depth _ ih =>
    have h : Completes [] (4 * (depth + 1)) (depth + 1) (.leave :: items) :=
      (ih (by omega)).leave
    have hsize : Text.size Segment.rightParen.text = 1 := by decide
    exact (h.token .rightParen (by decide)).mono (by omega)

def Production.isOperand : Production → Bool
  | readTarget | expression | term | factor => true
  | _ => false

/-- What can wait behind a word: perhaps an operand, and then the rest. -/
inductive Open : Nat → List Item → Prop where
  | rest {items : List Item} {depth : Nat} : Rest depth items → Open depth items
  | operand {p : Production} {items : List Item} {depth : Nat} : p.isOperand = true →
      Rest depth items → Open depth (.production p :: items)
  | assignment {items : List Item} {depth : Nat} : Rest depth items →
      Open depth (.token .assignment :: .production .expression :: items)

theorem Completes.operand (h : Completes [] bytes depth items) (hd : depth ≤ nestingLimit)
    {p : Production} (hp : p.isOperand = true) :
    Completes [] (bytes + 2) depth (.production p :: items) := by
  have hzero : Text.size Segment.zero.text + 1 + bytes ≤ bytes + 2 := by
    rw [show Text.size Segment.zero.text = 1 by decide]
    omega
  have hname : Text.size Segment.name.text + 1 + bytes ≤ bytes + 2 := by
    rw [show Text.size Segment.name.text = 1 by decide]
    omega
  have hw : [((Kind.integer, "0") : Word)] = [Segment.zero.word] := by decide
  cases p with
  | readTarget => exact (h.one (.target "x") rfl .name (by decide) (by decide) hd).mono hname
  | factor => exact (h.one (.integer "0") rfl .zero (by decide) hw hd).mono hzero
  | term =>
    exact (h.one (.term (.unsigned (.integer "0")) .noFactors) rfl .zero (by decide) hw hd).mono
      hzero
  | expression =>
    exact (h.one (.expression (.term (.unsigned (.integer "0")) .noFactors) .noTerms) rfl .zero
      (by decide) hw hd).mono hzero
  | program | block | statement | alternative | moreTerms | moreFactors | signed => cases hp

theorem Open.completes (h : Open depth items) (hd : depth ≤ nestingLimit) :
    Completes [] (4 * (nestingLimit + 2)) depth items := by
  cases h with
  | rest h => exact (h.completes hd).mono (by omega)
  | operand hp h => exact ((h.completes hd).operand hd hp).mono (by omega)
  | assignment h =>
    have h := (h.completes hd).operand hd (show Production.expression.isOperand = true from rfl)
    have hsize : Text.size Segment.assignment.text = 1 := by decide
    exact (h.token .assignment (by decide)).mono (by omega)

inductive Ready : Nat → List Item → Prop where
  | start : Ready 0 [.production .program]
  | rest {items : List Item} {depth : Nat} : Rest depth items → Ready depth items
  | production {p : Production} {items : List Item} {depth : Nat} : p.isProgram = false →
      Rest depth items → Ready depth (.production p :: items)
  | token {k : Kind} {items : List Item} {depth : Nat} : Open depth items →
      Ready depth (.token k :: items)
  | give {i : Instruction} {items : List Item} {depth : Nat} : Ready depth items →
      Ready depth (.give i :: items)
  | enter {items : List Item} {depth : Nat} : Ready (depth + 1) items →
      Ready depth (.enter :: items)

theorem Open.ready (h : Open depth items) : Ready depth items := by
  cases h with
  | rest h => exact .rest h
  | @operand p _ _ hp h => exact .production (by cases p <;> first | rfl | cases hp) h
  | assignment h => exact .token (.operand rfl h)

namespace Ready

theorem of_give {i : Instruction} (h : Ready depth (.give i :: items)) : Ready depth items := by
  cases h with
  | rest h =>
    cases h with
    | give h => exact .rest h
  | give h => exact h

theorem of_enter (h : Ready depth (.enter :: items)) : Ready (depth + 1) items := by
  cases h with
  | rest h => cases h
  | enter h => exact h

theorem of_leave (h : Ready depth (.leave :: items)) : Ready (depth - 1) items := by
  cases h with
  | rest h =>
    cases h with
    | leave h => exact .rest h

theorem of_token {k : Kind} (h : Ready depth (.token k :: items)) : Open depth items := by
  cases h with
  | rest h =>
    cases h with
    | endOfBlock h => exact .rest (.give (.leave h))
    | endOfGroup h => exact .rest (.leave h)
  | token h => exact h

theorem of_sight {k : Kind} (h : Ready depth (.sight k :: items)) :
    items = [.give .programEnd] := by
  cases h with
  | rest h =>
    cases h with
    | last => rfl

end Ready

theorem ready_statementItems (ahead : Token) (h : Rest depth items) :
    Ready depth (statementItems ahead ++ items) := by
  unfold statementItems
  split
  · exact .enter (.token (.operand rfl (.give (.nullable rfl (.nullable rfl (.endOfBlock h))))))
  · exact .enter (.token (.rest (.give (.nullable rfl (.endOfBlock h)))))
  · exact .token (.rest (.give h))
  · exact .token (.operand rfl (.give h))
  · exact .token (.operand rfl h)
  · exact .token (.assignment (.give h))

theorem ready_operatorTail {k : Kind} {operation : Operation} {operand more : Production}
    (ho : operand.isOperand = true) (hm : more.isNullable = true) (h : Rest depth items) :
    Ready depth (operatorTail k operation operand more ++ items) :=
  .give (.token (.operand ho (.give (.nullable hm h))))

theorem ready_parenthesised (h : Rest depth items) : Ready depth (parenthesised ++ items) :=
  .enter (.token (.operand rfl (.endOfGroup h)))

theorem ready_expand {p : Production} (hp : p.isProgram = false) (ahead : Option Token)
    (h : Rest depth items) : Ready depth (expand p ahead ++ items) := by
  cases p with
  | program => cases hp
  | block =>
    cases ahead with
    | none => exact .rest h
    | some t =>
      by_cases hb : t.kind.isBlockEnd = true
      · simp only [expand, hb, if_true]
        exact .rest h
      · simp only [expand, hb]
        exact .production rfl (.nullable rfl h)
  | statement =>
    cases ahead with
    | none => exact .token (.rest h)
    | some t => exact ready_statementItems t h
  | alternative =>
    simp only [expand]
    split
    · exact .token (.rest (.give (.nullable rfl h)))
    · exact .rest h
  | readTarget =>
    cases ahead with
    | none => exact .token (.rest h)
    | some t => exact .token (.rest (.give h))
  | expression | term => exact .production rfl (.nullable rfl h)
  | moreTerms | moreFactors =>
    simp only [expand]
    split
    · exact .rest h
    · exact ready_operatorTail rfl rfl h
  | signed =>
    simp only [expand]
    split
    · exact .token (.operand rfl h)
    · exact .token (.operand rfl (.give h))
    · exact .production rfl h
  | factor =>
    cases ahead with
    | none => exact ready_parenthesised h
    | some t =>
      simp only [expand]
      split
      · exact .token (.rest (.give h))
      · exact .token (.rest (.give h))
      · exact ready_parenthesised h

theorem Ready.expand {p : Production} (h : Ready depth (.production p :: items))
    (ahead : Option Token) : Ready depth (expand p ahead ++ items) := by
  cases h with
  | start => exact .token (.rest (.give (.nullable rfl .last)))
  | production hp h => exact ready_expand hp ahead h
  | rest h =>
    cases h with
    | nullable hp h => exact ready_expand (by cases p <;> first | rfl | cases hp) ahead h

variable {ending : Option LexicalError} {size : Nat} {ts left : List Token}
variable {is : List Instruction} {result : Except SourceError Unit}

theorem Runs.completes (h : Runs ending size items depth ts is left result)
    (hr : Ready depth items) (hd : depth ≤ nestingLimit) (hne : taken ≠ [])
    (hts : ts = taken ++ left) : Completes taken (4 * (nestingLimit + 2)) depth items := by
  induction h generalizing taken with
  | done | tooDeep | unmet => exact absurd (List.self_eq_append_left.1 hts) hne
  | give h ih => exact (ih hr.of_give hd hne hts).give _
  | enter hdepth h ih => exact (ih hr.of_enter hdepth hne hts).enter hdepth
  | leave h ih => exact (ih hr.of_leave (by omega) hne hts).leave
  | sight h ih =>
    obtain rfl := hr.of_sight
    cases h with
    | give h =>
      cases h
      exact absurd (List.self_eq_append_left.1 hts) hne
    | unmet hitem => simp at hitem
  | @token t items depth ts left is result hend h ih =>
    obtain ⟨t, taken, rfl⟩ := List.exists_cons_of_ne_nil hne
    obtain ⟨rfl, hmore⟩ := List.cons.inj hts
    by_cases hnil : taken = []
    · subst hnil
      exact (hr.of_token.completes hd).taking t
    · exact (ih hr.of_token.ready hd hnil hmore).taking t
  | @broken t items depth e he =>
    rw [List.append_nil] at hts
    subst hts
    exact (hr.of_token.completes hd).taking t
  | @production p items depth ts left is result h ih =>
    refine .of_expand hd hne ?_
    have hhead : ts.head? = taken.head? := by
      rw [hts, List.head?_append_of_ne_nil _ hne]
    rw [← hhead]
    exact ih (hr.expand _) hd hne hts

theorem Runs.exists_tree (h : Runs ending size [.production .program] 0 ts is left result)
    (hne : taken ≠ []) (hts : ts = taken ++ left) :
    ∃ (tree : Tree .program) (fill : List Segment),
      tree.words = taken.map Token.word ++ fill.map Segment.word ∧ tree.nesting ≤ nestingLimit ∧
      (∀ s ∈ fill, s.kind.isSkippable = false) ∧
      Text.size (flat (spaced fill)) ≤ 4 * (nestingLimit + 2) := by
  obtain ⟨fill, is, last, hp, hfill⟩ := h.completes .start (Nat.zero_le _) hne hts
  generalize hus : taken ++ fill.map (Segment.token 0) = us at hp
  cases hp with
  | production _ hp => cases hp
  | program tree hw hd hp =>
    cases hp
    refine ⟨tree, fill, ?_, by omega, hfill⟩
    rw [← hw, ← hus]
    simp

end Grammar

end RegisterLang
