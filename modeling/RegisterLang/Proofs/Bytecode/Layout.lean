import RegisterLang.Bytecode.Assembler
import RegisterLang.Proofs.Grammar.Tree

namespace RegisterLang

namespace Program

def Holds (p : Program) : Nat → List Op → Prop
  | _, [] => True
  | base, op :: ops => p.ops[base]? = some op ∧ p.Holds (base + 1) ops

variable {p : Program} {base : Nat} {ops more : List Op}

@[simp]
theorem holds_nil : p.Holds base [] := trivial

@[simp]
theorem holds_cons {op : Op} :
    p.Holds base (op :: ops) ↔ p.ops[base]? = some op ∧ p.Holds (base + 1) ops := Iff.rfl

@[simp]
theorem holds_append :
    p.Holds base (ops ++ more) ↔ p.Holds base ops ∧ p.Holds (base + ops.length) more := by
  induction ops generalizing base with
  | nil => simp
  | cons op ops ih =>
    simp only [List.cons_append, holds_cons, ih, List.length_cons, and_assoc]
    rw [show base + 1 + ops.length = base + (ops.length + 1) by omega]

theorem holds_suffix (before ops : List Op) :
    Holds ⟨(before ++ ops).toArray⟩ before.length ops := by
  induction ops generalizing before with
  | nil => trivial
  | cons op ops ih =>
    refine ⟨by simp, ?_⟩
    simpa using ih (before ++ [op])

theorem holds_all (ops : List Op) : Holds ⟨ops.toArray⟩ 0 ops := holds_suffix [] ops

end Program

namespace Grammar

namespace Tree

def literal (text : String) : Int64 := (Decimal.readInt64? text.toList).getD 0

def size : {p : Production} → Tree p → Nat
  | _, program body => body.size + 1
  | _, empty | _, noAlternative | _, noTerms | _, noFactors => 0
  | _, sequence first rest => first.size + rest.size
  | _, conditional _ test body other => test.size + 1 + body.size + other.size
  | _, loop body => body.size + 1
  | _, print value | _, assign _ value => value.size + 1
  | _, read into => into.size
  | _, leave | _, target _ | _, integer _ | _, identifier _ => 1
  | _, otherwise body => 1 + body.size
  | _, expression first rest => first.size + rest.size
  | _, moreTerms _ _ next rest => 1 + next.size + 1 + rest.size
  | _, term first rest => first.size + rest.size
  | _, moreFactors _ _ next rest => 1 + next.size + 1 + rest.size
  | _, unsigned factor | _, plus factor => factor.size
  | _, minus factor => factor.size + 1
  | _, group inner => inner.size

def entry : Tree .alternative → Nat
  | noAlternative => 0
  | otherwise _ => 1

/-- The op code of a tree that starts at index `base`, inside a loop that ends at index `exit`. -/
def code : {p : Production} → Tree p → (base exit : Nat) → List Op
  | _, program body, base, exit => body.code base exit ++ [.halt]
  | _, empty, _, _ | _, noAlternative, _, _ | _, noTerms, _, _ | _, noFactors, _, _ => []
  | _, sequence first rest, base, exit =>
    first.code base exit ++ rest.code (base + first.size) exit
  | _, conditional condition test body other, base, exit =>
    test.code base exit ++
      .jumpUnless condition (base + test.size + 1 + body.size + other.entry) ::
        (body.code (base + test.size + 1) exit ++
          other.code (base + test.size + 1 + body.size) exit)
  | _, loop body, base, _ => body.code base (base + body.size + 1) ++ [.jump base]
  | _, leave, _, exit => [.jump exit]
  | _, print value, base, exit => value.code base exit ++ [.print]
  | _, read into, base, exit => into.code base exit
  | _, assign name value, base, exit => value.code base exit ++ [.store name]
  | _, otherwise body, base, exit => .jump (base + 1 + body.size) :: body.code (base + 1) exit
  | _, target name, _, _ => [.read name]
  | _, expression first rest, base, exit =>
    first.code base exit ++ rest.code (base + first.size) exit
  | _, moreTerms operation _ next rest, base, exit =>
    .push :: (next.code (base + 1) exit ++
      .apply operation :: rest.code (base + 1 + next.size + 1) exit)
  | _, term first rest, base, exit =>
    first.code base exit ++ rest.code (base + first.size) exit
  | _, moreFactors operation _ next rest, base, exit =>
    .push :: (next.code (base + 1) exit ++
      .apply operation :: rest.code (base + 1 + next.size + 1) exit)
  | _, unsigned factor, base, exit | _, plus factor, base, exit => factor.code base exit
  | _, minus factor, base, exit => factor.code base exit ++ [.negate]
  | _, integer text, _, _ => [.load (literal text)]
  | _, identifier name, _, _ => [.loadVariable name]
  | _, group inner, base, exit => inner.code base exit

def exits : {p : Production} → Tree p → (base : Nat) → List Nat
  | _, leave, base => [base]
  | _, loop _, _ => []
  | _, empty, _ | _, noAlternative, _ | _, noTerms, _ | _, noFactors, _ => []
  | _, target _, _ | _, integer _, _ | _, identifier _, _ => []
  | _, program body, base => body.exits base
  | _, sequence first rest, base => first.exits base ++ rest.exits (base + first.size)
  | _, conditional _ test body other, base =>
    test.exits base ++ (body.exits (base + test.size + 1) ++
      other.exits (base + test.size + 1 + body.size))
  | _, print value, base | _, assign _ value, base => value.exits base
  | _, read into, base => into.exits base
  | _, otherwise body, base => body.exits (base + 1)
  | _, expression first rest, base => first.exits base ++ rest.exits (base + first.size)
  | _, moreTerms _ _ next rest, base =>
    next.exits (base + 1) ++ rest.exits (base + 1 + next.size + 1)
  | _, term first rest, base => first.exits base ++ rest.exits (base + first.size)
  | _, moreFactors _ _ next rest, base =>
    next.exits (base + 1) ++ rest.exits (base + 1 + next.size + 1)
  | _, unsigned factor, base | _, plus factor, base | _, minus factor, base => factor.exits base
  | _, group inner, base => inner.exits base

/-- The first reason why a tree has no op code; `inLoop` says whether there is a loop around it. -/
def fault? : {p : Production} → Tree p → (inLoop : Bool) → Option AssemblyFault
  | _, leave, inLoop => if inLoop then none else some .exitOutsideLoop
  | _, integer text, _ =>
    if (Decimal.readInt64? text.toList).isSome then none else some (.integerOverflow text)
  | _, program body, inLoop => body.fault? inLoop
  | _, sequence first rest, inLoop => (first.fault? inLoop).or (rest.fault? inLoop)
  | _, conditional _ test body other, inLoop =>
    (test.fault? inLoop).or ((body.fault? inLoop).or (other.fault? inLoop))
  | _, loop body, _ => body.fault? true
  | _, print value, inLoop | _, assign _ value, inLoop => value.fault? inLoop
  | _, otherwise body, inLoop => body.fault? inLoop
  | _, expression first rest, inLoop => (first.fault? inLoop).or (rest.fault? inLoop)
  | _, moreTerms _ _ next rest, inLoop => (next.fault? inLoop).or (rest.fault? inLoop)
  | _, term first rest, inLoop => (first.fault? inLoop).or (rest.fault? inLoop)
  | _, moreFactors _ _ next rest, inLoop => (next.fault? inLoop).or (rest.fault? inLoop)
  | _, unsigned factor, inLoop | _, plus factor, inLoop => factor.fault? inLoop
  | _, minus factor, inLoop => factor.fault? inLoop
  | _, group inner, inLoop => inner.fault? inLoop
  | _, empty, _ | _, read _, _ | _, noAlternative, _ | _, target _, _ => none
  | _, noTerms, _ | _, noFactors, _ | _, identifier _, _ => none

variable {p : Production}

@[simp]
theorem length_code (t : Tree p) (base exit : Nat) : (t.code base exit).length = t.size := by
  induction t generalizing base exit <;>
    simp only [code, size, List.length_append, List.length_cons, List.length_nil, *] <;> omega

end Tree

theorem modify_middle (before after : List Op) (op : Op) (f : Op → Op) :
    (before ++ op :: after).modify before.length f = before ++ f op :: after := by
  induction before with
  | nil => rfl
  | cons o before ih => simp [ih]

def redirect (target : Nat) (ops : List Op) (index : Nat) : List Op :=
  ops.modify index (Op.retarget target)

/-- Redirecting the jumps at some indices turns one piece of code into another, wherever the piece
stands at `base`. -/
def Redirects (target base : Nat) (indices : List Nat) (old new : List Op) : Prop :=
  ∀ before after : List Op, before.length = base →
    indices.foldl (redirect target) (before ++ (old ++ after)) = before ++ (new ++ after)

namespace Redirects

variable {target base : Nat} {is js : List Nat} {old new old' new' ops : List Op}

theorem same : Redirects target base [] ops ops := fun _ _ _ ↦ rfl

theorem append (h : Redirects target base is old new)
    (h' : Redirects target (base + new.length) js old' new') :
    Redirects target base (is ++ js) (old ++ old') (new ++ new') := by
  intro before after hb
  have h₂ := h' (before ++ new) after (by simp [hb])
  rw [List.foldl_append, List.append_assoc, h _ _ hb]
  simpa using h₂

theorem cons {op : Op} (h : Redirects target (base + 1) is old new) :
    Redirects target base is (op :: old) (op :: new) := by
  have hop : Redirects target base [] [op] [op] := same
  simpa using hop.append h

theorem snoc {op : Op} (h : Redirects target base is old new) :
    Redirects target base is (old ++ [op]) (new ++ [op]) := by
  simpa using h.append same

end Redirects

theorem redirects_exits {p : Production} (t : Tree p) (base old exit : Nat) :
    Redirects exit base (t.exits base) (t.code base old) (t.code base exit) := by
  induction t generalizing base with
  | leave =>
    rintro before after rfl
    exact modify_middle ..
  | empty | noAlternative | noTerms | noFactors => exact .same
  | target | integer | identifier | loop => exact .same
  | program _ ih | print _ ih | assign _ _ ih | minus _ ih => exact (ih base).snoc
  | read _ ih | unsigned _ ih | plus _ ih | group _ ih => exact ih base
  | otherwise _ ih => exact (ih (base + 1)).cons
  | sequence first rest ihf ihr | expression first rest ihf ihr | term first rest ihf ihr =>
    exact (ihf base).append (by simpa using ihr _)
  | moreTerms operation _ next rest ihn ihr | moreFactors operation _ next rest ihn ihr =>
    exact ((ihn (base + 1)).append (by simpa using (ihr _).cons)).cons
  | conditional condition test body other iht ihb iho =>
    exact (iht base).append (by simpa using ((ihb _).append (by simpa using iho _)).cons)

end Grammar

end RegisterLang
