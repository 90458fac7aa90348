import RegisterLang.Proofs.Bytecode.Layout
import RegisterLang.Proofs.Semantics.Meaning

namespace RegisterLang

inductive Simple where
  | load (value : Int64)
  | loadVariable (name : String)
  | store (name : String)
  | read (name : String)
  | print
  | push
  | apply (operation : Operation)
  | negate
  deriving DecidableEq, Repr

/-- A sequence of statements, each with what follows it. -/
inductive Block where
  | done
  | simple (statement : Simple) (rest : Block)
  | exit (rest : Block)
  | branch (condition : Condition) (body other rest : Block)
  | loop (body rest : Block)
  deriving DecidableEq, Repr

/-- What a target language leaves to its library. An operation without a value stops the program. -/
structure Runtime where
  apply : Operation → Int64 → Int64 → Option Int64
  negate : Int64 → Int64
  read : List UInt8 → Int64 × List UInt8
  pop : List Int64 → Option (Int64 × List Int64)

structure Process where
  register : Int64 := 0
  stack : List Int64 := []
  scene : Scene

def Simple.run (r : Runtime) (p : Process) : Simple → Option Process
  | load value => some { p with register := value }
  | loadVariable name => some { p with register := p.scene.values name }
  | store name => some { p with scene := p.scene.set name p.register }
  | read name =>
    let (value, input) := r.read p.scene.input
    some { p with scene := { p.scene with input }.set name value }
  | print => some { p with scene := p.scene.print p.register }
  | push => some { p with stack := p.register :: p.stack }
  | apply operation => do
    let (lhs, stack) ← r.pop p.stack
    let register ← r.apply operation lhs p.register
    return { p with register, stack }
  | negate => some { p with register := r.negate p.register }

def Block.run (r : Runtime) (clock : Nat) : Block → Process → Outcome Unit × Process
  | done, p => (.finished, p)
  | simple statement rest, p =>
    match statement.run r p with
    | some p => rest.run r clock p
    | none => (.failed (), p)
  | exit _, p => (.left, p)
  | branch condition body other rest, p =>
    Outcome.andThen
      (if p.register.toInt.sign = condition.sign then body.run r clock p else other.run r clock p)
      (rest.run r clock)
  | loop body rest, p =>
    Outcome.andThen (Outcome.rounds (body.run r clock) clock p) (rest.run r clock)

/-- The parts of a program text: a statement, or the start or the end of a block. -/
inductive Clause where
  | simple (statement : Simple)
  | exit
  | branch (condition : Condition)
  | loop
  | close
  | otherwise
  deriving DecidableEq, Repr

/-- Blocks read from the end of a text: the block under way, an alternative that has just been read,
and the open blocks around, each behind the end that it was read up to. -/
structure Nest where
  current : Block
  alternative : Option Block
  pending : List (Block × Option Block)

namespace Nest

def put : Clause → Nest → Option Nest
  | .close, ⟨block, alternative, pending⟩ => some ⟨.done, none, (block, alternative) :: pending⟩
  | .otherwise, ⟨block, none, (rest, none) :: pending⟩ => some ⟨rest, some block, pending⟩
  | .branch condition, ⟨block, none, (rest, other) :: pending⟩ =>
    some ⟨.branch condition block (other.getD .done) rest, none, pending⟩
  | .loop, ⟨block, none, (rest, none) :: pending⟩ => some ⟨.loop block rest, none, pending⟩
  | .simple statement, ⟨block, none, pending⟩ => some ⟨.simple statement block, none, pending⟩
  | .exit, ⟨block, none, pending⟩ => some ⟨.exit block, none, pending⟩
  | _, _ => none

def putAll (clauses : List Clause) (n : Nest) : Option Nest :=
  clauses.foldr (fun clause n ↦ n.bind (put clause)) (some n)

def block? (clauses : List Clause) : Option Block :=
  match putAll clauses ⟨.done, none, []⟩ with
  | some ⟨block, none, []⟩ => some block
  | _ => none

end Nest

namespace Instruction

def clauses : Instruction → List Clause
  | programStart | programEnd => []
  | branch condition => [.branch condition]
  | otherwise => [.close, .otherwise]
  | branchEnd | loopEnd => [.close]
  | loopStart => [.loop]
  | exitLoop => [.exit]
  | print => [.simple .print]
  | read name => [.simple (.read name)]
  | loadVariable name => [.simple (.loadVariable name)]
  | loadInteger text => [.simple (.load (Grammar.Tree.literal text))]
  | store name => [.simple (.store name)]
  | push => [.simple .push]
  | apply operation => [.simple (.apply operation)]
  | negate => [.simple .negate]

end Instruction

namespace Grammar

def Tree.block : {p : Production} → Tree p → Block → Block
  | _, program body, rest | _, otherwise body, rest => body.block rest
  | _, empty, rest | _, noAlternative, rest | _, noTerms, rest | _, noFactors, rest => rest
  | _, sequence first more, rest => first.block (more.block rest)
  | _, conditional condition test body other, rest =>
    test.block (.branch condition (body.block .done) (other.block .done) rest)
  | _, loop body, rest => .loop (body.block .done) rest
  | _, leave, rest => .exit rest
  | _, print value, rest => value.block (.simple .print rest)
  | _, read into, rest => into.block rest
  | _, assign name value, rest => value.block (.simple (.store name) rest)
  | _, target name, rest => .simple (.read name) rest
  | _, expression first more, rest => first.block (more.block rest)
  | _, moreTerms operation _ next more, rest =>
    .simple .push (next.block (.simple (.apply operation) (more.block rest)))
  | _, term first more, rest => first.block (more.block rest)
  | _, moreFactors operation _ next more, rest =>
    .simple .push (next.block (.simple (.apply operation) (more.block rest)))
  | _, unsigned factor, rest | _, plus factor, rest => factor.block rest
  | _, minus factor, rest => factor.block (.simple .negate rest)
  | _, integer text, rest => .simple (.load (literal text)) rest
  | _, identifier name, rest => .simple (.loadVariable name) rest
  | _, group inner, rest => inner.block rest

end Grammar

namespace Nest

variable {n n₁ n₂ : Nest} {xs ys : List Clause}

theorem putAll_append (xs ys : List Clause) (n : Nest) :
    putAll (xs ++ ys) n = (putAll ys n).bind (putAll xs) := by
  induction xs with
  | nil =>
    cases h : putAll ys n <;> exact h
  | cons x xs ih =>
    change (putAll (xs ++ ys) n).bind (put x) = _
    rw [ih, Option.bind_assoc]
    rfl

def Puts (clauses : List Clause) (n n' : Nest) : Prop := putAll clauses n = some n'

theorem Puts.nil : Puts [] n n := rfl

theorem Puts.one {clause : Clause} (h : put clause n = some n₁) : Puts [clause] n n₁ := h

theorem Puts.append (h : Puts ys n n₁) (h' : Puts xs n₁ n₂) : Puts (xs ++ ys) n n₂ := by
  rw [Puts, putAll_append, h]
  exact h'

theorem Puts.close (rest : Block) (other : Option Block) (pending : List (Block × Option Block)) :
    Puts [.close] ⟨rest, other, pending⟩ ⟨.done, none, (rest, other) :: pending⟩ := rfl

theorem Puts.cons (clause : Clause) (h : Puts xs n n₁) (h' : put clause n₁ = some n₂) :
    Puts (clause :: xs) n n₂ :=
  h.append (Puts.one h')

end Nest

namespace Grammar

open Nest

def Tree.clauses {q : Production} (t : Tree q) : List Clause :=
  t.instructions.flatMap Instruction.clauses

/-- The clauses of a tree put its block in front of what has been read. Those of an alternative come
with the end of the branch, and end the block of the branch. -/
def Nests : {q : Production} → Tree q → Prop
  | .alternative, t => ∀ rest pending, ∃ other : Option Block, other.getD .done = t.block .done ∧
      Puts (t.clauses ++ [.close]) ⟨rest, none, pending⟩ ⟨.done, none, (rest, other) :: pending⟩
  | _, t => ∀ rest pending, Puts t.clauses ⟨rest, none, pending⟩ ⟨t.block rest, none, pending⟩

theorem nests {q : Production} (t : Tree q) : Nests t := by
  induction t with
  | program body ih =>
    intro rest pending
    simpa [Tree.clauses, Tree.instructions, Instruction.clauses, Tree.block] using ih rest pending
  | empty | noTerms | noFactors => exact fun _ _ ↦ .nil
  | sequence first more ihf ihm | expression first more ihf ihm | term first more ihf ihm =>
    intro rest pending
    rw [Tree.clauses, Tree.instructions, List.flatMap_append]
    exact (ihm rest pending).append (ihf _ pending)
  | conditional condition test body other iht ihb iho =>
    intro rest pending
    obtain ⟨alternative, ha, ho⟩ := iho rest pending
    have hb := (ho.append (ihb .done _)).cons (.branch condition) rfl
    rw [ha] at hb
    have hall := hb.append (iht _ pending)
    simpa [Tree.clauses, Tree.instructions, Instruction.clauses, Tree.block] using hall
  | loop body ih =>
    intro rest pending
    have hb := ((Puts.close rest none pending).append (ih .done _)).cons .loop rfl
    simpa [Tree.clauses, Tree.instructions, Instruction.clauses, Tree.block] using hb
  | leave | target | integer | identifier => exact fun _ _ ↦ rfl
  | print value ih | assign _ value ih | minus value ih =>
    intro rest pending
    rw [Tree.clauses, Tree.instructions, List.flatMap_append]
    exact (Puts.one rfl).append (ih _ pending)
  | read into ih => exact ih
  | unsigned factor ih | plus factor ih | group factor ih => exact ih
  | noAlternative => exact fun rest pending ↦ ⟨none, rfl, rfl⟩
  | otherwise body ih =>
    intro rest pending
    refine ⟨some (body.block .done), rfl, ?_⟩
    have hb := (((Puts.close rest none pending).append (ih .done _)).cons .otherwise rfl).cons
      .close rfl
    simpa [Tree.clauses, Tree.instructions, Instruction.clauses, Tree.block] using hb
  | moreTerms operation _ next more ihn ihm | moreFactors operation _ next more ihn ihm =>
    intro rest pending
    have hn := (((ihm rest pending).cons (.simple (.apply operation)) rfl).append
      (ihn _ pending)).cons (.simple .push) rfl
    simpa [Tree.clauses, Tree.instructions, Instruction.clauses, Tree.block] using hn

theorem block?_clauses (t : Tree .block) : Nest.block? t.clauses = some (t.block .done) := by
  have h : putAll t.clauses ⟨.done, none, []⟩ = some ⟨t.block .done, none, []⟩ := nests t .done []
  rw [Nest.block?, h]

end Grammar

end RegisterLang
