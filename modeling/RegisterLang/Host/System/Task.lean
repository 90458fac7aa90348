import RegisterLang.Host.System.Basic

namespace RegisterLang

inductive Turn (τ : Type) where
  | wait (deadline : Option Nat)
  | go (system : System) (next : τ)
  | fork (system : System) (id : Nat) (child next : τ)

/-- What a process still does: one turn after another, until it has ended. -/
inductive Task where
  | ended (ending : Ending)
  | step (act : Nat → System → Turn Task)

/-- Part of a task that keeps a state of type `σ`, may give up with a reason of type `ε`, and else
has a result. It is given what comes after it. -/
def Strand (σ ε α : Type) : Type := σ → (σ → Except ε α → Task) → Task

namespace Strand

variable {σ ε α β : Type}

def bind (x : Strand σ ε α) (f : α → Strand σ ε β) : Strand σ ε β := fun s k ↦
  x s fun s r ↦
    match r with
    | .ok a => f a s k
    | .error e => k s (.error e)

instance : Monad (Strand σ ε) where
  pure a := fun s k ↦ k s (.ok a)
  bind := bind

instance : MonadExceptOf ε (Strand σ ε) where
  throw e := fun s k ↦ k s (.error e)
  tryCatch x handle := fun s k ↦
    x s fun s r ↦
      match r with
      | .ok a => k s (.ok a)
      | .error e => handle e s k

instance : MonadStateOf σ (Strand σ ε) where
  get := fun s k ↦ k s (.ok s)
  set s := fun _ k ↦ k s (.ok ())
  modifyGet f := fun s k ↦ k (f s).2 (.ok (f s).1)

def attempt (x : Strand σ ε α) : Strand σ ε (Except ε α) := fun s k ↦ x s fun s r ↦ k s (.ok r)

/-- A step that may have to wait. -/
def await (act : Nat → System → Option (System × α)) : Strand σ ε α := fun s k ↦
  .step fun id system ↦
    match act id system with
    | some (system, a) => .go system (k s (.ok a))
    | none => .wait none

def awaitUntil (act : Nat → System → Except (Option Nat) (System × α)) : Strand σ ε α := fun s k ↦
  .step fun id system ↦
    match act id system with
    | .ok (system, a) => .go system (k s (.ok a))
    | .error deadline => .wait deadline

def call (act : Nat → System → System × α) : Strand σ ε α := fun s k ↦
  .step fun id system ↦
    let (system, a) := act id system
    .go system (k s (.ok a))

def ask (look : Nat → System → α) : Strand σ ε α := call fun id system ↦ (system, look id system)

def pause : Strand σ ε Unit := call fun _ system ↦ (system, ())

def become (task : Task) : Strand σ ε α := fun _ _ ↦ task

def finish (ending : Ending) : Strand σ ε α := become (.ended ending)

end Strand

end RegisterLang
