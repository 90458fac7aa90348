import RegisterLang.Host.System.Call

namespace RegisterLang

structure Activity where
  id : Nat
  task : Task
  waitingSince : Option Nat := none
  deadline : Option Nat := none

namespace Schedule

def readyAt? (s : System) (t : Activity) : Option Nat :=
  match s.resident? t.id with
  | none => none
  | some r =>
    if r.stopped then none
    else if t.waitingSince = some s.changes then t.deadline.map (max r.clock)
    else some r.clock

def pick (s : System) (tasks : List Activity) : Option (Activity × Nat) :=
  tasks.foldl (fun best t ↦
    match readyAt? s t, best with
    | none, _ => best
    | some time, none => some (t, time)
    | some time, some (_, earliest) => if time < earliest then some (t, time) else best) none

def replace (tasks : List Activity) (t : Activity) : List Activity :=
  tasks.map fun u ↦ if u.id = t.id then t else u

def conclude (s : System) (tasks : List Activity) (id : Nat) (ending : Ending) :
    System × List Activity :=
  (s.close id ending, tasks.filter (·.id ≠ id))

def advance (s : System) (tasks : List Activity) (t : Activity) (time : Nat) :
    System × List Activity :=
  -- One that has waited goes on when what it waited for has come about.
  let now := if t.waitingSince.isSome then max time s.now else time
  let s := { s with now }
  match (s.resident? t.id).bind System.fatal? with
  | some signal => conclude s tasks t.id (.signaled signal)
  | none =>
    match t.task with
    | .ended ending => conclude s tasks t.id ending
    | .step act =>
      let tick (s : System) (cost : Nat) : System :=
        s.modifyResident t.id fun r ↦ { r with clock := max r.clock now + cost }
      match act t.id s with
      | .wait deadline =>
        (s, replace tasks { t with waitingSince := some s.changes, deadline })
      | .go s next =>
        (tick s System.stepTime, replace tasks { id := t.id, task := next })
      | .fork s id child next =>
        (tick s (System.forkTime / 3),
          replace tasks { id := t.id, task := next } ++ [{ id, task := child }])

/-- Runs tasks until they all have ended or are waiting for good, or until there is no need to go
on. -/
def run (done : System → Bool) : Nat → System → List Activity → System
  | 0, s, _ => s
  | n + 1, s, tasks =>
    if done s then s
    else
      match pick s tasks with
      | none => s
      | some (t, time) =>
        let (s, tasks) := advance s tasks t time
        run done n s tasks

def stepLimit : Nat := 1000000000

end Schedule

end RegisterLang
