import RegisterLang.Host.Shell.Builtin.Options

namespace RegisterLang.Shell.Builtin

def exit (args : List String) : Run Nat := do
  match args with
  | [] => throw (.exit (← process).status)
  | text :: _ => throw (.exit ((← count text) % 256))

def leave (args : List String) : Run Nat := do
  match args with
  | [] => throw .leaveFunction
  | text :: _ =>
    setStatus (← count text)
    throw .leaveFunction

def levels (args : List String) : Run Nat := do
  let n ← match args with
    | [] => pure 1
    | text :: _ => do
      let n ← count text
      if n = 0 then refuse ("Illegal number: " ++ text) else pure n
  return min n (← process).loops

def leaveLoop (args : List String) : Run Nat := do
  match ← levels args with
  | 0 => return 0
  | n + 1 => setStatus 0; throw (.leaveLoop n)

def nextRound (args : List String) : Run Nat := do
  match ← levels args with
  | 0 => return 0
  | n + 1 => setStatus 0; throw (.nextRound n)

def send (signal target : Nat) : Run Bool :=
  Strand.call fun _ s ↦
    if (s.resident? target).isSome then
      (if signal = 0 then s else s.send target signal, true)
    else (s, false)

def jobOf (text : String) : Run Nat := do
  match text.toList with
  | '%' :: rest =>
    let p ← process
    let jobs := p.jobs.reverse
    let place := match (String.ofList rest).toNat? with
      | some n => n
      | none => if rest = ['-'] then jobs.length - 1 else jobs.length
    match jobs[place - 1]? with
    | some job => return job.id
    | none => refuse ("No such job: " ++ text)
  | _ => count text

def killUsage {α : Type} : Run α :=
  refuse ("Usage: kill [-s sigspec | -signum | -sigspec] [pid | job]... or\n" ++
    "kill -l [exitstatus]")

def namedSignal? (text : String) : Option Nat :=
  if (text.map Char.toUpper).startsWith "SIG" then none else Signal.find? text

def kill (args : List String) : Run Nat := do
  let (list, signal, targets) ← match args with
    | [] => killUsage
    | arg :: rest =>
      match arg.toList with
      | '-' :: name =>
        match if name.isEmpty then none else namedSignal? (String.ofList name) with
        | some signal => pure (false, some signal, rest)
        | none => do
          let (found, operands) ← options "ls:" args
          let mut signal := none
          for (c, value) in found do
            if c = 's' then
              match namedSignal? value with
              | some n => signal := some n
              | none => refuse ("invalid signal number or name: " ++ value)
          pure (found.any (·.1 = 'l'), signal, operands)
      | _ => pure (false, none, args)
  if list then
    match targets with
    | [] =>
      say ("0\n" ++ String.join ((Signal.names.drop 1).map (· ++ "\n")))
      return 0
    | text :: _ =>
      let n ← count text
      let n := if 128 < n then n - 128 else n
      match if n = 0 then none else Signal.names[n]? with
      | some name => say (name ++ "\n"); return 0
      | none => refuse ("invalid signal number or exit status: " ++ text)
  else if targets.isEmpty then killUsage
  else
    let mut status := 0
    for target in targets do
      let (group, text) := match target.toList with
        | '-' :: digits => (true, String.ofList digits)
        | _ => (false, target)
      let id ← jobOf text
      if group || !(← send (signal.getD 15) id) then
        complainHere "No such process\n"
        status := 1
    return status

def announceTraps : Run Unit := do
  let p ← process
  let traps := p.traps.filter fun (n, _) ↦ n ≠ 0 && !p.deaf.contains n
  let ignored := p.deaf ++ (traps.filter (·.2.isEmpty)).map (·.1)
  let caught := (traps.filter (!·.2.isEmpty)).map (·.1)
  Strand.call fun id s ↦ (s.modifyResident id ({ · with ignored, caught }), ())

def trap (args : List String) : Run Nat := do
  let (_, operands) ← options "" args
  match operands with
  | [] =>
    let traps := (← process).traps
    for (name, n) in Signal.names.zipIdx do
      if let some action := traps.lookup n then
        say ("trap -- " ++ quote action ++ " " ++ name ++ "\n")
    return 0
  | action :: rest =>
    let isNumber := !action.isEmpty && action.toList.all Char.isDigit
    let undo := rest.isEmpty || action = "-" || (isNumber && (namedSignal? action).isSome)
    let signals := if rest.isEmpty || (undo && action ≠ "-") then operands else rest
    for text in signals do
      match namedSignal? text with
      | none =>
        announceTraps
        complain ("trap: " ++ text ++ ": bad trap")
        return 1
      | some n =>
        modifyProcess fun p ↦
          let others := p.traps.filter (·.1 ≠ n)
          { p with traps := if undo then others else (n, action) :: others }
    announceTraps
    return 0

def statusOf : Ending → Nat
  | .exited code => code
  | .signaled signal => 128 + signal

def waitMembers (last : Nat) : List Nat → Nat → Run (Option Nat)
  | [], status => return some status
  | id :: rest, status => do
    match ← Strand.waitChild (· = id) true with
    | some (_, ending) => waitMembers last rest (if id = last then statusOf ending else status)
    | none =>
      if ← Strand.ask fun self s ↦ s.hasChild self (· = id) then return none
      else waitMembers last rest status

def waitJob (id : Nat) : Run (Option Nat) := do
  match (← process).jobs.find? fun job ↦ job.members.contains id with
  | none => return some 127
  | some ⟨_, _, some status⟩ => return some status
  | some job =>
    match ← waitMembers job.id job.members 0 with
    | some status =>
      modifyProcess fun p ↦ { p with
        jobs := p.jobs.map fun other ↦
          if other.id = job.id then { other with status := some status } else other }
      return some status
    | none => return none

def interruption : Run Nat := do
  let signal ← Strand.ask fun id s ↦
    ((s.resident? id).bind fun r ↦ r.pending.find? r.caught.contains).getD 0
  return 128 + signal

/-- Waits for jobs, or for all that are left. -/
def wait (args : List String) : Run Nat := do
  if args.isEmpty then
    for job in (← process).jobs.reverse do
      if (← waitJob job.id).isNone then return ← interruption
    return 0
  else
    let mut status := 0
    for text in args do
      match ← waitJob (← jobOf text) with
      | some code => status := code
      | none => return ← interruption
    return status

end RegisterLang.Shell.Builtin
