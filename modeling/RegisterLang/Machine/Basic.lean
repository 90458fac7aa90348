import RegisterLang.Machine.Storage
import RegisterLang.Machine.Word
import RegisterLang.Text.Blank
import RegisterLang.Text.Line

namespace RegisterLang

/-- Where output goes. A fault that is set for writing strikes once as many characters were taken as
there is room for, and what was taken before stays written. A run flushes once, at its end. -/
structure Sink where
  text : String := ""
  room : Nat := 0
  writeFault : Option SystemFault := none
  flushFault : Option SystemFault := none
  deriving DecidableEq, Repr

namespace Sink

def write (s : Sink) (text : String) : Except SystemFault Unit × Sink :=
  match s.writeFault with
  | none => (.ok (), { s with text := s.text ++ text })
  | some fault =>
    if text.length ≤ s.room then
      (.ok (), { s with text := s.text ++ text, room := s.room - text.length })
    else
      (.error fault,
        { s with text := s.text ++ String.ofList (text.toList.take s.room), room := 0 })

def flush (s : Sink) : Except SystemFault Unit :=
  match s.flushFault with
  | some fault => .error fault
  | none => .ok ()

end Sink

/-- The state of a machine. `position` is the index of the next op. -/
structure Machine where
  position : Nat := 0
  register : Int64 := 0
  stack : List Int64 := []
  storage : Storage := {}
  input : List UInt8 := []
  output : Sink := {}
  deriving DecidableEq, Repr

namespace Machine

inductive Flow where
  | running
  | halted
  deriving DecidableEq, Repr

inductive Fault where
  | runtime (fault : RuntimeFault)
  | system (fault : SystemFault)
  deriving DecidableEq, Repr

/-- Back to the start of the program; input and output stay as they are. -/
def reset (m : Machine) : Machine := { input := m.input, output := m.output }

/-- The integer that a line of input spells. What is not a number reads as zero. -/
def integerOf (line : List Char) : Int64 := (Decimal.readInt64? (Text.trim line)).getD 0

def readInteger (m : Machine) : Except SystemFault Int64 × Machine :=
  match readLine m.input with
  | (some line, input) => (.ok (integerOf line), { m with input })
  | (none, input) => (.error .invalidText, { m with input })

/-- Runs one op. A failed one leaves the machine where it had brought it. -/
def runOp (m : Machine) : Op → Except Fault Flow × Machine
  | .load value => (.ok .running, { m with register := value })
  | .loadVariable name => (.ok .running, { m with register := m.storage.get name })
  | .store name => (.ok .running, { m with storage := m.storage.set name m.register })
  | .read name =>
    match m.readInteger with
    | (.ok value, m) => (.ok .running, { m with storage := m.storage.set name value })
    | (.error fault, m) => (.error (.system fault), m)
  | .print =>
    match m.output.write (Decimal.writeInt64 m.register ++ "\n") with
    | (.ok (), output) => (.ok .running, { m with output })
    | (.error fault, output) => (.error (.system fault), { m with output })
  | .push => (.ok .running, { m with stack := m.register :: m.stack })
  | .apply operation =>
    match m.stack with
    | [] => (.error (.runtime .stackUnderflow), m)
    | lhs :: stack =>
      match operation.apply lhs m.register with
      | .ok register => (.ok .running, { m with register, stack })
      | .error fault => (.error (.runtime fault), { m with stack })
  | .negate => (.ok .running, { m with register := -m.register })
  | .jumpUnless condition target =>
    if condition.holds m.register then (.ok .running, m)
    else (.ok .running, { m with position := target })
  | .jump target => (.ok .running, { m with position := target })
  | .halt => (.ok .halted, m)

/-- Runs the op at the position. Behind the last op the machine has halted. -/
def step (p : Program) (m : Machine) : Except Fault Flow × Machine :=
  match p.ops[m.position]? with
  | none => (.ok .halted, m)
  | some op => runOp { m with position := m.position + 1 } op

def settle {α : Type} (value : α) (m : Machine) : Except Fault α × Machine :=
  match m.output.flush with
  | .ok () => (.ok value, m)
  | .error fault => (.error (.system fault), m)

def continueFor (p : Program) : Nat → Machine → Except Fault Flow × Machine
  | 0, m => settle .running m
  | n + 1, m =>
    match step p m with
    | (.error fault, m) => (.error fault, m)
    | (.ok .halted, m) => settle .halted m
    | (.ok .running, m) => continueFor p n m

def runFor (p : Program) (steps : Nat) (m : Machine) : Except Fault Flow × Machine :=
  continueFor p steps m.reset

/-- Steps on until the program halts or fails, or until a limit is reached; `done` counts the steps.
There is no result while the fuel, one unit a step, runs out first. -/
def continueTo (p : Program) (limit : Option Nat) (fuel done : Nat) (m : Machine) :
    Option (Except Fault Unit × Machine) :=
  if limit.any (· ≤ done) then some (.error (.runtime (.stepLimit (limit.getD 0))), m)
  else
    match fuel with
    | 0 => none
    | fuel + 1 =>
      match step p m with
      | (.error fault, m) => some (.error fault, m)
      | (.ok .halted, m) => some (settle () m)
      | (.ok .running, m) => continueTo p limit fuel (done + 1) m

/-- Runs the program from its start until it halts or fails, within a limit if there is one. A limit
is fuel enough for itself; without one, a program that never ends has no result for any fuel. -/
def execute (p : Program) (limit : Option Nat) (fuel : Nat) (m : Machine) :
    Option (Except Fault Unit × Machine) :=
  continueTo p limit (limit.getD fuel) 0 m.reset

end Machine

def Failure.ofMachine : Machine.Fault → Failure
  | .runtime fault => .runtime fault
  | .system fault => .system fault

end RegisterLang
