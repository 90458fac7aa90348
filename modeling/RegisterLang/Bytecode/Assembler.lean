import RegisterLang.Bytecode.Op
import RegisterLang.Instruction

namespace RegisterLang

inductive Imbalance where
  | otherwiseWithoutBranch
  | branchEndWithoutStart
  | loopEndWithoutStart
  | branchLeftOpen
  | loopLeftOpen
  deriving DecidableEq, Repr

inductive AssemblyFault where
  | integerOverflow (text : String)
  | exitOutsideLoop
  | unbalanced (imbalance : Imbalance)
  deriving DecidableEq, Repr

/-- An open loop: where it starts, and the jumps out of it that wait for its end. -/
structure OpenLoop where
  start : Nat
  exits : List Nat
  deriving DecidableEq, Repr

/-- Op code under construction. A jump forward is laid down before its target is known and patched
when the block ends. Open branches and loops, innermost first, say which jumps still wait. -/
structure Assembler where
  ops : Array Op := #[]
  branches : List Nat := []
  loops : List OpenLoop := []
  fault : Option AssemblyFault := none
  deriving DecidableEq, Repr

namespace Assembler

def emit (a : Assembler) (op : Op) : Assembler := { a with ops := a.ops.push op }

def patch (a : Assembler) (index : Nat) : Assembler :=
  { a with ops := a.ops.modify index (Op.retarget a.ops.size) }

def fail (a : Assembler) (fault : AssemblyFault) : Assembler :=
  { a with fault := a.fault.or (some fault) }

def branch (a : Assembler) (condition : Condition) : Assembler :=
  { a.emit (.jumpUnless condition Op.pending) with branches := a.ops.size :: a.branches }

def otherwise (a : Assembler) : Assembler :=
  match a.branches with
  | index :: rest =>
    { (a.emit (.jump Op.pending)).patch index with branches := a.ops.size :: rest }
  | [] => a.fail (.unbalanced .otherwiseWithoutBranch)

def branchEnd (a : Assembler) : Assembler :=
  match a.branches with
  | index :: rest => { a.patch index with branches := rest }
  | [] => a.fail (.unbalanced .branchEndWithoutStart)

def loopStart (a : Assembler) : Assembler := { a with loops := ⟨a.ops.size, []⟩ :: a.loops }

def loopEnd (a : Assembler) : Assembler :=
  match a.loops with
  | ⟨start, exits⟩ :: rest =>
    { exits.foldl patch (a.emit (.jump start)) with loops := rest }
  | [] => a.fail (.unbalanced .loopEndWithoutStart)

def exitLoop (a : Assembler) : Assembler :=
  match a.loops with
  | ⟨start, exits⟩ :: rest =>
    { a.emit (.jump Op.pending) with loops := ⟨start, exits ++ [a.ops.size]⟩ :: rest }
  | [] => a.fail .exitOutsideLoop

def loadInteger (a : Assembler) (text : String) : Assembler :=
  match Decimal.readInt64? text.toList with
  | some value => a.emit (.load value)
  | none => a.fail (.integerOverflow text)

/-- Takes one instruction. The start of a program drops all that came before, faults apart. -/
def give (a : Assembler) : Instruction → Assembler
  | .programStart => { fault := a.fault }
  | .programEnd => a.emit .halt
  | .branch condition => a.branch condition
  | .otherwise => a.otherwise
  | .branchEnd => a.branchEnd
  | .loopStart => a.loopStart
  | .loopEnd => a.loopEnd
  | .exitLoop => a.exitLoop
  | .print => a.emit .print
  | .read name => a.emit (.read name)
  | .loadVariable name => a.emit (.loadVariable name)
  | .loadInteger text => a.loadInteger text
  | .store name => a.emit (.store name)
  | .push => a.emit .push
  | .apply operation => a.emit (.apply operation)
  | .negate => a.emit .negate

def finish (a : Assembler) : Except AssemblyFault Program :=
  match a.fault with
  | some fault => .error fault
  | none =>
    if !a.branches.isEmpty then .error (.unbalanced .branchLeftOpen)
    else if !a.loops.isEmpty then .error (.unbalanced .loopLeftOpen)
    else .ok ⟨a.ops⟩

def assemble (instructions : List Instruction) : Except AssemblyFault Program :=
  (instructions.foldl give {}).finish

end Assembler

end RegisterLang
