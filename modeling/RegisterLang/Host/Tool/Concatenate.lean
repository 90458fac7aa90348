import RegisterLang.Text.Blank
import RegisterLang.Host.Tool.Options

namespace RegisterLang.Tool

namespace Cat

/-- What is to be seen of a text besides the text itself. -/
structure Dressing where
  numbered : Bool := false
  numberedIfFilled : Bool := false
  squeezed : Bool := false
  endsShown : Bool := false
  tabsShown : Bool := false
  controlsShown : Bool := false

structure Progress where
  count : Nat := 0
  starting : Bool := true
  blanks : Nat := 0
  held : Bool := false
  output : ByteArray := .empty

namespace Progress

def add (p : Progress) (octets : String) : Progress :=
  { p with output := p.output ++ Octet.toBytes octets }

def addNumber (p : Progress) : Progress :=
  { p with count := p.count + 1 }.add (Text.padLeft 6 ' ' (toString (p.count + 1)) ++ "\t")

end Progress

def shown (b : Nat) : String :=
  let plain (n : Nat) : String :=
    if n < 32 then "^" ++ (Char.ofNat (n + 64)).toString
    else if n = 127 then "^?"
    else (Char.ofNat n).toString
  if b < 128 then plain b else "M-" ++ plain (b - 128)

def spelled (d : Dressing) (b : UInt8) : String :=
  if b = 9 then if d.tabsShown then "^I" else "\t"
  else if d.controlsShown then shown b.toNat
  else (Char.ofNat b.toNat).toString

def step (d : Dressing) (p : Progress) (b : UInt8) : Progress :=
  let numbered := d.numbered || d.numberedIfFilled
  if b = 10 then
    let blanks := if p.starting then p.blanks + 1 else 0
    if p.starting && 2 ≤ blanks && d.squeezed then { p with blanks := 2 }
    else
      let q := if p.starting && numbered && !d.numberedIfFilled then p.addNumber else p
      let q := if q.held then q.add "^M" else q
      { (if d.endsShown then q.add "$" else q).add "\n" with
        starting := true, blanks, held := false }
  else
    let q := if p.held then { p.add "\r" with held := false } else p
    let q := if q.starting && numbered then q.addNumber else q
    let q := { q with starting := false }
    if b = 13 && d.endsShown && !d.controlsShown then { q with held := true }
    else q.add (spelled d b)

def table : OptionTable :=
  { short := "benstuvAET"
    long := OptionTable.plain
      [("number-nonblank", "b"), ("number", "n"), ("squeeze-blank", "s"), ("show-nonprinting", "v"),
        ("show-ends", "E"), ("show-tabs", "T"), ("show-all", "A")] }

def dressing (found : OptionList) : Dressing :=
  let has (keys : List String) : Bool := keys.any found.has
  { numbered := has ["n"], numberedIfFilled := has ["b"], squeezed := has ["s"]
    endsShown := has ["E", "e", "A"], tabsShown := has ["T", "t", "A"]
    controlsShown := has ["v", "e", "t", "A"] }

def isDressed (d : Dressing) : Bool :=
  d.numbered || d.numberedIfFilled || d.squeezed || d.endsShown || d.tabsShown || d.controlsShown

/-- Whether the output would come back as input. -/
def feedsItself (descriptor : Nat) : Tool Bool :=
  Strand.ask fun id s ↦
    match s.fileAt? id descriptor, s.fileAt? id 1 with
    | some (_, input), some (_, output) =>
      match input.channel, output.channel with
      | .node a, .node b =>
        let isFile := match (s.disk.node? a).map Node.content with
          | some (.file _) => true
          | _ => false
        let goal := if output.appending then (s.bytesOf b).size else output.offset
        a = b && isFile && input.offset < goal
      | _, _ => false
    | _, _ => false

def main (args : List String) : Tool Nat := do
  let (found, operands) ← options table args
  let d := dressing found
  if (← Strand.ask fun id s ↦ s.fileAt? id 1).isNone then
    fail 1 ("standard output: " ++ SystemFault.badDescriptor.describe)
  let mut status := 0
  let mut progress : Progress := {}
  for operand in (if operands.isEmpty then ["-"] else operands) do
    match ← openInput operand with
    | .error fault =>
      complain (quotedIfNeeded operand ++ ": " ++ fault.describe)
      status := 1
    | .ok () =>
      if ← feedsItself (← get).stream.descriptor then
        complain (quotedIfNeeded operand ++ ": input file is output file")
        status := 1
      else
        let (after, result) ← iterate (fun (p : Progress) ↦ do
          match ← nextBlock with
          | .error fault => return .inr (p, some fault)
          | .ok block =>
            if block.isEmpty then return .inr (p, none)
            else
              let q := if isDressed d then block.foldl (step d) { p with output := .empty }
                else { p with output := block }
              put q.output
              flush
              return .inl q) progress
        progress := after
        if let some fault := result then
          complain (quotedIfNeeded operand ++ ": " ++ fault.describe)
          status := 1
      closeInput
  if progress.held then say "\r"
  return status

end Cat

namespace Tee

def table : OptionTable :=
  { short := "aip"
    long := OptionTable.plain [("append", "a"), ("ignore-interrupts", "i")] ++
      [{ name := "output-error", key := "p", need := .maybe }] }

def openAll (append : Bool) : List String → Tool (List (String × Nat) × Nat)
  | [] => return ([], 0)
  | operand :: rest => do
    let how : Opening :=
      { write := true, create := true, append, truncate := !append }
    match ← Strand.openAt (Octet.toText operand) how with
    | .ok number =>
      let (opened, status) ← openAll append rest
      return ((operand, number) :: opened, status)
    | .error fault =>
      complain (quotedIfNeeded operand ++ ": " ++ fault.describe)
      let (opened, _) ← openAll append rest
      return (opened, 1)

/-- Writes a block to all outputs, of which those that fail are given up. -/
def distribute (block : ByteArray) : List (String × Nat) → Tool (List (String × Nat) × Nat)
  | [] => return ([], 0)
  | (operand, number) :: rest => do
    match ← Strand.writeAt number block with
    | .ok () =>
      let (opened, status) ← distribute block rest
      return ((operand, number) :: opened, status)
    | .error fault =>
      complain (quotedIfNeeded operand ++ ": " ++ fault.describe)
      let (opened, _) ← distribute block rest
      return (opened, 1)

def main (args : List String) : Tool Nat := do
  let (found, operands) ← options table args
  let (opened, status) ← openAll (found.has "a") operands
  readFrom 0
  iterate (fun (opened, status) ↦ do
    match ← nextBlock with
    | .error fault =>
      complain ("read error: " ++ fault.describe)
      return .inr 1
    | .ok block =>
      if block.isEmpty || opened.isEmpty then return .inr status
      else
        let (opened, worse) ← distribute block opened
        return .inl (opened, max status worse)) (("standard output", 1) :: opened, status)

end Tee

namespace Yes

def main (args : List String) : Tool Nat := do
  let (_, operands) ← options { ordered := true } args
  let line := Octet.toBytes (" ".intercalate (if operands.isEmpty then ["y"] else operands) ++ "\n")
  let block := (List.range (max 1 (8192 / line.size))).foldl (fun bytes _ ↦ bytes ++ line) .empty
  repeatUntil do
    put block
    flush
    return (← get).fault.isSome
  return 1

end Yes

end RegisterLang.Tool
