import RegisterLang.Host.Regex.Match
import RegisterLang.Host.Tool.Basic

namespace RegisterLang.Tool.Edit

/-- A pattern; `none` stands for the last one that was used. -/
abbrev Pattern := Option (Regex.Matcher × Bool)

inductive Address where
  | line (number : Nat)
  | step (first interval : Nat)
  | last
  | pattern (p : Pattern)
  | plus (count : Nat)
  | multiple (divisor : Nat)

structure Lines where
  first : Option Address := none
  second : Option Address := none
  negated : Bool := false

inductive Case where
  | none
  | upper
  | lower
  deriving DecidableEq, Repr

inductive Piece where
  | text (octets : String)
  | group (number : Nat)
  | case (c : Case)
  | nextCase (c : Case)
  deriving DecidableEq, Repr

inductive Outlet where
  | output
  | error
  | file (number : Nat)
  deriving DecidableEq, Repr

structure Substitution where
  pattern : Pattern
  replacement : List Piece
  everywhere : Bool := false
  number : Nat := 1
  printed : Bool := false
  evaluated : Bool := false
  printedFirst : Bool := false
  outlet : Option Outlet := none

inductive Command where
  | block (finish : Nat)
  | blockEnd
  | number
  | append (text : String)
  | insert (text : String)
  | change (text : String)
  | delete
  | deleteFirst
  | run (command : Option String)
  | fileName
  | fetch
  | fetchAppend
  | keep
  | keepAppend
  | list (width : Option Nat)
  | fill
  | next
  | nextAppend
  | print
  | printFirst
  | quit (status : Nat)
  | quitSilently (status : Nat)
  | readFile (path : String)
  | readLine (number : Nat)
  | substitute (s : Substitution)
  | jump (target : Nat)
  | jumpIfReplaced (target : Nat)
  | jumpUnlessReplaced (target : Nat)
  | write (outlet : Outlet)
  | writeFirst (outlet : Outlet)
  | exchange
  | translate (pairs : List (Char × Char))
  | clear
  | label

structure Instruction where
  lines : Lines
  command : Command

structure Script where
  instructions : Array Instruction := #[]
  outputs : List String := []
  inputs : List String := []
  silent : Bool := false

end RegisterLang.Tool.Edit
