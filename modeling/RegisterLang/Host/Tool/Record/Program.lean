import RegisterLang.Host.Regex.Match
import RegisterLang.Host.Text.Real

namespace RegisterLang.Tool.Record

/-- A name that is known everywhere, or in one function only. -/
inductive Name where
  | everywhere (name : String)
  | parameter (place : Nat)
  deriving DecidableEq, Repr

inductive Arithmetic where
  | add
  | subtract
  | multiply
  | divide
  | remainder
  | power
  deriving DecidableEq, Repr

inductive Comparison where
  | less
  | lessOrEqual
  | equal
  | notEqual
  | greater
  | greaterOrEqual
  deriving DecidableEq, Repr

structure Pattern where
  text : String
  matcher : Regex.Matcher

mutual

inductive Expr where
  | number (x : Float)
  | text (octets : String)
  | pattern (p : Pattern)
  | named (name : Name)
  | element (table : Name) (subscripts : List Expr)
  | field (index : Expr)
  | group (e : Expr)
  | assign (target : Expr) (operation : Option Arithmetic) (value : Expr)
  | step (target : Expr) (up before : Bool)
  | negative (e : Expr)
  | positive (e : Expr)
  | negation (e : Expr)
  | arithmetic (operation : Arithmetic) (first second : Expr)
  | compare (how : Comparison) (first second : Expr)
  | concatenate (first second : Expr)
  | both (first second : Expr)
  | either (first second : Expr)
  | branch (condition first second : Expr)
  | fits (e pattern : Expr) (negated : Bool)
  | within (subscripts : List Expr) (table : Name)
  | call (function : String) (arguments : List Expr)
  | builtin (function : String) (arguments : List Expr)
  | read (source : Source) (target : Option Expr)

inductive Source where
  | input
  | file (path : Expr)
  | command (text : Expr)

end

instance : Inhabited Expr := ⟨.text ""⟩

inductive Outlet where
  | output
  | file (path : Expr) (append : Bool)
  | command (text : Expr)

inductive Statement where
  | evaluate (e : Expr)
  | print (items : List Expr) (outlet : Outlet)
  | format (items : List Expr) (outlet : Outlet)
  | block (body : List Statement)
  | branch (condition : Expr) (first : Statement) (second : Option Statement)
  | loop (condition : Expr) (body : Statement)
  | loopUntil (body : Statement) (condition : Expr)
  | count (start : Option Statement) (condition : Option Expr) (next : Option Statement)
    (body : Statement)
  | forEach (key : Expr) (table : Name) (body : Statement)
  | delete (table : Name) (subscripts : List Expr)
  | clear (table : Name)
  | nextRecord
  | nextFile
  | exit (status : Option Expr)
  | giveBack (result : Option Expr)
  | leave
  | again

instance : Inhabited Statement := ⟨.block []⟩

inductive Condition where
  | always
  | holds (e : Expr)
  | range (number : Nat) (first last : Expr)

structure Rule where
  condition : Condition
  action : Statement

structure Function where
  parameters : List String
  body : Statement

structure Program where
  start : List Statement := []
  rules : List Rule := []
  finish : List Statement := []
  functions : List (String × Function) := []
  ranges : Nat := 0

end RegisterLang.Tool.Record
