import RegisterLang.Host.Regex.Match
import RegisterLang.Host.Tool.Listing

namespace RegisterLang.Tool.Find

structure Amount where
  order : Ordering
  value : Nat

def Amount.fits (a : Amount) (n : Nat) : Bool := compare n a.value = a.order

inductive Stamp where
  | accessed
  | changed
  | modified
  deriving DecidableEq, Repr

/-- How the mode of a file is to compare with the one given. -/
inductive Permitted where
  | exactly
  | all
  | any
  deriving DecidableEq, Repr

inductive Outlet where
  | output
  | error
  | file (descriptor : Nat)
  deriving DecidableEq, Repr

inductive Piece where
  | text (octets : String)
  | field (flags : String) (width : Nat) (precision : Option Nat) (letter : Char)
  | time (flags : String) (width : Nat) (stamp : Stamp) (letter : Char)
  | stop

inductive Condition where
  | always
  | never
  | name (pattern : String) (fold : Bool)
  | path (pattern : String) (fold : Bool)
  | regex (matcher : Regex.Matcher)
  | linkTarget (pattern : String) (fold : Bool)
  | kind (letters : List Char) (through : Bool)
  | size (amount : Amount) (unit : Nat)
  | empty
  | permission (how : Permitted) (mode : Nat)
  | newer (stamp : Stamp) (time : Int)
  | age (stamp : Stamp) (least most : Option Int)
  | links (amount : Amount)
  | owner (amount : Amount)
  | number (amount : Amount)
  | sameFile (ref : Option Ref)
  | allowed (permission : Permission)

inductive Action where
  | print (outlet : Outlet) (stop : String)
  | describe (outlet : Outlet) (format : List Piece)
  | list (outlet : Outlet)
  | run (words : List String) (inFolder asks : Bool)
  | runMany (words : List String) (inFolder : Bool) (number : Nat)
  | delete
  | prune
  | quit

/-- What is asked of every file: conditions and actions, joined. -/
inductive Expr where
  | condition (c : Condition)
  | action (a : Action)
  | not (e : Expr)
  | both (a b : Expr)
  | either (a b : Expr)
  | comma (a b : Expr)

inductive Links where
  | none
  | given
  | all
  deriving DecidableEq, Repr

structure Setup where
  links : Links := .none
  least : Nat := 0
  most : Option Nat := none
  childrenFirst : Bool := false

/-- A file on the way through a tree. -/
structure Visit where
  path : String
  start : String
  depth : Nat
  place : Place
  node : Node
  link : Node
  other : Except SystemFault Node

def lower (text : String) : String := text.map Char.toLower

def fitsFolded (fold : Bool) (pattern text : String) : Bool :=
  if fold then fitsPattern (lower pattern) (lower text) else fitsPattern pattern text

def lastName (path : String) : String := if path.isEmpty then "" else baseName path

def letterOf (node : Node) : Char :=
  match node.content with
  | .file _ => 'f'
  | .directory => 'd'
  | .link _ => 'l'
  | .pipe _ => 'p'
  | .device _ => 'c'

def timeOf (stamp : Stamp) (node : Node) : Int :=
  match stamp with
  | .accessed => node.accessed
  | .changed | .modified => node.modified

def linkText (node : Node) : Option String :=
  match node.content with
  | .link target => some (Octet.ofText target)
  | _ => none

def Condition.holds (d : Disk) (now : Int) (v : Visit) : Condition → Bool
  | always => true
  | never => false
  | name pattern fold => fitsFolded fold pattern (lastName v.path)
  | path pattern fold => fitsFolded fold pattern v.path
  | regex m => (m.matchAt { text := Octet.toBytes v.path, whole := true } false 0).isSome
  | linkTarget pattern fold => (linkText v.node).any (fitsFolded fold pattern)
  | kind letters through =>
    let node := if !through then v.node
      else if v.node.isLink then v.other.toOption.getD v.node
      else v.link
    letters.contains (letterOf node)
  | size amount unit => amount.fits ((Listing.sizeOf v.node + unit - 1) / unit)
  | empty =>
    match v.node.content with
    | .file bytes => bytes.isEmpty
    | .directory => (d.children v.place).isEmpty
    | _ => false
  | permission how mode =>
    match how with
    | .exactly => v.node.mode % 4096 = mode
    | .all => v.node.mode &&& mode = mode
    | .any => mode = 0 || v.node.mode &&& mode ≠ 0
  | newer stamp time => time < timeOf stamp v.node
  | age stamp least most =>
    let age := now - timeOf stamp v.node
    least.all (· ≤ age) && most.all (age < ·)
  | links amount => amount.fits (d.nameCount v.place v.node)
  | owner amount => amount.fits (if v.node.owned then 1000 else 0)
  | number amount => amount.fits (Listing.numberOf (d.ref? v.place))
  | sameFile ref => ref.isSome && d.ref? v.place = ref
  | allowed access => (if v.node.isLink then v.other.toOption else some v.node).any
      (·.allows access)

end RegisterLang.Tool.Find
