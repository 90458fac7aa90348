import RegisterLang.Host.Shell.Word

namespace RegisterLang.Shell.Token

open Source

def redirection (descriptor : Option Nat) (c : Char) : Parse Token := do
  skip
  if c = '>' then
    if ← accept '>' then return .redirect descriptor .append
    else if ← accept '|' then return .redirect descriptor .clobber
    else if ← accept '&' then return .redirect (some (descriptor.getD 1)) .share
    else return .redirect descriptor .write
  else if ← accept '<' then return .document descriptor (← accept '-')
  else if ← accept '&' then return .redirect (some (descriptor.getD 0)) .share
  else if ← accept '>' then return .redirect descriptor .readWrite
  else return .redirect descriptor .read

def doubled (c : Char) : Parse Token := do
  skip
  if ← accept c then return .operator (String.ofList [c, c]) else return .operator c.toString

/-- Reads a token. A single digit right in front of an angle bracket is a descriptor. -/
def read (script : Bool → Parse (Option Command)) (verbatim : Bool := false) : Parse Token := do
  modify fun s ↦
    let (rest, line) := skipBlanks s.rest s.line
    { s with rest, line }
  match ← peek with
  | none => return .finish
  | some '\n' => skip; return .newline
  | some '&' => doubled '&'
  | some '|' => doubled '|'
  | some ';' => doubled ';'
  | some '(' => skip; return .operator "("
  | some ')' => skip; return .operator ")"
  | some '<' => redirection none '<'
  | some '>' => redirection none '>'
  | some _ =>
    let word ← Word.read script { verbatim }
    match word.plain?.map String.toList, ← peek with
    | some [d], some c =>
      if d.isDigit && (c = '<' || c = '>') then redirection (some (d.toNat - '0'.toNat)) c
      else return .word word
    | _, _ => return .word word

def isJoined (line : List Char) : Bool := (line.reverse.takeWhile (· = '\\')).length % 2 = 1

/-- The lines of a here-document, what comes after it, and how many lines were taken. A line that
the one before runs into is not looked at for the delimiter. -/
def documentLines (a : Announced) : Nat → Bool → List Char → List Char × List Char × Nat
  | 0, _, cs => ([], cs, 0)
  | n + 1, joined, cs =>
    if cs.isEmpty then ([], [], 0)
    else
      let line := cs.takeWhile (· ≠ '\n')
      let after := cs.dropWhile (· ≠ '\n')
      let line := if a.indented && !joined then line.dropWhile (· = '\t') else line
      if !joined && line = a.delimiter.toList then ([], after.tail, 1)
      else
        let (body, rest, count) := documentLines a n (!a.verbatim && isJoined line) after.tail
        (line ++ (if after.isEmpty then [] else '\n' :: body), rest, count + 1)

def readDocument (script : Bool → Parse (Option Command)) (a : Announced) : Parse Unit := do
  let s ← get
  let (body, rest, count) := documentLines a (s.rest.length + 1) false s.rest
  let word ← if a.verbatim then pure [Part.text (String.ofList body) true]
    else do
      set { s with rest := body, announced := [], pushed := none }
      Word.read script { quoted := true, document := true }
  modify fun inner ↦ { s with
    rest, line := s.line + count
    documents := (a.id, word) :: inner.documents, nextDocument := inner.nextDocument }

def readDocuments (script : Bool → Parse (Option Command)) : Parse Unit := do
  let announced := (← get).announced
  modify fun s ↦ { s with announced := [] }
  for a in announced do readDocument script a

def pull (script : Bool → Parse (Option Command)) : Parse Token := do
  match (← get).pushed with
  | some token =>
    modify fun s ↦ { s with pushed := none }
    return token
  | none => read script

def skipNewlines (script : Bool → Parse (Option Command)) : Nat → Token → Parse Token
  | n + 1, .newline => do
    readDocuments script
    skipNewlines script n (← read script)
  | _, token => return token

def alias? (token : Token) : Parse Bool := do
  let s ← get
  let size := s.rest.length
  let open_ := s.expanding.filter fun (_, after) ↦ after < size
  match token with
  | .word w =>
    match w.plain?.bind fun name ↦ (s.aliases.lookup name).map (name, ·) with
    | some (name, text) =>
      if open_.any (·.1 = name) then return false
      else
        set { s with
          rest := text.toList ++ s.rest, expanding := (name, size) :: open_ }
        return true
    | none => return false
  | _ => return false

def next (script : Bool → Parse (Option Command)) (newlines asKeyword : Bool) : Parse Token := do
  let token ← pull script
  let token ← if newlines then skipNewlines script ((← size) + 1) token else pure token
  return if asKeyword then token.withKeyword else token

/-- The next token where a command may start: keywords are keywords there, and aliases stand for
their texts. -/
def first (script : Bool → Parse (Option Command)) (newlines : Bool) : Nat → Parse Token
  | 0 => next script newlines true
  | n + 1 => do
    let token ← next script newlines true
    if ← alias? token then first script newlines n else return token

def plainFirst (script : Bool → Parse (Option Command)) : Nat → Parse Token
  | 0 => pull script
  | n + 1 => do
    let token ← pull script
    if ← alias? token then plainFirst script n else return token

def endsInBlank (text : String) : Bool := text.toList.getLast?.any fun c ↦ c = ' ' || c = '\t'

/-- The next token of a simple command after a word. It may stand for an alias if it comes right
after the text of an alias that ends in a blank. -/
def following (script : Bool → Parse (Option Command)) : Parse Token := do
  let before := (← get).rest.length
  let token ← pull script
  let s ← get
  let crossed := s.expanding.any fun (name, after) ↦
    after < before && s.rest.length < after && (s.aliases.lookup name).any endsInBlank
  if crossed then
    if ← alias? token then plainFirst script (s.rest.length + 1) else return token
  else return token

end RegisterLang.Shell.Token
