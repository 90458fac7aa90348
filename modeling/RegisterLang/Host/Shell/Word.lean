import RegisterLang.Host.Shell.Source

namespace RegisterLang.Shell.Word

open Source

structure Setting where
  quoted : Bool := false
  braced : Bool := false
  document : Bool := false
  arithmetic : Bool := false
  verbatim : Bool := false

def addChar (quoted : Bool) (c : Char) : List Part → List Part
  | .text content q :: parts =>
    if q = quoted then .text (content.push c) q :: parts
    else .text c.toString quoted :: .text content q :: parts
  | parts => .text c.toString quoted :: parts

def isMeta (c : Char) : Bool := " \t\n;&|<>()".toList.contains c

def isSpecialParameter (c : Char) : Bool := "!#$-?*@".toList.contains c

def singleQuoted : Nat → Parse String
  | 0 => refuse "Unterminated quoted string"
  | n + 1 => do
    match ← peekRaw with
    | none => refuse "Unterminated quoted string"
    | some c =>
      skip
      if c = '\x27' then return ""
      else return c.toString ++ (← singleQuoted n)

/-- What follows an opening backquote, up to the closing one. A backslash in front of a dollar sign,
a backquote or a backslash is taken off, and between double quotes also one in front of a double
quote. -/
def backquoted (quoted : Bool) : Nat → Parse (List Char)
  | 0 => refuse "EOF in backquote substitution"
  | n + 1 => do
    match ← peek with
    | none => refuse "EOF in backquote substitution"
    | some '\x60' => skip; return []
    | some '\\' =>
      skip
      match ← peekRaw with
      | none => refuse "EOF in backquote substitution"
      | some c =>
        skip
        let rest ← backquoted quoted n
        if "\\\x60$".toList.contains c || (quoted && c = '"') then return c :: rest
        else return '\\' :: c :: rest
    | some c => skip; return c :: (← backquoted quoted n)

def operand (inside : Setting → Parse Word) (s : Setting) (name : String) : Parse Part := do
  let word : Parse Word :=
    inside { quoted := s.quoted || s.arithmetic, braced := true, document := s.document }
  let part (form : Form) : Part := .parameter name form s.quoted
  let test? (nonempty : Bool) (c : Char) : Option (Word → Form) :=
    match c with
    | '-' => some (.orElse nonempty)
    | '=' => some (.orAssign nonempty)
    | '?' => some (.orRefuse nonempty)
    | '+' => some (.ifSet nonempty)
    | _ => none
  match ← peek with
  | some '}' => skip; return part .value
  | some ':' =>
    skip
    match ← peek with
    | some c =>
      drop
      let w ← word
      return part (if c = '}' then .value else
        match test? true c with
        | some form => form w
        | none => .senseless)
    | none => let _ ← word; return part .senseless
  | some c =>
    drop
    if c = '%' || c = '#' then
      let longest ← accept c
      return part (.trim (c = '%') longest (← inside { braced := true }))
    else
      let w ← word
      return part (match test? false c with
        | some form => form w
        | none => .senseless)
  | none => let _ ← word; return part .senseless

def lengthOf (inside : Setting → Parse Word) (s : Setting) (name : String) : Parse Part := do
  if ← accept '}' then return .parameter name .length s.quoted
  else
    let _ ← inside { quoted := s.quoted, braced := true, document := s.document }
    return .parameter name .senseless s.quoted

def braces (inside : Setting → Parse Word) (s : Setting) : Parse Part := do
  let senseless : Parse Part := do
    let _ ← inside { quoted := s.quoted, braced := true, document := s.document }
    return .parameter "" .senseless s.quoted
  match ← peek with
  | none => senseless
  | some c =>
    if isNameStart c then operand inside s (← takeWhile isNameChar (← size))
    else if c.isDigit then operand inside s (← takeWhile Char.isDigit (← size))
    else if c = '}' then senseless
    else if c = '#' then
      skip
      match ← peek with
      | none => senseless
      | some d =>
        if isNameStart d then lengthOf inside s (← takeWhile isNameChar (← size))
        else if d.isDigit then lengthOf inside s (← takeWhile Char.isDigit (← size))
        else
          -- The sign is a parameter itself unless another one and the brace follow.
          match (← get).rest with
          | d :: '}' :: _ =>
            if d = '}' then operand inside s "#"
            else
              skip
              if isSpecialParameter d then lengthOf inside s d.toString else senseless
          | _ => operand inside s "#"
    else
      drop
      if isSpecialParameter c then operand inside s c.toString else senseless

def dollar (script : Bool → Parse (Option Command)) (inside : Setting → Parse Word) (s : Setting) :
    Parse Part := do
  match ← peek with
  | some '(' =>
    skip
    if ← accept '(' then
      return .arithmetic (← inside { quoted := true, arithmetic := true }) s.quoted
    else return .output (← script true) s.quoted
  | some '{' => skip; braces inside s
  | some c =>
    if isNameStart c then
      return .parameter (← takeWhile isNameChar (← size)) .value s.quoted
    else if c.isDigit || isSpecialParameter c then
      skip
      return .parameter c.toString .value s.quoted
    else return .text "$" s.quoted
  | none => return .text "$" s.quoted

def backquote (script : Bool → Parse (Option Command)) (s : Setting) : Parse Part := do
  let text ← backquoted s.quoted (← size)
  let outer ← get
  set { outer with rest := text, line := 1, pushed := none, announced := [] }
  let command ← script false
  modify fun inner ↦ { outer with
    documents := inner.documents, nextDocument := inner.nextDocument }
  return .output command s.quoted

def escaped (s : Setting) (parts : List Part) : Parse (List Part) := do
  match ← peekRaw with
  | none => return addChar true '\\' parts
  | some c =>
    skip
    let active := "\\\x60$".toList.contains c || (c = '"' && (!s.document || s.braced)) ||
      (c = '}' && s.braced)
    return addChar true c (if s.quoted && !active then addChar true '\\' parts else parts)

def addQuoted (word : Word) (parts : List Part) : List Part :=
  if word.isEmpty then .text "" true :: parts else word.reverse ++ parts

/-- Reads parts up to where the setting ends, and goes past the quote or brace that ends it. The
parts so far come last first; `depth` counts open parentheses of arithmetic, and `inner` tells
whether quotes are open inside braces that are quoted themselves. -/
def parts (script : Bool → Parse (Option Command)) :
    Nat → Setting → Nat → Bool → List Part → Parse Word
  | 0, _, _, _, _ => refuse "Unterminated quoted string"
  | n + 1, s, depth, inner, sofar => do
    let inside (s : Setting) : Parse Word := parts script n s 0 false []
    let add (c : Char) : Parse Word := do
      skip
      parts script n s depth inner (addChar s.quoted c sofar)
    match ← peek with
    | none =>
      if s.arithmetic then refuse "Missing '))'"
      else if s.quoted && !s.document then refuse "Unterminated quoted string"
      else if s.braced then refuse "Missing '\x7d'"
      else return sofar.reverse
    | some '\\' =>
      skip
      parts script n s depth inner (← escaped s sofar)
    | some '\x27' =>
      if s.quoted then add '\x27'
      else
        skip
        let text ← singleQuoted (← size)
        parts script n s depth inner (.text text true :: sofar)
    | some '"' =>
      if s.arithmetic then
        skip
        parts script n s depth inner sofar
      else if !s.quoted then
        skip
        let word ← inside { quoted := true, verbatim := s.verbatim }
        parts script n s depth inner (addQuoted word sofar)
      else if s.braced then
        skip
        parts script n s depth (!inner) (addQuoted [] sofar)
      else if s.document then add '"'
      else
        skip
        return sofar.reverse
    | some '}' =>
      if s.braced && !inner then
        skip
        return sofar.reverse
      else add '}'
    | some '$' =>
      if s.verbatim then add '$'
      else
        skip
        let part ← dollar script inside s
        let sofar := match part with
          | .text content quoted => content.toList.foldl (fun acc c ↦ addChar quoted c acc) sofar
          | part => part :: sofar
        parts script n s depth inner sofar
    | some '\x60' =>
      if s.verbatim then add '\x60'
      else
        skip
        parts script n s depth inner ((← backquote script s) :: sofar)
    | some c =>
      if s.arithmetic && c = '(' then
        skip
        parts script n s (depth + 1) inner (addChar true c sofar)
      else if s.arithmetic && c = ')' then
        skip
        if 0 < depth then parts script n s (depth - 1) inner (addChar true c sofar)
        else if ← accept ')' then return sofar.reverse
        else parts script n s 0 inner (addChar true c sofar)
      else if !s.quoted && !s.braced && isMeta c then return sofar.reverse
      else add c

def read (script : Bool → Parse (Option Command)) (s : Setting := {}) : Parse Word := do
  parts script ((← size) + 1) s 0 false []

end RegisterLang.Shell.Word
