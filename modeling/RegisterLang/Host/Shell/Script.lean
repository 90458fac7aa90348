import RegisterLang.Host.Shell.Token

namespace RegisterLang.Shell.Script

open Source

def append (sofar : Option Command) (command : Command) : Option Command :=
  match sofar with
  | none => some command
  | some first => some (.sequence first command)

def expect (token expected : Token) : Parse Unit :=
  let same : Bool := match token, expected with
    | .keyword a, .keyword b => a = b
    | .operator a, .operator b => a = b
    | _, _ => false
  if same then return else unexpected token (some expected)

section

variable (nested : Parse Command) (script : Bool → Parse (Option Command))

def redirect (token : Token) : Parse (Option Redirect) := do
  match token with
  | .redirect descriptor opening =>
    match ← Token.next script false false with
    | .word target =>
      let usual := match opening with
        | .read | .readWrite => 0
        | _ => 1
      return some (.mk (descriptor.getD usual) opening target)
    | other => unexpected other
  | .document descriptor indented =>
    match ← Token.read script true with
    | .word delimiter =>
      let id := (← get).nextDocument
      modify fun s ↦ { s with
        nextDocument := id + 1
        announced := s.announced ++
          [⟨id, delimiter.literal, indented, delimiter.any Part.isQuoted⟩] }
      return some (.mk (descriptor.getD 0) (.document id) [])
    | other => unexpected other
  | _ => return none

def redirects : Nat → Parse (List Redirect)
  | 0 => return []
  | n + 1 => do
    let token ← Token.next script false true
    match ← redirect script token with
    | some r => return r :: (← redirects n)
    | none => push token; return []

structure Simple where
  assignments : List (String × Word) := []
  words : List Word := []
  redirects : List Redirect := []

/-- The words, assignments and redirections of a simple command. One word with parentheses after it
starts a function instead. -/
def simple (line : Nat) : Nat → Simple → Parse Command
  | 0, s => return .simple line s.assignments s.words s.redirects
  | n + 1, s => do
    let token ← if s.words.isEmpty then Token.plainFirst script (← size)
      else Token.following script
    match token with
    | .word word =>
      match s.words, word.assignment? with
      | [], some assignment => simple line n { s with assignments := s.assignments ++ [assignment] }
      | _, _ => simple line n { s with words := s.words ++ [word] }
    | .redirect .. | .document .. =>
      match ← redirect script token with
      | some r => simple line n { s with redirects := s.redirects ++ [r] }
      | none => simple line n s
    | .operator "(" =>
      match s with
      | { assignments := [], words := [name], redirects := [] } =>
        expect (← Token.next script false false) (.operator ")")
        let text := name.plain?.getD ""
        if !Word.isName text || isSpecialBuiltin text then refuse "Bad function name"
        else
          push (← Token.first script true (← size))
          return .define text (← nested)
      | _ =>
        push token
        return .simple line s.assignments s.words s.redirects
    | other =>
      push other
      return .simple line s.assignments s.words s.redirects

def stages : Nat → List Command → Parse Command
  | 0, _ => refuse "word unexpected"
  | n + 1, sofar => do
    let token ← Token.next script false false
    if token.isOperator "|" then
      push (← Token.first script true (← size))
      stages n (sofar ++ [← nested])
    else
      push token
      match sofar with
      | [only] => return only
      | _ => return .pipeline sofar

def pipeline : Parse Command := do
  let token ← Token.first script false (← size)
  if token.isKeyword "!" then
    push (← Token.first script false (← size))
    let first ← nested
    return .negated (← stages nested script ((← size) + 1) [first])
  else
    push token
    let first ← nested
    stages nested script ((← size) + 1) [first]

/-- Pipelines that depend on the status of those before them. -/
def andOr : Nat → Command → Parse Command
  | 0, sofar => return sofar
  | n + 1, sofar => do
    let token ← Token.next script false false
    let join? : Option (Command → Command → Command) :=
      if token.isOperator "&&" then some .both
      else if token.isOperator "||" then some .either
      else none
    match join? with
    | none => push token; return sofar
    | some join =>
      push (← Token.first script true (← size))
      andOr n (join sofar (← pipeline nested script))

def item : Parse (Command × Token) := do
  let command ← andOr nested script ((← size) + 1) (← pipeline nested script)
  let token ← Token.next script false false
  return (if token.isOperator "&" then .background command else command, token)

def list (mayBeEmpty : Bool) : Nat → Option Command → Parse (Option Command)
  | 0, sofar => return sofar
  | n + 1, sofar => do
    let token ← Token.first script true (← size)
    push token
    match token with
    | .finish => return sofar
    | _ =>
      if (mayBeEmpty || sofar.isSome) && token.endsList then return sofar
      else
        let (command, token) ← item nested script
        let sofar := append sofar command
        match token with
        | .operator "&" | .operator ";" => list mayBeEmpty n sofar
        | .newline => push token; list mayBeEmpty n sofar
        | other => push other; return sofar

def body : Parse Command := do
  match ← list nested script false ((← size) + 2) none with
  | some command => return command
  | none => return .simple 0 [] [] []

def closedBy (close : Token) : Parse Command := do
  let command ← body nested script
  expect (← Token.next script false true) close
  return command

def conditional : Nat → Parse Command
  | 0 => refuse "word unexpected"
  | n + 1 => do
    let test ← body nested script
    expect (← Token.next script false true) (.keyword "then")
    let consequence ← body nested script
    let token ← Token.next script false true
    if token.isKeyword "elif" then
      return .conditional test consequence (some (← conditional n))
    else if token.isKeyword "else" then
      return .conditional test consequence (some (← closedBy nested script (.keyword "fi")))
    else
      expect token (.keyword "fi")
      return .conditional test consequence none

def words : Nat → List Word → Parse (List Word)
  | 0, sofar => return sofar
  | n + 1, sofar => do
    match ← Token.next script false false with
    | .word word => words n (sofar ++ [word])
    | .newline => Token.readDocuments script; return sofar
    | .operator ";" => return sofar
    | other => unexpected other

def forLoop (line : Nat) : Parse Command := do
  let name := match ← Token.next script false false with
    | .word w => w.plain?.getD ""
    | _ => ""
  if !Word.isName name then refuse "Bad for loop variable"
  else
    let token ← Token.next script true true
    let values ← if token.isKeyword "in" then words script (← size) []
      else do
        unless token.isOperator ";" do push token
        pure [[.parameter "@" .value true]]
    expect (← Token.next script true true) (.keyword "do")
    return .forEach line name values (← closedBy nested script (.keyword "done"))

def patterns : Nat → Token → List Word → Parse (List Word)
  | 0, token, _ => unexpected token
  | n + 1, token, sofar => do
    let pattern : Word := match token with
      | .word pattern => pattern
      | .keyword text => [.text text false]
      | _ => []
    let after ← Token.next script false false
    if after.isOperator "|" then
      patterns n (← Token.next script false false) (sofar ++ [pattern])
    else
      expect after (.operator ")")
      return sofar ++ [pattern]

def branches : Nat → Parse (List (List Word × Option Command))
  | 0 => return []
  | n + 1 => do
    let token ← Token.next script true true
    if token.isKeyword "esac" then return []
    else
      let token ← if token.isOperator "(" then Token.next script false false else pure token
      let labels ← patterns script (2 * (← size) + 2) token []
      let command ← list nested script true ((← size) + 2) none
      let close ← Token.next script true true
      if close.isKeyword "esac" then return [(labels, command)]
      else
        expect close (.operator ";;")
        return (labels, command) :: (← branches n)

def choice (line : Nat) : Parse Command := do
  match ← Token.next script false false with
  | .word subject =>
    expect (← Token.next script true true) (.keyword "in")
    return .choice line subject (← branches nested script ((← size) + 1))
  | other => unexpected other (some (.word []))

/-- A compound command, if a keyword or a parenthesis starts one. -/
def compound? (line : Nat) (token : Token) : Parse (Option Command) := do
  match token with
  | .keyword "if" => return some (← conditional nested script ((← size) + 1))
  | .keyword "while" =>
    let test ← body nested script
    expect (← Token.next script false true) (.keyword "do")
    return some (.loop false test (← closedBy nested script (.keyword "done")))
  | .keyword "until" =>
    let test ← body nested script
    expect (← Token.next script false true) (.keyword "do")
    return some (.loop true test (← closedBy nested script (.keyword "done")))
  | .keyword "for" => return some (← forLoop nested script line)
  | .keyword "case" => return some (← choice nested script line)
  | .keyword "\x7b" => return some (← closedBy nested script (.keyword "\x7d"))
  | .operator "(" => return some (.subshell line (← closedBy nested script (.operator ")")) [])
  | _ => return none

def commandWith : Parse Command := do
  let token ← Token.first script false (← size)
  let line := (← get).line
  match ← compound? nested script line token with
  | some command =>
    let rs ← redirects script ((← size) + 1)
    match rs, command with
    | [], command => return command
    | rs, .subshell line body _ => return .subshell line body rs
    | rs, command => return .redirected line command rs
  | none =>
    match token with
    | .word _ | .redirect .. | .document .. =>
      push token
      simple nested script line ((← size) + 2) {}
    | other => unexpected other

end

def inner (nested : Parse Command) (script : Bool → Parse (Option Command)) (closed : Bool) :
    Parse (Option Command) := do
  let outer ← get
  set { outer with announced := [] }
  let command ← list nested script true ((← size) + 2) none
  let token ← Token.next script false true
  if closed then expect token (.operator ")")
  modify fun s ↦ { s with announced := outer.announced, pushed := none }
  return command

mutual

def command : Nat → Parse Command
  | 0 => refuse "word unexpected"
  | n + 1 => commandWith (command n) (script n)

def script : Nat → Bool → Parse (Option Command)
  | 0, _ => refuse "word unexpected"
  | n + 1, closed => inner (command n) (script n) closed

end

def line (depth : Nat) : Nat → Option Command → Parse (Option Command)
  | 0, sofar => return sofar
  | n + 1, sofar => do
    let token ← Token.first (script depth) false (← size)
    match token with
    | .newline | .finish => Token.readDocuments (script depth); return sofar
    | _ =>
      push token
      let (command, token) ← item (command depth) (script depth)
      let sofar := append sofar command
      match token with
      | .finish => Token.readDocuments (script depth); return sofar
      | .newline => push token; line depth n sofar
      | .operator "&" | .operator ";" => line depth n sofar
      | other => unexpected other

/-- What comes next in a script: a command, a blank line or its end. -/
inductive Step where
  | finished
  | blank (rest : Source)
  | command (command : Command) (rest : Source)

def next (source : Source) : Except SyntaxFault Step := do
  let (rest, _) := skipBlanks source.rest source.line
  if rest.isEmpty then return .finished
  else
    let size := source.rest.length
    let (command, after) ← (line (size + 1) (size + 1) none).run { source with pushed := none }
    match command with
    | some command => return .command command after
    | none => return .blank after

end RegisterLang.Shell.Script
