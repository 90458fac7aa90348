import RegisterLang.Host.Regex.Match
import RegisterLang.Host.Tool.Field

namespace RegisterLang.Tool

namespace Reverse

inductive Separator where
  | text (bytes : ByteArray)
  | pattern (m : Regex.Matcher)

def standsAt (text part : ByteArray) (i : Nat) : Bool := text.extract i (i + part.size) == part

def lastBefore (s : Separator) (text : ByteArray) (limit : Nat) : Nat → Option (Nat × Nat)
  | 0 => none
  | i + 1 =>
    match s with
    | .text bytes =>
      if i + bytes.size ≤ limit && standsAt text bytes i then some (i, bytes.size)
      else lastBefore s text limit i
    | .pattern m =>
      match m.matchAt { text := text.extract 0 limit } false i with
      | some found => some (i, found.finish - i)
      | none => lastBefore s text limit i

/-- The parts of a text, found from its end on. -/
def parts (s : Separator) (before : Bool) (text : ByteArray) :
    Nat → (limit finish : Nat) → (isFirst : Bool) → List ByteArray → List ByteArray
  | 0, _, finish, _, done => text.extract 0 finish :: done
  | n + 1, limit, finish, isFirst, done =>
    match lastBefore s text limit limit with
    | none => text.extract 0 finish :: done
    | some (i, length) =>
      if before then parts s before text n i i false (text.extract i finish :: done)
      else
        let rest := i + length
        parts s before text n i rest false
          (if isFirst && rest = finish then done else text.extract rest finish :: done)

def main (args : List String) : Tool Nat := do
  let (found, operands) ← options
    { short := "brs:"
      long := OptionTable.plain [("before", "b"), ("regex", "r")] ++
        OptionTable.valued [("separator", "s")] } args
  let given := (found.value? "s").getD "\n"
  let given := if given.isEmpty then "\x00" else given
  let separator ← if found.has "r" then
      match Regex.prepare { plainSigns := true, intervals := false } given with
      | .ok m => pure (Separator.pattern m)
      | .error fault => fail 1 fault.message
    else pure (Separator.text (Octet.toBytes given))
  let mut status := 0
  for operand in (if operands.isEmpty then ["-"] else operands) do
    match ← openInput operand with
    | .error fault =>
      complain ("failed to open " ++ quoted operand ++ " for reading: " ++ fault.describe)
      status := 1
    | .ok () =>
      let result ← restOfInput
      closeInput
      match result with
      | .error _ =>
        complain (quotedIfNeeded operand ++ ": read error: " ++
          SystemFault.invalidArgument.describe)
        status := 1
      | .ok text =>
        let done := parts separator (found.has "b") text (text.size + 1) text.size text.size true []
        put (done.reverse.foldl (· ++ ·) .empty)
  return status

/-- Turns every line from right to left. -/
def lines (args : List String) : Tool Nat := do
  let (found, operands) ← options
    { short := "0hV", long := OptionTable.plain [("zero", "0")] } args
  if found.has "V" || found.has "h" then return 0
  let mark := if found.has "0" then "\x00" else "\n"
  let mut status := 0
  for operand in (if operands.isEmpty then ["-"] else operands) do
    match ← openInput operand with
    | .error fault =>
      complain ("cannot open " ++ operand ++ ": " ++ fault.describe)
      status := 1
    | .ok () =>
      let _ ← forLines (fun line ended ↦
        say (String.ofList line.toList.reverse ++ if ended then mark else ""))
        (mark.toList.headD ' ').toNat.toUInt8
      closeInput
  return status

end Reverse

namespace Number

inductive Style where
  | all
  | filled
  | none
  | pattern (m : Regex.Matcher)

structure Request where
  header : Style := .none
  body : Style := .filled
  footer : Style := .none
  divider : String := "\\:"
  start : Int := 1
  step : Int := 1
  width : Nat := 6
  separator : String := "\t"
  left : Bool := false
  zeros : Bool := false
  blanks : Nat := 1
  keeps : Bool := false

/-- The next number, what the section numbers, and the empty lines in a row. -/
structure Progress where
  number : Int
  style : Style
  blanks : Nat := 0

namespace Request

def shown (r : Request) (n : Int) : String :=
  if r.left then Text.padRight r.width ' ' (toString n)
  else if r.zeros then
    if n < 0 then "-" ++ Text.padLeft (r.width - 1) '0' (toString n.natAbs)
    else Text.padLeft r.width '0' (toString n)
  else Text.padLeft r.width ' ' (toString n)

def line (r : Request) (p : Progress) (text : String) : String × Progress :=
  let numbered (p : Progress) : String × Progress :=
    (r.shown p.number ++ r.separator ++ text ++ "\n", { p with number := p.number + r.step })
  let plain (p : Progress) : String × Progress :=
    (String.ofList (List.replicate (r.width + r.separator.length) ' ') ++ text ++ "\n", p)
  let section_ (style : Style) : String × Progress :=
    ("\n", { p with style, number := if r.keeps then p.number else r.start })
  if r.divider.isEmpty then go numbered plain
  else if text = r.divider ++ r.divider ++ r.divider then section_ r.header
  else if text = r.divider ++ r.divider then section_ r.body
  else if text = r.divider then section_ r.footer
  else go numbered plain
where
  go (numbered plain : Progress → String × Progress) : String × Progress :=
    match p.style with
    | .all =>
      if r.blanks ≤ 1 || !text.isEmpty || p.blanks + 1 = r.blanks then
        numbered { p with blanks := 0 }
      else plain { p with blanks := p.blanks + 1 }
    | .filled => if text.isEmpty then plain p else numbered p
    | .none => plain p
    | .pattern m =>
      if (m.search { text := Octet.toBytes text }).isSome then numbered p else plain p

end Request

def styleOf (what text : String) : Tool Style := do
  match text.toList with
  | ['a'] => return .all
  | ['t'] => return .filled
  | ['n'] => return .none
  | 'p' :: pattern =>
    match Regex.prepare {} (String.ofList pattern) with
    | .ok m => return .pattern m
    | .error fault => fail 1 fault.message
  | _ => failWithHelp 1 ("invalid " ++ what ++ " numbering style: " ++ cited text)

def integer (what text : String) : Tool Int := do
  let digits := match text.toList with
    | '-' :: rest | '+' :: rest => rest
    | cs => cs
  if digits.isEmpty || !digits.all Char.isDigit then
    fail 1 ("invalid " ++ what ++ ": " ++ cited text)
  let n : Int := Real.readDigits 10 digits
  return if text.startsWith "-" then -n else n

def positive (what text : String) : Tool Nat := do
  match readCount "" text with
  | .ok 0 => fail 1 ("invalid " ++ what ++ ": " ++ cited text ++ ": Numerical result out of range")
  | .ok n =>
    if 2147483647 < n then
      fail 1 ("invalid " ++ what ++ ": " ++ cited text ++
        ": Value too large for defined data type")
    return n
  | .error .invalid => fail 1 ("invalid " ++ what ++ ": " ++ cited text)
  | .error .tooLarge =>
    fail 1 ("invalid " ++ what ++ ": " ++ cited text ++ ": Value too large for defined data type")

def table : OptionTable :=
  { short := "b:d:f:h:i:l:n:ps:v:w:"
    long := OptionTable.plain [("no-renumber", "p")] ++
      OptionTable.valued
        [("header-numbering", "h"), ("body-numbering", "b"), ("footer-numbering", "f"),
          ("starting-line-number", "v"), ("line-increment", "i"), ("join-blank-lines", "l"),
          ("number-separator", "s"), ("number-width", "w"), ("number-format", "n"),
          ("section-delimiter", "d")] }

def apply (r : Request) (key text : String) : Tool Request := do
  match key with
  | "h" => return { r with header := ← styleOf "header" text }
  | "b" => return { r with body := ← styleOf "body" text }
  | "f" => return { r with footer := ← styleOf "footer" text }
  | "v" => return { r with start := ← integer "starting line number" text }
  | "i" => return { r with step := ← integer "line number increment" text }
  | "p" => return { r with keeps := true }
  | "l" => return { r with blanks := ← positive "line number of blank lines" text }
  | "s" => return { r with separator := text }
  | "w" => return { r with width := ← positive "line number field width" text }
  | "n" =>
    match text with
    | "ln" => return { r with left := true, zeros := false }
    | "rn" => return { r with left := false, zeros := false }
    | "rz" => return { r with left := false, zeros := true }
    | _ => failWithHelp 1 ("invalid line numbering format: " ++ cited text)
  | "d" => return { r with divider := if text.length = 1 then text ++ ":" else text }
  | _ => return r

def main (args : List String) : Tool Nat := do
  let (found, operands) ← options table args
  let mut r : Request := {}
  for (key, value) in found do r ← apply r key (value.getD "")
  let request := r
  let mut p : Progress := { number := r.start, style := r.body }
  let mut status := 0
  for operand in (if operands.isEmpty then ["-"] else operands) do
    match ← openInput operand with
    | .error fault =>
      complain (quotedIfNeeded operand ++ ": " ++ fault.describe)
      status := 1
    | .ok () =>
      let result ← iterate (fun (p : Progress) ↦ do
        match ← nextLine with
        | .error fault => return .inr (p, some fault)
        | .ok none => return .inr (p, none)
        | .ok (some (line, _)) =>
          let (text, p) := request.line p line
          say text
          return .inl p) p
      closeInput
      p := result.1
      if let some fault := result.2 then
        complain (quotedIfNeeded operand ++ ": " ++ fault.describe)
        status := 1
  return status

end Number

end RegisterLang.Tool
