import RegisterLang.Text.Printable

namespace RegisterLang.Text

def hexDigits (n : Nat) : String := String.ofList (Nat.toDigits 16 n)

def codePoint (c : Char) : String := "\\u\x7b" ++ hexDigits c.toNat ++ "\x7d"

def shortEscape? : Char → Option String
  | '\t' => "\\t"
  | '\r' => "\\r"
  | '\n' => "\\n"
  | '\x27' => "\\'"
  | '"' => "\\\""
  | '\\' => "\\\\"
  | _ => none

def escapeAscii (c : Char) : String :=
  match shortEscape? c with
  | some text => text
  | none => if ' ' ≤ c && c ≤ '~' then c.toString else codePoint c

def escapeVisible (c : Char) : String :=
  match shortEscape? c with
  | some text => text
  | none =>
    if c = '\x00' then "\\0"
    else if isPrintable c then c.toString
    else codePoint c

end RegisterLang.Text
