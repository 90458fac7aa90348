namespace RegisterLang.Tool

def controlLetter? : Char → Option Char
  | '\x07' => some 'a'
  | '\x08' => some 'b'
  | '\t' => some 't'
  | '\n' => some 'n'
  | '\x0b' => some 'v'
  | '\x0c' => some 'f'
  | '\r' => some 'r'
  | _ => none

def spelling? (c : Char) : Option String :=
  match controlLetter? c with
  | some letter => some ("\\" ++ letter.toString)
  | none =>
    if ' ' ≤ c && c ≤ '~' then none
    else
      let digit (n : Nat) : Char := Char.ofNat ('0'.toNat + n % 8)
      some (String.ofList ['\\', digit (c.toNat / 64), digit (c.toNat / 8), digit c.toNat])

def cited (word : String) : String :=
  let spelled (c : Char) : String :=
    if c = '\x27' || c = '\\' then "\\" ++ c.toString else (spelling? c).getD c.toString
  "'" ++ String.join (word.toList.map spelled) ++ "'"

def isTame (c : Char) : Bool := c.isAlphanum || "%+,-./:]_@ '".toList.contains c

/-- The inside of a quoted name. Octets that cannot be seen stand in a quoted part of their own, and
`special` says whether the text is inside of such a part. -/
def quotedInside (special : Bool) : List Char → String
  | [] => ""
  | c :: cs =>
    match spelling? c with
    | some spelled => (if special then "" else "'$'") ++ spelled ++ quotedInside true cs
    | none =>
      if c = '\x27' then "'\\''" ++ quotedInside false cs
      else (if special then "''" else "") ++ c.toString ++ quotedInside false cs

/-- A name in quotes: double ones if it holds a single one and nothing that they would not
protect. -/
def quoted (name : String) : String :=
  match name.toList with
  | [] => "''"
  | c :: cs =>
    if (c :: cs).contains '\x27' && (isTame c || c = '#' || c = '~') && cs.all isTame then
      "\"" ++ name ++ "\""
    else "'" ++ quotedInside false (c :: cs) ++ "'"

def needsQuotes (name : String) : Bool :=
  match name.toList with
  | [] => true
  | c :: cs =>
    (c :: cs).any (fun c ↦ (spelling? c).isSome || " !\"$&'()*;<=>?[\\^\x60|".toList.contains c) ||
      c = '#' || c = '~' || (cs.isEmpty && (c = '{' || c = '}'))

def quotedIfNeeded (name : String) : String := if needsQuotes name then quoted name else name

end RegisterLang.Tool
