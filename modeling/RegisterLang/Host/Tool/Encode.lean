import RegisterLang.Host.Text.Armor
import RegisterLang.Host.Tool.Options

namespace RegisterLang.Tool.Encode

/-- A way to write bytes in characters, a multiple of them at a time. -/
structure Coding where
  multiple : Nat := 1
  encode : List UInt8 → List Char
  decode : List Char → List UInt8 × Bool
  known : Char → Bool

def Coding.ofArmor (a : Armor) : Coding :=
  { encode := a.encode, decode := a.decode
    known := fun c ↦ (a.value? c).isSome || (a.filled && c = '=') }

def Coding.quint : Coding :=
  { multiple := 4, encode := Armor.Quint.encode, decode := Armor.Quint.decode
    known := Armor.Quint.alphabet.contains }

def codings : List (String × Coding) :=
  [("base64", .ofArmor .base64), ("base64url", .ofArmor .base64url), ("base32", .ofArmor .base32),
    ("base32hex", .ofArmor .base32hex), ("base16", .ofArmor .base16),
    ("base2msbf", .ofArmor (.base2 false)), ("base2lsbf", .ofArmor (.base2 true)),
    ("z85", .quint)]

def table (coded : Bool) : OptionTable :=
  { short := "diw:"
    long := OptionTable.plain
        ([("decode", "d"), ("ignore-garbage", "i")] ++
          if coded then codings.map fun (name, _) ↦ (name, name) else []) ++
      OptionTable.valued [("wrap", "w")] }

def wrapped (width : Nat) (cs : List Char) : String :=
  if width = 0 then String.ofList cs
  else
    String.join ((Armor.parts width (cs.length + 1) cs).map fun part ↦ String.ofList part ++ "\n")

def run (coding : Coding) (found : OptionList) (operands : List String) : Tool Nat := do
  let width ← match found.value? "w" with
    | none => pure 76
    | some text =>
      match readCount "" text with
      | .ok n => pure n
      | .error .tooLarge => pure 0
      | .error .invalid => fail 1 ("invalid wrap size: " ++ cited text)
  if let some extra := operands[1]? then failWithHelp 1 ("extra operand " ++ cited extra)
  let operand := operands.headD "-"
  match ← openInput operand with
  | .error fault => fail 1 (quotedIfNeeded operand ++ ": " ++ fault.describe)
  | .ok () =>
    match ← restOfInput with
    | .error fault => fail 1 ("read error: " ++ fault.describe)
    | .ok bytes =>
      if found.has "d" then
        let cs := (Octet.ofBytes bytes).toList.filter fun c ↦
          c ≠ '\n' && (coding.known c || !found.has "i")
        let (result, ok) := coding.decode cs
        put ⟨result.toArray⟩
        unless ok do fail 1 "invalid input"
        return 0
      else if bytes.size % coding.multiple ≠ 0 then
        fail 1 ("invalid input (length must be multiple of " ++ toString coding.multiple ++
          " characters)")
      else
        say (wrapped width (coding.encode bytes.data.toList))
        return 0

def mainWith (coding : Coding) (args : List String) : Tool Nat := do
  let (found, operands) ← options (table false) args
  run coding found operands

def main (args : List String) : Tool Nat := do
  let (found, operands) ← options (table true) args
  match (found.last? (codings.map (·.1))).bind fun name ↦ codings.lookup name with
  | none => failWithHelp 1 "missing encoding type"
  | some coding => run coding found operands

end RegisterLang.Tool.Encode
