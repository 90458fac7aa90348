namespace RegisterLang.Utf8

def isContinuation (b : UInt8) : Bool := 0x80 ≤ b && b ≤ 0xBF

/-- The lowest and highest second byte that a leading byte of three or four allows. -/
def secondRange (lead : UInt8) : UInt8 × UInt8 :=
  if lead = 0xE0 then (0xA0, 0xBF)
  else if lead = 0xED then (0x80, 0x9F)
  else if lead = 0xF0 then (0x90, 0xBF)
  else if lead = 0xF4 then (0x80, 0x8F)
  else (0x80, 0xBF)

def allowsSecond (lead b : UInt8) : Bool :=
  (secondRange lead).1 ≤ b && b ≤ (secondRange lead).2

def assemble (lead : Nat) (tail : List UInt8) : Char :=
  Char.ofNat (tail.foldl (fun n b ↦ n * 64 + b.toNat % 64) lead)

/-- Reads the front of a byte sequence: a character, or `none` for the longest stretch that starts
a character without finishing one. -/
def next : List UInt8 → Option (Option Char × List UInt8)
  | [] => none
  | b :: rest =>
    if b < 0x80 then some (some (Char.ofNat b.toNat), rest)
    else if 0xC2 ≤ b && b ≤ 0xDF then
      match rest with
      | c :: rest' =>
        if isContinuation c then some (some (assemble (b.toNat % 32) [c]), rest')
        else some (none, rest)
      | [] => some (none, rest)
    else if 0xE0 ≤ b && b ≤ 0xEF then
      match rest with
      | c :: rest' =>
        if allowsSecond b c then
          match rest' with
          | d :: rest'' =>
            if isContinuation d then some (some (assemble (b.toNat % 16) [c, d]), rest'')
            else some (none, rest')
          | [] => some (none, rest')
        else some (none, rest)
      | [] => some (none, rest)
    else if 0xF0 ≤ b && b ≤ 0xF4 then
      match rest with
      | c :: rest' =>
        if allowsSecond b c then
          match rest' with
          | d :: rest'' =>
            if isContinuation d then
              match rest'' with
              | e :: rest''' =>
                if isContinuation e then some (some (assemble (b.toNat % 8) [c, d, e]), rest''')
                else some (none, rest'')
              | [] => some (none, rest'')
            else some (none, rest')
          | [] => some (none, rest')
        else some (none, rest)
      | [] => some (none, rest)
    else some (none, rest)

theorem next_length_lt {bs rest : List UInt8} {c : Option Char} (h : next bs = some (c, rest)) :
    rest.length < bs.length := by
  cases bs with
  | nil => simp [next] at h
  | cons b bs =>
    simp only [next] at h
    repeat' split at h
    all_goals cases h; simp <;> omega

/-- The characters of a byte sequence, with `none` for each stretch that is no character. -/
def chars (bs : List UInt8) : List (Option Char) :=
  match _h : next bs with
  | none => []
  | some (c, rest) => c :: chars rest
termination_by bs.length
decreasing_by exact next_length_lt _h

def decode? (bs : List UInt8) : Option (List Char) := (chars bs).mapM id

def decodeLossy (bs : List UInt8) : List Char := (chars bs).map (·.getD '�')

def encode (text : String) : List UInt8 := text.toUTF8.toList

end RegisterLang.Utf8
