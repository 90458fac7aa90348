import RegisterLang.Text.Utf8

namespace RegisterLang.Octet

/-- Each byte as the character with its number. -/
def ofBytes (bytes : ByteArray) : String :=
  bytes.foldl (fun text b ↦ text.push (Char.ofNat b.toNat)) ""

def toBytes (octets : String) : ByteArray :=
  octets.foldl (fun bytes c ↦ bytes.push (UInt8.ofNat c.toNat)) .empty

def ofText (text : String) : String := ofBytes text.toUTF8

def toText (octets : String) : String :=
  if octets.toList.all fun c ↦ c.toNat < 128 then octets
  else String.ofList (Utf8.decodeLossy (toBytes octets).toList)

end RegisterLang.Octet
