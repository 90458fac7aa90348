namespace RegisterLang.Text

def blankRanges : List (Nat × Nat) :=
  [(0x09, 0x0D), (0x20, 0x20), (0x85, 0x85), (0xA0, 0xA0), (0x1680, 0x1680), (0x2000, 0x200A),
    (0x2028, 0x2029), (0x202F, 0x202F), (0x205F, 0x205F), (0x3000, 0x3000)]

def isBlank (c : Char) : Bool :=
  blankRanges.any fun (first, last) ↦ first ≤ c.toNat && c.toNat ≤ last

def trim (cs : List Char) : List Char :=
  ((cs.dropWhile isBlank).reverse.dropWhile isBlank).reverse

def repeated (n : Nat) (c : Char) : String := String.ofList (List.replicate n c)

def padLeft (width : Nat) (fill : Char) (text : String) : String :=
  repeated (width - text.length) fill ++ text

def padRight (width : Nat) (fill : Char) (text : String) : String :=
  text ++ repeated (width - text.length) fill

end RegisterLang.Text
