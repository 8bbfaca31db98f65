namespace LeadingComment

/-- The property White_Space, which holds of 25 characters in ten ranges. -/
def isBlank (char : Char) : Bool :=
  let code := char.toNat
  (0x9 ≤ code && code ≤ 0xD) || code == 0x20 || code == 0x85 || code == 0xA0 || code == 0x1680
    || (0x2000 ≤ code && code ≤ 0x200A) || (0x2028 ≤ code && code ≤ 0x2029) || code == 0x202F
    || code == 0x205F || code == 0x3000

def trimStart (chars : List Char) : List Char := chars.dropWhile isBlank

def trimEnd (chars : List Char) : List Char := (chars.reverse.dropWhile isBlank).reverse

def trim (chars : List Char) : List Char := trimEnd (trimStart chars)

end LeadingComment
