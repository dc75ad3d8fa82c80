/-!
# Blank characters

`Text.isBlank` is the Unicode property of white space; `Text.trim` drops blanks at both ends.
-/

namespace ChillerGateway

namespace Text

/-- Unicode white space. -/
def isBlank (c : Char) : Bool :=
  let n := c.toNat
  (9 ≤ n && n ≤ 13) || n == 0x20 || n == 0x85 || n == 0xA0 || n == 0x1680 ||
    (0x2000 ≤ n && n ≤ 0x200A) || n == 0x2028 || n == 0x2029 || n == 0x202F || n == 0x205F ||
    n == 0x3000

def trimChars (cs : List Char) : List Char :=
  ((cs.dropWhile isBlank).reverse.dropWhile isBlank).reverse

/-- The text without blanks at either end. -/
def trim (s : String) : String := String.ofList (trimChars s.toList)

/-- Letters of the ASCII range in lower case, all else as it is. -/
def lower (s : String) : String := String.ofList (s.toList.map Char.toLower)

end Text

end ChillerGateway
