/-
Blank characters and trimming.

A character is blank if Unicode gives it the property White_Space. `trim` removes the blanks at both ends of a text.
-/
namespace TenantGateway.Text

/-- the Unicode property White_Space -/
def isBlank (c : Char) : Bool :=
  let n := c.toNat
  (9 ≤ n && n ≤ 13) || n = 0x20 || n = 0x85 || n = 0xA0 || n = 0x1680 || (0x2000 ≤ n && n ≤ 0x200A) ||
    n = 0x2028 || n = 0x2029 || n = 0x202F || n = 0x205F || n = 0x3000

/-- drop the blanks at both ends -/
def trimChars (cs : List Char) : List Char :=
  ((cs.dropWhile isBlank).reverse.dropWhile isBlank).reverse

/-- drop the blanks at both ends -/
def trim (s : String) : String :=
  String.ofList (trimChars s.toList)

/-- a text of blanks only, the empty text among them -/
def isBlankText (s : String) : Bool :=
  s.toList.all isBlank

end TenantGateway.Text
