/-!
# Blanks

The characters with the Unicode property White_Space, and text trimmed of them at both ends.
-/

namespace Observability.Text

/-- Whether the character is white space. -/
def isBlank (c : Char) : Bool :=
  (0x09 ≤ c.toNat && c.toNat ≤ 0x0D) || c.toNat == 0x20 || c.toNat == 0x85 || c.toNat == 0xA0 ||
  c.toNat == 0x1680 || (0x2000 ≤ c.toNat && c.toNat ≤ 0x200A) || c.toNat == 0x2028 ||
  c.toNat == 0x2029 || c.toNat == 0x202F || c.toNat == 0x205F || c.toNat == 0x3000

/-- Whether the text holds nothing but blanks. -/
def allBlank (text : String) : Bool := text.toList.all isBlank

/-- The characters without the blanks at both ends. -/
def trim (cs : List Char) : List Char :=
  (((cs.dropWhile isBlank).reverse).dropWhile isBlank).reverse

end Observability.Text
