import Observability.Decimal.Format
import Observability.Json.Basic
import Observability.Text.Digit

/-!
# JSON text

`Json.print` writes a value in the compact form: no blanks, members in the order they are stored, and
in strings only the quote, the backslash and the characters below the blank escaped.  `Json.asciiText`
escapes what lies beyond ASCII as well.
-/

namespace Observability.Json

/-- The escape of a number of sixteen bits. -/
def unitEscape (n : Nat) : List Char := '\\' :: 'u' :: Text.hexDigits 4 n

/-- A character inside a string. -/
def escapeChar (c : Char) : List Char :=
  if c = '"' then ['\\', '"']
  else if c = '\\' then ['\\', '\\']
  else if c = '\x08' then ['\\', 'b']
  else if c = '\t' then ['\\', 't']
  else if c = '\n' then ['\\', 'n']
  else if c = '\x0c' then ['\\', 'f']
  else if c = '\r' then ['\\', 'r']
  else if c.toNat < 0x20 then unitEscape c.toNat
  else [c]

/-- A string in quotes. -/
def stringChars (s : String) : List Char := '"' :: s.toList.flatMap escapeChar ++ ['"']

/-- An integer in decimal. -/
def intChars (n : Int) : List Char :=
  if n < 0 then '-' :: Nat.toDigits 10 n.natAbs else Nat.toDigits 10 n.natAbs

mutual

/-- The characters of a value. -/
def chars : Json → List Char
  | .null => ['n', 'u', 'l', 'l']
  | .bool true => ['t', 'r', 'u', 'e']
  | .bool false => ['f', 'a', 'l', 's', 'e']
  | .int n => intChars n.val
  | .double x => Decimal.Format.json.chars x
  | .string s => stringChars s
  | .array [] => ['[', ']']
  | .array (v :: rest) => '[' :: chars v ++ itemChars rest
  | .object [] => ['{', '}']
  | .object ((k, v) :: rest) => '{' :: stringChars k ++ ':' :: chars v ++ memberChars rest

/-- The items after the first, each after its comma, and the closing bracket. -/
def itemChars : List Json → List Char
  | [] => [']']
  | v :: rest => ',' :: chars v ++ itemChars rest

/-- The members after the first, each after its comma, and the closing brace. -/
def memberChars : List (String × Json) → List Char
  | [] => ['}']
  | (k, v) :: rest => ',' :: stringChars k ++ ':' :: chars v ++ memberChars rest

end

/-- The compact text of a value. -/
def print (value : Json) : String := String.ofList value.chars

/-- The escapes of a character beyond ASCII: one, or two from `U+10000` on. -/
def asciiEscape (c : Char) : List Char :=
  if c.toNat < 0x80 then [c]
  else if c.toNat < 0x10000 then unitEscape c.toNat
  else
    unitEscape (0xD800 + (c.toNat - 0x10000) / 0x400) ++
    unitEscape (0xDC00 + (c.toNat - 0x10000) % 0x400)

/-- JSON text with every character beyond ASCII escaped. -/
def asciiText (text : String) : String := String.ofList (text.toList.flatMap asciiEscape)

end Observability.Json
