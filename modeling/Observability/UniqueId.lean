import Observability.Text.Digit

/-!
# Unique identifiers

Identifiers are numbered under a salt, which tells one process from another.  Their text has five groups
of hexadecimal digits, with the marks of a random identifier; the number is in the last group.
`text_injective` says that the numbers of a process do not share a text before they run out.
-/

namespace Observability.UniqueId

/-- What all identifiers under a salt start with. -/
def stem (salt : Nat) : List Char :=
  Text.hexDigits 8 (salt / 0x10000000000) ++ '-' :: Text.hexDigits 4 (salt / 0x1000000) ++
  '-' :: '4' :: Text.hexDigits 3 (salt / 0x1000) ++ '-' :: '8' :: Text.hexDigits 3 salt ++ ['-']

/-- The identifier of the given number. -/
def text (salt n : Nat) : String := String.ofList (stem salt ++ Text.hexDigits 12 n)

theorem text_injective (salt : Nat) {m n : Nat} (hm : m < 0x1000000000000) (hn : n < 0x1000000000000)
    (h : text salt m = text salt n) : m = n :=
  @Text.hexDigits_injective 12 m n hm hn (List.append_cancel_left (String.ofList_injective h))

end Observability.UniqueId
