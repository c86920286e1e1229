/-! Masked texts: the numerals in a text that are long enough to be addresses are replaced by one mark,
    so that the text does not depend on where things are stored. -/

namespace Messaging.Text

/-- A digit of a lower-case numeral in base sixteen. -/
def isAddressDigit (c : Char) : Bool := c.isDigit || ('a' ≤ c && c ≤ 'f')

/-- How many digits a numeral needs at least to be taken for an address. -/
def addressDigits : Nat := 9

/-- Replaces each `0x` followed by at least `addressDigits` digits, with all its digits. -/
def maskAddresses : List Char → List Char
  | [] => []
  | '0' :: 'x' :: rest =>
    if addressDigits ≤ (rest.takeWhile isAddressDigit).length then
      "<ptr>".toList ++ maskAddresses (rest.dropWhile isAddressDigit)
    else '0' :: maskAddresses ('x' :: rest)
  | c :: rest => c :: maskAddresses rest
termination_by cs => cs.length
decreasing_by
  · have := (List.dropWhile_sublist isAddressDigit (l := rest)).length_le
    simp only [List.length_cons]
    omega
  · simp
  · simp

/-- A text with its addresses masked. -/
def masked (s : String) : String := String.ofList (maskAddresses s.toList)

end Messaging.Text
