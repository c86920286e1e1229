import Messaging.Text.Unprintable
import Messaging.Text.GraphemeExtend

/-! Quoted texts: a text between double quotes in which the quote, the backslash and every character
    that would not show as itself are escaped, so that two different texts look different. -/

namespace Messaging.Text

/-- Membership in a class of code points given by its boundaries. -/
def within (bounds : List Nat) (c : Char) : Bool := (bounds.countP (· ≤ c.toNat)) % 2 == 1

/-- A halfwidth sound mark: it attaches to the character before it, but shows beside it as a character of its
    own. -/
def isSoundMark (c : Char) : Bool := c = '\uff9e' || c = '\uff9f'

/-- Whether a character would not show as itself. -/
def isHidden (c : Char) : Bool := (within graphemeExtendBounds c && !isSoundMark c) || within unprintableBounds c

/-- The digits of a number in base sixteen, lower case. -/
def hex (n : Nat) : String := String.ofList (Nat.toDigits 16 n)

/-- One character as it stands inside a quoted text. -/
def escaped (c : Char) : String :=
  if c = '\x00' then "\\0"
  else if c = '\t' then "\\t"
  else if c = '\n' then "\\n"
  else if c = '\r' then "\\r"
  else if c = '\x22' then "\\\""
  else if c = '\x5c' then "\\\\"
  else if ' ' ≤ c ∧ c ≤ '~' then c.toString
  else if isHidden c then "\\u\x7b" ++ hex c.toNat ++ "\x7d"
  else c.toString

/-- The quoted form of a text. -/
def quoted (s : String) : String := "\"" ++ String.join (s.toList.map escaped) ++ "\""

end Messaging.Text
