/-! Cutting texts into pieces: at a separator, and into lines. -/

namespace Messaging.Text

/-- Cuts a text at each `sep`. There is always one piece more than there are separators. -/
def cutAt (sep : Char) : List Char → List (List Char)
  | [] => [[]]
  | c :: rest =>
    if c = sep then [] :: cutAt sep rest
    else match cutAt sep rest with
      | [] => [[c]]
      | piece :: pieces => (c :: piece) :: pieces

/-- The lines of a text. Only a line feed ends a line; a carriage return is part of the line it stands in. -/
def lines (s : String) : List String := (cutAt '\n' s.toList).map String.ofList

end Messaging.Text
