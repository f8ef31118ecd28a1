/-!
Contract: a text cut into lines.

A line ends at a line feed.  One carriage return right in front of the line feed belongs to the
ending; any other carriage return, and every other character that some systems end lines with,
belongs to the line.  A last line needs no ending.

Owns: the lines of a text, without their endings.

Does not own: which lines anyone looks at.
-/

namespace KermitSend.Text

/-- Cut characters into lines. -/
def cutLines : List Char → List (List Char)
  | [] => []
  | '\r' :: '\n' :: rest => [] :: cutLines rest
  | '\n' :: rest => [] :: cutLines rest
  | character :: rest =>
      match cutLines rest with
      | [] => [[character]]
      | line :: others => (character :: line) :: others

/-- The lines of a text. -/
def lines (text : String) : List String :=
  (cutLines text.toList).map String.ofList

end KermitSend.Text
