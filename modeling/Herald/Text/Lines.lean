/-!
# The lines of a text

A line ends at a line feed, or at a carriage return with a line feed after it;
the ending is not part of the line. A text that ends with a line ending has no
empty line after it, and a lone carriage return is an ordinary character.
-/

namespace Herald.Text

/-- Puts a character in front of the first of some lines. -/
def consFirst (c : Char) : List (List Char) → List (List Char)
  | [] => [[c]]
  | line :: rest => (c :: line) :: rest

def lines : List Char → List (List Char)
  | [] => []
  | '\r' :: '\n' :: rest => [] :: lines rest
  | '\n' :: rest => [] :: lines rest
  | c :: rest => consFirst c (lines rest)

end Herald.Text
