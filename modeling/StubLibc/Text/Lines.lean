/-!
# Physical lines

A line ends at a line feed, which a carriage return may precede; neither belongs to the line.  A
text that ends in a line feed has no empty line after it.
-/

namespace StubLibc.Text

/-- The lines of a text, without their ends. -/
def lines : List Char → List (List Char)
  | [] => []
  | '\n' :: rest => [] :: lines rest
  | '\r' :: '\n' :: rest => [] :: lines rest
  | c :: rest =>
    match lines rest with
    | [] => [[c]]
    | line :: more => if rest.isEmpty then [[c]] else (c :: line) :: more

end StubLibc.Text
