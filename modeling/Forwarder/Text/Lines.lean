/-!
# Lines of a text

A line ends at a line feed, which is not part of it and takes a carriage return before it along.
A text that ends in a line feed has no further, empty line after it.
-/

namespace Forwarder.Text

/-- A finished line, given with its characters in reverse order, without a final carriage
return. -/
def finishLine : List Char → List Char
  | '\r' :: reversed => reversed.reverse
  | reversed => reversed.reverse

/-- The lines of a text, given the characters already read of the current line in reverse. -/
def linesFrom (reversed : List Char) : List Char → List (List Char)
  | [] => if reversed.isEmpty then [] else [reversed.reverse]
  | c :: rest =>
    if c = '\n' then finishLine reversed :: linesFrom [] rest
    else linesFrom (c :: reversed) rest

/-- The lines of a text. -/
def lines (text : String) : List String := (linesFrom [] text.toList).map String.ofList

end Forwarder.Text
