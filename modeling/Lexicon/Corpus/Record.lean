/-! The lines of a text. -/

namespace Lexicon

/-- Puts the lines of a text behind those already found and behind the start of the current line,
both held in reverse. -/
def linesFrom (found : List (List Char)) (line : List Char) : List Char → List (List Char)
  | [] => (line.reverse :: found).reverse
  | '\r' :: '\n' :: cs => linesFrom (line.reverse :: found) [] cs
  | c :: cs =>
    if c = '\n' || c = '\r' then linesFrom (line.reverse :: found) [] cs
    else linesFrom found (c :: line) cs

/-- The records of a corpus, one a line. A line ends at a line feed, a carriage return, or both in
that order, so a text that ends with a line break has an empty last record. -/
def recordsOf (text : String) : List String := (linesFrom [] [] text.toList).map String.ofList

end Lexicon
