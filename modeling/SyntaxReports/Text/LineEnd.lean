/-!
# Line ends: text cut wherever a line may end

Text that was written elsewhere may end its lines in other ways than with a
newline. `LineEnd.isEnd` lists the ten characters that do, and a carriage
return with a newline behind it is one line end, not two.

Here a line end belongs to the line before it, unlike the newline of
`SyntaxReports.Line`, which stands between two lines. So a text that ends with a
line end has no further line after it, and the empty text has no lines.
-/

namespace SyntaxReports.LineEnd

/-- The characters that end a line: line feed, vertical tab, form feed,
carriage return, the separators of files, groups and records, next line, and
the separators of lines and paragraphs. -/
def isEnd (c : Char) : Bool :=
  ['\n', '\x0b', '\x0c', '\r', '\x1c', '\x1d', '\x1e', '\u0085', '\u2028', '\u2029'].contains c

/-- A character put in front of the first line. -/
def consFirst (c : Char) : List (List Char) → List (List Char)
  | [] => [[c]]
  | line :: lines => (c :: line) :: lines

/-- The lines of a sequence of characters, without their ends. A carriage
return before a newline is passed over: the newline ends the line for both. -/
def split : List Char → List (List Char)
  | [] => []
  | c :: rest =>
    if c = '\r' ∧ rest.head? = some '\n' then split rest
    else if isEnd c then [] :: split rest
    else consFirst c (split rest)

/-- The lines of a text, whichever way they end. -/
def lines (text : String) : List String :=
  (split text.toList).map String.ofList

end SyntaxReports.LineEnd
