import SyntaxReports.Text.Digit
import SyntaxReports.Text.Printable

/-!
# Foreign values: what stands where a known form was expected

A failure, a parser message or a type comes from outside, and what comes from
outside may be a bare value that is none of the forms this library knows.
`Foreign` is such a value. It is carried along untouched until something has to
look at it; the fault raised then quotes it, and `Foreign.excerpt` is the
quotation: the written value (`Foreign.written`), cut off after a hundred
characters. Only numbers with too many digits are not written out
(`Foreign.isWritable`).

Of the numbers only whole ones are here. How others are written is a matter of
floating point.
-/

namespace SyntaxReports

/-- A bare value in a place where a failure, a message or a type belongs. -/
inductive Foreign where
  /-- no value at all -/
  | null
  /-- a truth value -/
  | bool (value : Bool)
  /-- a whole number, with any number of digits -/
  | int (value : Int)
  /-- a piece of text -/
  | text (value : String)
  deriving Repr, DecidableEq

namespace Foreign

/-- The quote that encloses a written text: the single one, unless the text
holds a single quote and no double one. -/
def quoteFor (text : List Char) : Char :=
  if '\x27' ∈ text ∧ '\x22' ∉ text then '\x22' else '\x27'

/-- One character between the quotes `quote`. A backslash and the quote itself
are marked by a backslash, and so are the three controls that have a letter of
their own. Any other character stands for itself if it can be shown, and is
given by its code point if not. -/
def quoted (quote c : Char) : List Char :=
  if c = quote ∨ c = '\\' then ['\\', c]
  else if c = '\n' then ['\\', 'n']
  else if c = '\r' then ['\\', 'r']
  else if c = '\t' then ['\\', 't']
  else if Printable.isPrintable c then [c]
  else Printable.escape c

/-- The value in full: names with a capital for nothing and the truth values,
decimal digits for a number, quotes around a text. -/
def written : Foreign → String
  | .null => "None"
  | .bool true => "True"
  | .bool false => "False"
  | .int value => toString value
  | .text value =>
    let quote := quoteFor value.toList
    String.ofList (quote :: value.toList.flatMap (quoted quote) ++ [quote])

/-- Whether the value can be written: a number has a limit to its digits, and
the sign is none of them. -/
def isWritable : Foreign → Bool
  | .int value => (toString value.natAbs).length ≤ Digit.maxDigits
  | _ => true

/-- The longest written value that is quoted whole. -/
def excerptLength : Nat := 100

/-- The written value, or as much of it as a fault quotes: past
`excerptLength` characters three dots stand for the rest. -/
def excerpt (value : Foreign) : String :=
  let written := value.written
  if written.length ≤ excerptLength then written
  else String.ofList (written.toList.take excerptLength) ++ "..."

end Foreign

end SyntaxReports
