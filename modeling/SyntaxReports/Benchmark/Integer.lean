import SyntaxReports.Text.Digit

/-!
# Integers: numbers as people write them on a command line

A written integer may have blanks around it and a sign in front, and its digits
may be those of any script, with single underscores between them. `Integer.read`
gives its value, or `none` for text that is no integer or that has more digits
than are worth reading.
-/

namespace SyntaxReports.Integer

/-- The characters that may surround an integer. -/
def isBlank (c : Char) : Bool :=
  ['\t', '\n', '\x0b', '\x0c', '\r', ' ', '\u0085', '\u00a0', '\u1680', '\u2028', '\u2029',
    '\u202f', '\u205f', '\u3000'].contains c || ('\u2000' ≤ c && c ≤ '\u200a')

/-- The values of the digits in digits with single underscores between them. -/
def digits : List Char → Option (List Nat)
  | [] => none
  | [c] => do
    let d ← Digit.value? c
    pure [d]
  | c :: '_' :: rest => do
    let d ← Digit.value? c
    let ds ← digits rest
    pure (d :: ds)
  | c :: rest => do
    let d ← Digit.value? c
    let ds ← digits rest
    pure (d :: ds)

/-- The number that some digits stand for, if they are not too many. -/
def ofDigits (ds : List Nat) : Option Nat :=
  if ds.length ≤ Digit.maxDigits then some (ds.foldl (fun n d => 10 * n + d) 0) else none

/-- The value of a text without blanks around it. -/
def signed : List Char → Option Int
  | '-' :: rest => do
    let n ← ofDigits (← digits rest)
    pure (-(n : Int))
  | '+' :: rest => do
    let n ← ofDigits (← digits rest)
    pure n
  | cs => do
    let n ← ofDigits (← digits cs)
    pure n

/-- The value of a written integer. -/
def read (text : String) : Option Int :=
  signed ((text.toList.dropWhile isBlank).reverse.dropWhile isBlank).reverse

end SyntaxReports.Integer
