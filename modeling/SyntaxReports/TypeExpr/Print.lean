import SyntaxReports.Fault
import SyntaxReports.TypeExpr.Basic

/-!
# Printing types: one line of source text for a type

`TypeExpr.print` writes a type the way ML-like languages do: arguments after
their head with single spaces, arrows that associate to the right, tuples in
parentheses and records in braces, both with a blank inside. Parentheses are
added by position: an application or an arrow gets them as an argument, and an
arrow gets them to the left of an arrow.

Printing fails on a type with something foreign in it, at the leftmost such
place, because the parts of a type are printed in the order they are written.

`TypePrinter` is what the rest of the library asks for: any way of turning a
type at a position into text, with effects of the caller's choosing.
`TypePrinter.standard` is the printer above.
-/

namespace SyntaxReports

/-- Parentheses around the text of a compound type, where its position needs
them. -/
def Position.enclose : Position → String → String
  | .standalone, text => text
  | .argument, text => "(" ++ text ++ ")"

namespace TypeExpr

/-- The position of a type to the left of an arrow: an arrow there is held
together like an argument, every other type stands as it is. An application
without arguments counts as an application, whatever its head. -/
def leftOfArrow : TypeExpr → Position
  | .arrow _ _ => .argument
  | _ => .standalone

/-- A record around the text of its fields: `fields` is `none` for a record
without any, and the row variable comes before a bar. -/
def braces : (fields? : Option String) → (extension : Option String) → String
  | none, none => "\x7b\x7d"
  | some fields, none => "\x7b " ++ fields ++ " \x7d"
  | none, some row => "\x7b " ++ row ++ " \x7d"
  | some fields, some row => "\x7b " ++ row ++ " | " ++ fields ++ " \x7d"

/-- The texts of a tuple's items or a record's fields in one line, or `none`
if there are none. -/
def commaSeparated : List String → Option String
  | [] => none
  | texts => some (", ".intercalate texts)

mutual

/-- The text of a type at a position. An application without arguments is
printed as its head would be. -/
def print : Position → TypeExpr → Except Fault String
  | _, .var name => pure name
  | _, .con name => pure name
  | position, .app head [] => print position head
  | position, .app head (arg :: args) => do
    let head ← print .argument head
    let arg ← print .argument arg
    let args ← printAll .argument args
    pure (position.enclose (" ".intercalate (head :: arg :: args)))
  | position, .arrow arg result => do
    let left ← print arg.leftOfArrow arg
    let right ← print .standalone result
    pure (position.enclose (left ++ " -> " ++ right))
  | _, .tuple items => do
    let items ← printAll .standalone items
    pure (match commaSeparated items with
      | none => "()"
      | some items => "( " ++ items ++ " )")
  | _, .record fields extension => do
    let fields ← printFields fields
    pure (braces (commaSeparated fields) extension)
  | _, .foreign value => throw value.fault

/-- The texts of several types, all at one position. -/
def printAll : Position → List TypeExpr → Except Fault (List String)
  | _, [] => pure []
  | position, type :: types => do
    let text ← print position type
    let texts ← printAll position types
    pure (text :: texts)

/-- The texts of a record's fields: the name, a colon with a blank on either
side, the type. -/
def printFields : List (String × TypeExpr) → Except Fault (List String)
  | [] => pure []
  | (name, type) :: fields => do
    let text ← print .standalone type
    let texts ← printFields fields
    pure ((name ++ " : " ++ text) :: texts)

end

end TypeExpr

/-- A way to print types, in a monad `m` of the caller's: it may keep a record
of what it was asked, or fail. -/
abbrev TypePrinter (m : Type → Type) := Position → TypeExpr → m String

/-- The printer that is used where none is passed. -/
def TypePrinter.standard {m : Type → Type} [MonadLiftT (Except Fault) m] : TypePrinter m :=
  fun position type => liftM (type.print position)

end SyntaxReports
