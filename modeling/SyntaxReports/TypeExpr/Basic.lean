import SyntaxReports.Foreign

/-!
# Type expressions: what a declaration says a value is

The types of an ML-like language, as they are written in declarations:
variables, constants, applications, arrows, tuples and records. Nothing is
checked about the names, which may be any text, the empty one included.

Two shapes look alike and are not: a record may extend a row variable whose
name is empty, which differs from a record that extends nothing, and an
application may have no arguments, which differs from its head as a tree
although it is printed like it.
-/

namespace SyntaxReports

/-- A type as it is written in a declaration. -/
inductive TypeExpr where
  /-- a type variable -/
  | var (name : String)
  /-- a named type -/
  | con (name : String)
  /-- a type applied to arguments -/
  | app (head : TypeExpr) (args : List TypeExpr)
  /-- a function type -/
  | arrow (arg result : TypeExpr)
  /-- a tuple, of any size -/
  | tuple (items : List TypeExpr)
  /-- a record: named fields, on top of a row variable if there is one -/
  | record (fields : List (String × TypeExpr)) (extension : Option String)
  /-- something that is no type -/
  | foreign (value : Foreign)

/-- Where a type is printed. -/
inductive Position where
  /-- on its own, or between delimiters that keep it together -/
  | standalone
  /-- as one word among others: a compound type needs parentheses here -/
  | argument
  deriving Repr, DecidableEq

end SyntaxReports
