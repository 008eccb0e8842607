import SyntaxReports.Declaration
import SyntaxReports.Message

/-!
# Failures: what can be wrong with the syntax of a program

A `Failure` says which rule a program breaks and with which names, and nothing
about how that is put to the reader. There are nine kinds: the program does not
parse; an operator's precedence is declared again; an annotation has no
definition, a port no annotation; a top-level value, a type or a local value is
named twice; and a synonym or a union uses type variables that it does not list.

For the last two the failure carries the declaration (`UnboundVars`), since the
way out is to write it again with every variable listed.
-/

namespace SyntaxReports

/-- What a name that occurs twice is bound to. -/
inductive Binding where
  /-- a value of the module -/
  | topLevelValue
  /-- a type -/
  | type
  /-- a value of one let-expression -/
  | localValue
  deriving Repr, DecidableEq

/-- A declaration that uses variables it does not list. There is at least one
such variable, hence a first. -/
structure UnboundVars where
  /-- the declared name -/
  typeName : String
  /-- the variables that are listed -/
  explicit : List String
  /-- the first variable that is not -/
  first : String
  /-- the other variables that are not -/
  rest : List String
  /-- what is declared -/
  definition : Definition TypeExpr

namespace UnboundVars

/-- The variables that are used and not listed. -/
def unbound (u : UnboundVars) : List String := u.first :: u.rest

/-- All variables: the listed ones, then the others. -/
def all (u : UnboundVars) : List String := u.explicit ++ u.unbound

/-- The declaration as it should have been: all variables listed. -/
def completed (u : UnboundVars) : Declaration TypeExpr :=
  ⟨u.typeName, u.all, u.definition⟩

end UnboundVars

/-- What is wrong with a program. -/
inductive Failure where
  /-- it does not parse, and the parser said this -/
  | parse (messages : List Message)
  /-- the precedence of an operator is declared more than once -/
  | operatorRedeclared (operator : String)
  /-- a name has an annotation and no definition -/
  | missingDefinition (name : String)
  /-- a port has no annotation -/
  | unannotatedPort (name : String)
  /-- a name is bound twice -/
  | duplicate (binding : Binding) (name : String)
  /-- a declaration uses variables that it does not list -/
  | unboundVars (declaration : UnboundVars)
  /-- something that is no failure -/
  | foreign (value : Foreign)

end SyntaxReports
