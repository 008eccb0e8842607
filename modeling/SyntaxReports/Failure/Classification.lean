import SyntaxReports.Failure.Basic

/-!
# Classification: a fixed code for every kind of failure

Tools that read reports do not go by their wording. For them every kind of
failure has a code of its own; all of them are errors, and all are about syntax.
-/

namespace SyntaxReports

/-- How a failure is filed. -/
structure Classification where
  /-- the code of its kind -/
  code : String
  /-- how grave it is -/
  severity : String := "error"
  /-- which stage found it -/
  category : String := "syntax"
  deriving Repr, DecidableEq

/-- The code of each kind of failure. -/
def Failure.code : Failure → Except Fault String
  | .parse _ => pure "SYNTAX_PARSE_FAILURE"
  | .operatorRedeclared _ => pure "SYNTAX_INFIX_REDECLARED"
  | .missingDefinition _ => pure "SYNTAX_ANNOTATION_WITHOUT_DEFINITION"
  | .unannotatedPort _ => pure "SYNTAX_PORT_WITHOUT_ANNOTATION"
  | .duplicate .topLevelValue _ => pure "SYNTAX_DUPLICATE_VALUE"
  | .duplicate .type _ => pure "SYNTAX_DUPLICATE_TYPE"
  | .duplicate .localValue _ => pure "SYNTAX_DUPLICATE_LOCAL_DEFINITION"
  | .unboundVars ⟨_, _, _, _, .synonym _⟩ => pure "SYNTAX_UNBOUND_ALIAS_VARS"
  | .unboundVars ⟨_, _, _, _, .union _⟩ => pure "SYNTAX_UNBOUND_UNION_VARS"
  | .foreign value => throw value.fault

/-- How a failure is filed: under the code of its kind. -/
def Failure.classification (failure : Failure) : Except Fault Classification := do
  let code ← failure.code
  pure { code }

end SyntaxReports
