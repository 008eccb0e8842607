import SyntaxReports.Failure.Basic
import SyntaxReports.Settings
import SyntaxReports.Text.LineEnd
import SyntaxReports.Text.Symbol

/-!
# Reports: failures in words

A `Report` has a title of one line and a body that explains. `Failure.report`
writes one for every failure; the wording of each kind is a definition of its
own, a plain function of the names in the failure.

Only failures over unlisted variables use the settings: their report shows the
completed declaration, with the types printed by the chosen printer. The layout
of that declaration is done by `Declaration.text`, and `Report.snippet` then
moves the result to the right as text, cut at whichever line ends the printer
may have brought in.
-/

namespace SyntaxReports

/-- What a reader is told about a failure. -/
structure Report where
  /-- the failure in one line -/
  title : String
  /-- what it means and what to do -/
  body : String
  deriving Repr, DecidableEq

namespace Report

/-! ## The wording of each kind -/

/-- The hints of the parser, under one title for all. -/
def parseFailure (hints : String) : Report where
  title := "Problem when parsing your code!"
  body := hints

/-- An operator as it stands in prose: in parentheses if it is made of symbols,
in backticks if it is a word. -/
def operatorInProse (operator : String) : String :=
  if Symbol.isSymbolic operator then "(" ++ operator ++ ")" else "\x60" ++ operator ++ "\x60"

/-- An operator's precedence is declared more than once. -/
def operatorRedeclared (operator : String) : Report where
  title := "The infix declarations for " ++ operatorInProse operator ++ " must be removed."
  body := "The precedence and associativity can only be set in one place, and\n" ++
    "this information has already been set somewhere else."

/-- A name has an annotation and no definition. -/
def missingDefinition (name : String) : Report where
  title := "There is a type annotation for '" ++ name ++
    "' but there is no corresponding definition!"
  body := "Directly below the type annotation, put a definition like:\n\n    " ++ name ++ " = 42"

/-- A port has no annotation. -/
def unannotatedPort (name : String) : Report where
  title := "Port '" ++ name ++ "' does not have a type annotation!"
  body := "Directly above the port definition, I need something like this:\n\n    port " ++ name ++
    " : Signal Int"

/-- What several bindings of a sort are called. -/
def bindingNoun : Binding → String
  | .topLevelValue => "top-level values"
  | .type => "types"
  | .localValue => "values"

/-- Where two bindings of a sort clash, if not everywhere. -/
def bindingScope : Binding → String
  | .topLevelValue => ""
  | .type => ""
  | .localValue => " in this let-expression"

/-- A name is bound twice. -/
def duplicate (binding : Binding) (name : String) : Report where
  title := "Naming multiple " ++ bindingNoun binding ++ " '" ++ name ++ "'" ++
    bindingScope binding ++ " makes things ambiguous. When you say '" ++ name ++
    "' which one do you want?!"
  body := "Find all the " ++ bindingNoun binding ++ " named '" ++ name ++ "'" ++
    bindingScope binding ++ " and\ndo some renaming. Make sure the names are distinct!"

/-! ## Unlisted variables -/

/-- Text moved to the right, each of its lines behind a newline. An indent below
zero moves nothing. -/
def snippet (indent : Int) (text : String) : String :=
  String.join ((LineEnd.lines text).map fun line => "\n" ++ Line.shift indent.toNat line)

/-- Why unlisted variables are no small matter, up to the suggestion. -/
def unboundIntroduction (typeName first : String) : String :=
  "All type variables must be listed to avoid sneaky type errors.\n" ++
  "Imagine one '" ++ typeName ++ "' where '" ++ first ++ "' is an Int and\n" ++
  "another where it is a Bool. They both look like a '" ++ typeName ++ "'\n" ++
  "to the type checker, but they are actually different types!\n\n" ++
  "Maybe you want a definition like this?\n"

/-- A declaration uses variables that it does not list; `suggestion` is the text
of one that lists them. -/
def unboundVars (typeName first : String) (rest : List String) (suggestion : String)
    (indent : Int) : Report where
  title := "Type '" ++ typeName ++ "' uses unbound type variable" ++
    (if rest.isEmpty then "" else "s") ++ ": " ++ ", ".intercalate (first :: rest)
  body := unboundIntroduction typeName first ++ snippet indent suggestion

end Report

/-! ## From a failure to its report -/

section

variable {m : Type → Type} [Monad m] [MonadLiftT (Except Fault) m] [MonadGenerator m]

/-- The report on unlisted variables. The settings' indent is used twice: inside
the suggested declaration, and to move all of it. -/
def UnboundVars.report (settings : Settings m) (u : UnboundVars) : m Report := do
  let printed ← u.completed.traverse settings.printer
  pure (Report.unboundVars u.typeName u.first u.rest (printed.text settings.indent)
    settings.indent)

/-- The report on a failure under given settings. -/
def Failure.reportUnder (settings : Settings m) : Failure → m Report
  | .parse messages => do
    let hints ← liftM (Message.hints messages)
    pure (.parseFailure hints)
  | .operatorRedeclared operator => pure (.operatorRedeclared operator)
  | .missingDefinition name => pure (.missingDefinition name)
  | .unannotatedPort name => pure (.unannotatedPort name)
  | .duplicate binding name => pure (.duplicate binding name)
  | .unboundVars u => u.report settings
  | .foreign value => liftM (throw value.fault : Except Fault Report)

/-- The report on a failure, asked for with settings, with a printer, or with
neither. Asking with both is refused before the failure is looked at. -/
def Failure.report (failure : Failure) (settings? : Option (Settings m) := none)
    (printer? : Option (TypePrinter m) := none) : m Report := do
  let settings ← liftM (Settings.choose settings? printer?)
  failure.reportUnder settings

end

end SyntaxReports
