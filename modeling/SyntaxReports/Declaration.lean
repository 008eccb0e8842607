import SyntaxReports.Doc
import SyntaxReports.Generator
import SyntaxReports.TypeExpr.Print

/-!
# Declarations: types with a name, written out

A declaration gives a name and variables to a type. What it defines is either a
synonym for another type or a union of constructors, each with arguments.

The types in a declaration are a parameter, so that a declaration exists in two
forms: over types, `Declaration TypeExpr`, and over their texts,
`Declaration String`. Printing goes from the one to the other
(`Declaration.traverse`, which visits the types in the order they are written,
those of a constructor in a generator), then lays the texts out
(`Declaration.text`). The layout is a plain function of names, texts and indent
and knows nothing of types or printers.
-/

namespace SyntaxReports

/-- One alternative of a union. -/
structure Constructor (α : Type) where
  /-- the name before the arguments -/
  name : String
  /-- the arguments, in order -/
  args : List α

/-- What a declaration says its type is. -/
inductive Definition (α : Type) where
  /-- another name for a type -/
  | synonym (type : α)
  /-- a type of its own, with these alternatives -/
  | union (constructors : List (Constructor α))

/-- A declaration of a type. -/
structure Declaration (α : Type) where
  /-- the name that is declared -/
  name : String
  /-- the variables that are listed after it -/
  vars : List String
  /-- what it is -/
  definition : Definition α

/-! ## From types to their texts -/

section Traverse

variable {m : Type → Type} [Monad m] [MonadGenerator m] {α β : Type}

/-- The constructor with every argument replaced, in order and on demand: it is a
generator that the new arguments come from. -/
def Constructor.traverse (f : α → m β) (c : Constructor α) : m (Constructor β) := do
  let args ← c.args.mapM fun arg => inGenerator (f arg)
  pure ⟨c.name, args⟩

/-- The definition with every type in it replaced, in order. A synonym is a type
on its own; the arguments of constructors are at the position of arguments. -/
def Definition.traverse (f : Position → α → m β) : Definition α → m (Definition β)
  | .synonym type => do
    let type ← f .standalone type
    pure (.synonym type)
  | .union constructors => do
    let constructors ← constructors.mapM (Constructor.traverse (f .argument))
    pure (.union constructors)

/-- The declaration with every type in it replaced, in order. -/
def Declaration.traverse (f : Position → α → m β) (d : Declaration α) : m (Declaration β) := do
  let definition ← d.definition.traverse f
  pure ⟨d.name, d.vars, definition⟩

end Traverse

/-! ## Layout -/

/-- The constructor in one row: its name and its arguments. -/
def Constructor.doc (c : Constructor String) : Doc :=
  Doc.hsep (Doc.ofText c.name :: c.args.map Doc.ofText)

/-- The constructor as an alternative, behind its mark. -/
def Constructor.alternative (mark : String) (c : Constructor String) : Doc :=
  (Doc.ofText mark).beside c.doc

namespace Definition

/-- The words before the declared name. -/
def keyword {α : Type} : Definition α → String
  | .synonym _ => "type alias"
  | .union _ => "type"

/-- The words after the variables: a synonym has its equals sign there, a union
before its first constructor. -/
def closing {α : Type} : Definition α → List String
  | .synonym _ => ["="]
  | .union _ => []

/-- What comes below the header: the type of a synonym, or the alternatives of a
union, the first behind an equals sign and the others behind a bar. -/
def body : Definition String → Doc
  | .synonym text => Doc.ofText text
  | .union [] => Doc.empty
  | .union (first :: others) =>
    Doc.vcat (first.alternative "=" :: others.map (·.alternative "|"))

end Definition

namespace Declaration

/-- The first row: keyword, name and variables. -/
def header {α : Type} (d : Declaration α) : Doc :=
  Doc.hsep ((d.definition.keyword :: d.name :: d.vars ++ d.definition.closing).map Doc.ofText)

/-- The declaration laid out, its body hung below its header. -/
def doc (indent : Nat) (d : Declaration String) : Doc :=
  d.header.hang indent d.definition.body

/-- The declaration as text. -/
def text (indent : Nat) (d : Declaration String) : String :=
  (d.doc indent).render

/-- The indent where none is asked for. -/
def standardIndent : Nat := 4

/-- The declaration as text, its types printed by `printer`. All of them are
printed before the indent is looked at, so a failing printer comes before a
negative indent. -/
def print {m : Type → Type} [Monad m] [MonadLiftT (Except Fault) m] [MonadGenerator m]
    (printer : TypePrinter m) (indent : Int) (d : Declaration TypeExpr) : m String := do
  let printed ← d.traverse printer
  let n ← liftM (Doc.checkIndent indent)
  pure (printed.text n)

end Declaration

end SyntaxReports
