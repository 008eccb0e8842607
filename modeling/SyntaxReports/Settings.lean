import SyntaxReports.Declaration

/-!
# Settings: how reports are written

Two things can be chosen: the printer for types and the indent of suggested
declarations. Settings are only made with an indent that is not negative
(`Settings.make`), so nothing that has settings needs to look at it again.

A report is asked for with settings, with a printer alone, or with neither.
`Settings.choose` turns these into settings and refuses both at once.
-/

namespace SyntaxReports

/-- How reports are written. -/
structure Settings (m : Type → Type) where
  /-- prints the types -/
  printer : TypePrinter m
  /-- moves suggested declarations and their bodies to the right -/
  indent : Nat

namespace Settings

variable {m : Type → Type}

/-- Settings with a chosen printer and the indent of declarations. -/
def withPrinter (printer : TypePrinter m) : Settings m := ⟨printer, Declaration.standardIndent⟩

/-- Settings where nothing is chosen. -/
def standard [MonadLiftT (Except Fault) m] : Settings m := withPrinter .standard

/-- Settings with a chosen printer and indent. -/
def make (printer : TypePrinter m) : (indent : Int) → Except Fault (Settings m)
  | .ofNat n => pure ⟨printer, n⟩
  | .negSucc _ => throw .negativeSetting

/-- The settings that a report is asked for with. -/
def choose [MonadLiftT (Except Fault) m] (settings? : Option (Settings m))
    (printer? : Option (TypePrinter m)) : Except Fault (Settings m) :=
  match settings?, printer? with
  | some _, some _ => throw .twoPrinters
  | some settings, none => pure settings
  | none, some printer => pure (withPrinter printer)
  | none, none => pure standard

end Settings

end SyntaxReports
