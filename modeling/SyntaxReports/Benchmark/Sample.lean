import SyntaxReports.Report

/-!
# Samples: failures of every kind, made up by number

To see how fast reports are written one needs many failures. `Sample.failure`
makes one for every number, and the kinds take turns, so that any stretch of nine
has one of each. A sample of some size is the failures of the numbers below it,
which makes a smaller sample the beginning of a larger one.

`Sample.total` is the number of characters in all reports on a sample: the same
on every run, so it shows that the runs did the same work.
-/

namespace SyntaxReports.Sample

/-- The constructors of the union in a sample: each has the type variable `var`
in a list. -/
def constructors (count : Nat) (var : String) : List (Constructor TypeExpr) :=
  (List.range count).map fun j =>
    ⟨"Ctor" ++ toString j, [.app (.con "List") [.var var]]⟩

/-- The synonym in a sample: a record with a function from a listed variable to
the unlisted one. -/
def runner (var : String) : TypeExpr :=
  .record [("run", .arrow (.var "a") (.var var))] none

/-- The failure of a number. Its kind comes from the remainder by nine, its names
from the number itself; a union gets `unionSize` constructors. -/
def failure (unionSize i : Nat) : Failure :=
  let name := "name" ++ toString i
  let typeName := "Name" ++ toString i
  let var := "t" ++ toString i
  match i % 9 with
  | 0 => .parse [.systemUnexpected "end of input", .unexpected ("\x60" ++ name ++ "\x60"),
      .expected "an expression"]
  | 1 => .operatorRedeclared (if i % 2 = 1 then "<|" else "mod")
  | 2 => .missingDefinition name
  | 3 => .unannotatedPort name
  | 4 => .duplicate .topLevelValue name
  | 5 => .duplicate .type typeName
  | 6 => .duplicate .localValue name
  | 7 => .unboundVars ⟨typeName, ["a"], var, [], .synonym (runner var)⟩
  | _ => .unboundVars ⟨typeName, [], var, [], .union (constructors unionSize var)⟩

/-- The sample of a size; a size below zero is none. -/
def failures (size unionSize : Int) : List Failure :=
  (List.range size.toNat).map (failure unionSize.toNat)

/-- The reports on a sample, under standard settings. -/
def reports (size unionSize : Int) : Except Fault (List Report) :=
  (failures size unionSize).mapM fun f => f.report

/-- The number of characters in a report. -/
def reportSize (r : Report) : Nat := r.title.length + r.body.length

/-- The number of characters in several reports. -/
def totalSize (reports : List Report) : Nat := reports.foldr (fun r n => reportSize r + n) 0

/-- The number of characters in all reports on a sample. -/
def total (size unionSize : Int) : Except Fault Nat := do
  let reports ← reports size unionSize
  pure (totalSize reports)

end SyntaxReports.Sample
