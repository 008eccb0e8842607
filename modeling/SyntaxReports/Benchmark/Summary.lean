import SyntaxReports.Benchmark.Arguments
import SyntaxReports.Benchmark.Sample

/-!
# Summaries: what a run over a sample tells

`Summary.of` checks the arguments of a run and says what it will have done:
which sample, how many characters in its reports, how many runs. None of this
depends on how long the runs take. `Summary.lines` writes it out.
-/

namespace SyntaxReports

/-- What a run over a sample tells, its duration apart. -/
structure Summary where
  /-- whether the runs are profiled -/
  profiled : Bool
  /-- the failures in the sample -/
  facts : Nat
  /-- the characters in its reports -/
  characters : Nat
  /-- the runs that count -/
  runs : Nat
  /-- the runs before them -/
  warmups : Nat
  deriving Repr, DecidableEq

namespace Summary

/-- Why there is no summary. -/
inductive Refusal where
  /-- the sample would have no failures -/
  | invalidFacts (facts : Int)
  /-- the unions would have fewer than no constructors -/
  | invalidConstructors (constructors : Int)
  /-- the reports cannot be written -/
  | fault (reason : Fault)
  deriving Repr, DecidableEq

/-- The wording of a refusal. -/
def Refusal.message : Refusal → String
  | .invalidFacts facts => "Invalid --facts: " ++ toString facts
  | .invalidConstructors constructors => "Invalid --constructors: " ++ toString constructors
  | .fault reason => reason.message

/-- The summary of a run. There is always one run that counts, and never less than
no run before it. -/
def of (args : Arguments) : Except Refusal Summary :=
  if args.facts ≤ 0 then throw (.invalidFacts args.facts)
  else if args.constructors < 0 then throw (.invalidConstructors args.constructors)
  else match Sample.total args.facts args.constructors with
  | .error reason => throw (.fault reason)
  | .ok characters => pure {
      profiled := args.profile
      facts := args.facts.toNat
      characters
      runs := (max args.runs 1).toNat
      warmups := (max args.warmups 0).toNat }

/-- A summary in lines. -/
def lines (s : Summary) : List String :=
  (if s.profiled then ["[cProfile top functions]"] else []) ++
    ["Facts: " ++ toString s.facts,
      "Rendered chars per run: " ++ toString s.characters,
      "Runs: " ++ toString s.runs ++ " (warmups=" ++ toString s.warmups ++ ")"]

end Summary

end SyntaxReports
