/-!
# Timings: what the runs took

The duration of every run is measured in nanoseconds. `Timing.lines` gives the
usual figures over all runs, in seconds, and how many reports a second were
written on average.
-/

namespace SyntaxReports.Timing

/-- A fraction with some decimal places, cut off behind them. -/
def decimal (places numerator denominator : Nat) : String :=
  let unit := Nat.pow 10 places
  let scaled := numerator * unit / denominator
  let fraction := toString (scaled % unit)
  toString (scaled / unit) ++ "." ++
    String.ofList (List.replicate (places - fraction.length) '0') ++ fraction

/-- The nanoseconds in a second. -/
def second : Nat := 1000000000

/-- A duration in seconds. -/
def seconds (nanoseconds : Nat) : String :=
  decimal 4 nanoseconds second ++ "s"

/-- The middle one of some durations, or the mean of the two in the middle. -/
def median (durations : List Nat) : Nat :=
  let sorted := durations.mergeSort
  let half := sorted.length / 2
  if sorted.length % 2 = 1 then sorted.getD half 0
  else (sorted.getD (half - 1) 0 + sorted.getD half 0) / 2

/-- The mean of some durations. -/
def mean (durations : List Nat) : Nat :=
  durations.foldl (· + ·) 0 / durations.length

/-- The figures over some runs, each of which wrote so many reports. -/
def lines (reports : Nat) (durations : List Nat) : List String :=
  ["Best:   " ++ seconds (durations.min?.getD 0),
    "Median: " ++ seconds (median durations),
    "Mean:   " ++ seconds (mean durations),
    "Worst:  " ++ seconds (durations.max?.getD 0),
    "Reports/s (mean): " ++ decimal 1 (reports * second) (mean durations)]

end SyntaxReports.Timing
