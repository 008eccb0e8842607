import SyntaxReports.Benchmark.Summary
import SyntaxReports.Benchmark.Timing

/-!
# The command line: reports on a sample, timed

The program reads its arguments, writes the reports on a sample as often as they
say, and prints the summary and the timings. What it asks for and what it prints
are decided by `Arguments`, `Summary` and `Timing`; here it is only done.
-/

namespace SyntaxReports.CommandLine

/-- How the command line is written. -/
def usage : List String :=
  ["usage: syntax-reports [-h] [--facts FACTS] [--constructors CONSTRUCTORS] [--runs RUNS]",
    "                      [--warmups WARMUPS] [--no-progress] [--profile]",
    "                      [--profile-top PROFILE_TOP] [--profile-sort PROFILE_SORT]"]

/-- One run over a sample, in nanoseconds. -/
def run (args : Arguments) (label : String) : IO Nat := do
  if args.progress then IO.eprintln label
  let start ← IO.monoNanosNow
  match Sample.total args.facts args.constructors with
  | .ok characters => if args.progress then IO.eprintln (toString characters ++ " characters")
  | .error fault => throw (IO.userError fault.message)
  let stop ← IO.monoNanosNow
  pure (stop - start)

/-- So many runs of a kind, one after the other. -/
def runs (args : Arguments) (kind : String) (count : Nat) : IO (List Nat) :=
  (List.range count).mapM fun i =>
    run args (kind ++ " " ++ toString (i + 1) ++ "/" ++ toString count)

/-- The whole program; its value is the exit code. -/
def program (words : List String) : IO UInt32 := do
  match Arguments.parse words with
  | .error .help =>
    usage.forM fun line => IO.println line
    pure 0
  | .error .usage =>
    usage.forM fun line => IO.eprintln line
    pure 2
  | .ok args =>
    match Summary.of args with
    | .error refusal =>
      IO.eprintln refusal.message
      pure 1
    | .ok summary =>
      let _ ← runs args "warmup" summary.warmups
      let durations ← runs args "run" summary.runs
      (summary.lines ++ Timing.lines summary.facts durations).forM fun line => IO.println line
      pure 0

end SyntaxReports.CommandLine

/-- The entry point. -/
def main (words : List String) : IO UInt32 :=
  SyntaxReports.CommandLine.program words
