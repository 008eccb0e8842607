import SyntaxReports.Foreign

/-!
# Faults: the ways a request can be refused

Four things stop this library from answering. Two are negative indents, told
apart by where the indent came from; one is a caller that names its printer
twice; the last is a foreign value in a place that has to be looked at. That
value is to be quoted, and if it cannot be written the fault is over its digits
(`Foreign.fault`). Each is a constructor of `Fault`, and `Fault.message` holds the
whole wording.
-/

namespace SyntaxReports

/-- Why no answer is given. -/
inductive Fault where
  /-- a block of lines was to be indented by less than nothing -/
  | negativeIndent
  /-- settings were to be made with an indent below zero -/
  | negativeSetting
  /-- both settings and a printer of its own were passed for one report -/
  | twoPrinters
  /-- a foreign value stood where a known form had to be told apart -/
  | unrecognized (value : Foreign)
  /-- a foreign value did, and has too many digits to be named -/
  | tooManyDigits
  deriving Repr, DecidableEq

/-- The fault over a foreign value. It names the value, which fails on a number
that cannot be written. -/
def Foreign.fault (value : Foreign) : Fault :=
  if value.isWritable then .unrecognized value else .tooManyDigits

/-- The wording of a fault. Only the fault over a foreign value has something
of its own to say: which value it was. -/
def Fault.message : Fault → String
  | .negativeIndent => "Doc indent cannot be negative"
  | .negativeSetting => "fixit_indent cannot be negative"
  | .twoPrinters => "Pass either options or type_printer, not both"
  | .unrecognized value => "Expected code to be unreachable, but got: " ++ value.excerpt
  | .tooManyDigits => "Exceeds the limit (" ++ toString Digit.maxDigits ++
    " digits) for integer string conversion; use sys.set_int_max_str_digits() to increase the limit"

/-- What is said of indents and of printers. -/
theorem Fault.map_message :
    [negativeIndent, negativeSetting, twoPrinters].map message =
      ["Doc indent cannot be negative", "fixit_indent cannot be negative",
        "Pass either options or type_printer, not both"] := rfl

/-- What is said of a foreign value: which one it was, or that it has too many
digits. -/
theorem Foreign.message_fault (value : Foreign) :
    value.fault.message =
      if value.isWritable then "Expected code to be unreachable, but got: " ++ value.excerpt
      else "Exceeds the limit (4300 digits) for integer string conversion; " ++
        "use sys.set_int_max_str_digits() to increase the limit" := by
  unfold fault
  split
  · rfl
  · decide +kernel

end SyntaxReports
