import SyntaxReports.Fault
import SyntaxReports.Text.Line

/-!
# Messages: what the parser had to say

A parser that gives up reports messages of a few kinds. `Message.hint` makes one
line of each, and `Message.hints` one text of all. The line tells only one kind
from the others: a message from the machinery of the parser itself.
-/

namespace SyntaxReports

/-- A message of the parser. -/
inductive Message where
  /-- input that the machinery of the parser did not expect -/
  | systemUnexpected (text : String)
  /-- input that the grammar did not expect -/
  | unexpected (text : String)
  /-- what the grammar expected instead -/
  | expected (text : String)
  /-- anything else -/
  | generic (text : String)
  /-- something that is no message -/
  | foreign (value : Foreign)
  deriving Repr, DecidableEq

namespace Message

/-- The line that hints at a message. -/
def hint : Message → Except Fault String
  | .systemUnexpected text => pure ("SysUnExpect: " ++ text)
  | .unexpected text => pure ("UnExpect: " ++ text)
  | .expected text => pure ("UnExpect: " ++ text)
  | .generic text => pure ("UnExpect: " ++ text)
  | .foreign value => throw value.fault

/-- The text that stands in for hints where there are no messages. -/
def noDetails : String := "No further details were reported by the parser."

/-- The hints of all messages, in their order, a line each. -/
def hints (messages : List Message) : Except Fault String := do
  match ← messages.mapM hint with
  | [] => pure noDetails
  | lines => pure (Line.join lines)

end Message

end SyntaxReports
