import SyntaxReports.Message
import SyntaxReports.Proofs.Lines
import SyntaxReports.Proofs.TypeText

/-!
# Hints: the line of each message, and what is no message

Like the printer of types, `Message.hints` puts a text together and looks out for foreign values at
the same time. `Message.hints_eq` takes the two apart: the text is made of a line for each message
(`Message.line`), and the first thing that is no message is what the hints are refused with. The text
is never empty (`Message.text_ne_empty`).
-/

namespace SyntaxReports.Message

open TypeExpr (refuseFirst refuseFirst_bind refuseFirst_pure)

/-- The foreign value that stands in the place of a message, if there is one. -/
def foreign? : Message → Option Foreign
  | .foreign value => some value
  | _ => none

/-- The line for a message. What is no message has none. -/
def line : Message → String
  | .systemUnexpected text => "SysUnExpect: " ++ text
  | .unexpected text => "UnExpect: " ++ text
  | .expected text => "UnExpect: " ++ text
  | .generic text => "UnExpect: " ++ text
  | .foreign _ => ""

/-- The lines for all messages, or the text that stands in for them. -/
def text : List Message → String
  | [] => noDetails
  | messages => Line.join (messages.map line)

theorem hint_eq (message : Message) :
    message.hint = refuseFirst message.foreign?.toList message.line := by
  cases message <;> rfl

theorem mapM_hint (messages : List Message) :
    messages.mapM hint = refuseFirst (messages.filterMap foreign?) (messages.map line) := by
  induction messages with
  | nil => rfl
  | cons message messages ih =>
    have hforeigns : (message :: messages).filterMap foreign? =
        message.foreign?.toList ++ messages.filterMap foreign? := by
      cases message <;> rfl
    rw [List.mapM_cons, hint_eq, ih, hforeigns]
    refine refuseFirst_bind ?_
    rw [refuseFirst_pure, List.map_cons]

/-- The hints are the text of the messages, unless there is something else among them; then they are
refused with the first of that. -/
theorem hints_eq (messages : List Message) :
    hints messages = refuseFirst (messages.filterMap foreign?) (text messages) := by
  rw [hints, mapM_hint]
  cases messages.filterMap foreign? with
  | nil => cases messages <;> rfl
  | cons value values => rfl

/-- A line says at least which sort of message it is for. -/
theorem line_ne_empty {message : Message} (h : message.foreign? = none) : message.line ≠ "" := by
  cases message with
  | foreign value => cases h
  | _ =>
    intro hempty
    exact absurd (String.append_eq_empty_iff.mp hempty).1 (by decide)

/-- The text of hints begins with the line for the first message. -/
theorem exists_text_cons (message : Message) (messages : List Message) :
    ∃ rest, text (message :: messages) = message.line ++ rest :=
  Line.exists_join_cons message.line (messages.map line)

/-- There is always something to say, even without messages. -/
theorem text_ne_empty {messages : List Message} (h : messages.filterMap foreign? = []) :
    text messages ≠ "" := by
  cases messages with
  | nil => decide
  | cons message messages =>
    obtain ⟨rest, htext⟩ := exists_text_cons message messages
    rw [htext]
    intro hempty
    exact line_ne_empty (List.filterMap_eq_nil_iff.mp h message List.mem_cons_self)
      (String.append_eq_empty_iff.mp hempty).1

end SyntaxReports.Message
