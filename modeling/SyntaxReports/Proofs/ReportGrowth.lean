import SyntaxReports.Proofs.ConstructorLines
import SyntaxReports.Proofs.ReportCalls
import SyntaxReports.Proofs.ReportSuggestion

/-!
# Growth: a report with one constructor more

A report on a union shows the union with all of its constructors. With a further one below the others,
the suggestion goes on by one line, which is moved to the right twice: inside the declaration, and with
all of it (`Report.snippet_union_concat`). Nothing above that line changes.

This is stated of texts. That under standard settings a report is made of texts, with nothing that
could be refused, is `Failure.report_eq_standardReport`.
-/

namespace SyntaxReports

/-! ## Reports under standard settings -/

/-- The report on a failure under standard settings, if there is nothing foreign in it. -/
def Failure.standardReport : Failure → Report
  | .parse messages => .parseFailure (Message.text messages)
  | .operatorRedeclared operator => .operatorRedeclared operator
  | .missingDefinition name => .missingDefinition name
  | .unannotatedPort name => .unannotatedPort name
  | .duplicate binding name => .duplicate binding name
  | .unboundVars u => .unboundVars u.typeName u.first u.rest
      ((u.completed.map TypeExpr.text).text Declaration.standardIndent) Declaration.standardIndent
  | .foreign _ => ⟨"", ""⟩

theorem Failure.report_eq_standardReport {failure : Failure} (h : failure.foreigns = [])
    (htypes : ∀ call ∈ failure.calls, call.2.foreigns = []) :
    failure.report = (.ok failure.standardReport : Except Fault Report) := by
  cases failure with
  | parse messages =>
    have hhints : Message.hints messages = .ok (Message.text messages) := by
      rw [Message.hints_eq]
      exact congrArg (TypeExpr.refuseFirst · (Message.text messages)) h
    change (do let hints ← Message.hints messages; pure (Report.parseFailure hints)) = _
    rw [hhints]
    rfl
  | foreign value => cases h
  | unboundVars u =>
    exact UnboundVars.report_eq (TypePrinter.standard_answers htypes) Declaration.standardIndent
  | _ => rfl

/-! ## One constructor more -/

/-- The block of a constructor in one row is that row. -/
theorem Constructor.lines_eq_row {c : Constructor String} (hc : c.IsRow) (n : Nat) (first : Bool) :
    c.lines n first = [Line.shift n (c.row (if first then "=" else "|"))] := by
  obtain ⟨hmark, -⟩ := Definition.marks_single _ (mark_mem_marks first)
  rw [lines, alternative_eq hmark hc, Doc.lines_nest, List.map_singleton]

/-- Text without a line end is a single line. -/
theorem LineEnd.Unbroken.isWholeLines {text : String} (h : Unbroken text.toList) (hne : text ≠ "") :
    IsWholeLines text where
  ne_empty := hne
  last hlast := h.newline_not_mem (List.mem_of_getLast? hlast)
  newline c hc hend := absurd hend (by rw [h c hc]; decide)

namespace Declaration

variable {name : String} {vars : List String} {above : List (Constructor String)}
  {c : Constructor String}

theorem lines_union_concat (hc : c.IsRow) (n : Nat) :
    (doc n ⟨name, vars, .union (above ++ [c])⟩).lines =
      (doc n ⟨name, vars, .union above⟩).lines ++
        [Line.shift n (c.row (if above.isEmpty then "=" else "|"))] := by
  rw [lines_union_append, Constructor.linesAll, Constructor.linesAll, List.flatten_singleton,
    Constructor.lines_eq_row hc]

theorem names_union_append (above below : List (Constructor String)) :
    names ⟨name, vars, .union (above ++ below)⟩ =
      names ⟨name, vars, .union above⟩ ++ below.map Constructor.name := by
  rw [names, names, Definition.names, Definition.names, List.map_append, List.append_assoc]

end Declaration

namespace Report

variable {name : String} {vars : List String} {above : List (Constructor String)}
  {c : Constructor String}

/-- With a constructor more, the suggestion goes on by its row, behind a newline and moved twice. -/
theorem snippet_union_concat
    (hnames : ∀ word ∈ Declaration.names ⟨name, vars, .union (above ++ [c])⟩,
      LineEnd.Unbroken word.toList)
    (htypes : ∀ q ∈ (Definition.union (above ++ [c])).types, IsWholeLines q.2)
    (hc : c.IsRow) (m n : Nat) :
    snippet n (Declaration.text m ⟨name, vars, .union (above ++ [c])⟩) =
      snippet n (Declaration.text m ⟨name, vars, .union above⟩) ++
        ("\n" ++ Line.shift (n + m) (c.row (if above.isEmpty then "=" else "|"))) := by
  have hlines := Declaration.lines_text (d := ⟨name, vars, .union (above ++ [c])⟩) hnames htypes m
  have habove : LineEnd.lines (Declaration.text m ⟨name, vars, .union above⟩) =
      (Declaration.doc m ⟨name, vars, .union above⟩).lines := by
    rw [Declaration.names_union_append] at hnames
    rw [Definition.types_append] at htypes
    exact Declaration.lines_text (List.forall_mem_append.mp hnames).1
      (List.forall_mem_append.mp htypes).1 m
  rw [snippet, hlines, Declaration.lines_union_concat hc, List.map_append, List.map_singleton,
    String.join_append, String.join_cons, String.join_nil, String.append_empty, ← habove,
    Int.toNat_natCast, Line.shift_shift]
  rfl

end Report

end SyntaxReports
