import SyntaxReports.Proofs.DeclarationLines
import SyntaxReports.Report

/-!
# The suggestion in a report: the declaration as it was printed

A report on unlisted variables ends in the completed declaration, moved to the right. It is moved as
text and cut wherever a line may end, while the layout that it comes from has its lines from the
start. `UnboundVars.report_body_eq` says that both have the same lines, so that the declaration can be
taken from the report again.

Two things could make a difference: a line end other than the newline, and an empty line at the end,
which is no line when it is cut off behind a line end. Neither comes from the layout, so there is
none as long as names and types bring none in.
-/

namespace SyntaxReports

/-- A text that is made of whole lines: the last one is not empty, and all others end in a newline. -/
structure IsWholeLines (text : String) : Prop where
  /-- there is a line -/
  ne_empty : text ≠ ""
  /-- the last line is not empty -/
  last : text.toList.getLast? ≠ some '\n'
  /-- lines end in newlines only -/
  newline : ∀ c ∈ text.toList, LineEnd.isEnd c = true → c = '\n'

theorem IsWholeLines.closed {text : String} (h : IsWholeLines text) : (Doc.ofText text).Closed := by
  intro hlast
  obtain ⟨above, hlines⟩ := List.getLast?_eq_some_iff.mp hlast
  rw [Doc.lines_ofText] at hlines
  have htext : text = Line.join (above ++ [""]) := by rw [← hlines, Line.join_ofText]
  by_cases habove : above = []
  · exact h.ne_empty (by rw [htext, habove]; rfl)
  · apply h.last
    rw [htext, Line.join, String.intercalate_append_of_ne_nil habove (List.cons_ne_nil _ _),
      String.intercalate_singleton, String.append_empty, String.toList_append]
    exact List.getLast?_concat

namespace Report

/-- The snippet of a text without lines is empty, and any other begins with a newline. -/
theorem snippet_eq {indent : Int} {text : String} (h : LineEnd.lines text ≠ []) :
    snippet indent text =
      "\n" ++ Line.join ((LineEnd.lines text).map (Line.shift indent.toNat)) := by
  have hmap : (LineEnd.lines text).map (Line.shift indent.toNat) ≠ [] :=
    fun hnil => h (List.map_eq_nil_iff.mp hnil)
  rw [snippet, ← Line.join_newlines hmap, List.map_map]
  rfl

/-- Lines that are found again are moved each behind a newline. -/
theorem snippet_join {lines : List String} (hne : lines ≠ [])
    (hlines : LineEnd.lines (Line.join lines) = lines) (n : Nat) :
    snippet n (Line.join lines) = "\n" ++ Line.join (lines.map (Line.shift n)) := by
  rw [snippet_eq (by rwa [hlines]), hlines, Int.toNat_natCast]

end Report

namespace Declaration

variable {d : Declaration String}

theorem newline_not_mem_names (h : ∀ name ∈ d.names, LineEnd.Unbroken name.toList) :
    ∀ name ∈ d.names, '\n' ∉ name.toList :=
  fun name hname => (h name hname).newline_not_mem

/-- The lines of a declaration are found again in its text whichever way lines may end. -/
theorem lines_text (hnames : ∀ name ∈ d.names, LineEnd.Unbroken name.toList)
    (htypes : ∀ q ∈ d.definition.types, IsWholeLines q.2) (m : Nat) :
    LineEnd.lines (d.text m) = (d.doc m).lines := by
  refine LineEnd.lines_join ?_ ?_
  · exact unbroken_doc hnames (fun q hq => (htypes q hq).newline) m
  · exact closed_doc (newline_not_mem_names hnames) (fun q hq => (htypes q hq).closed) m

/-- Moving the text of a declaration to the right is moving its lines. -/
theorem snippet_text (hnames : ∀ name ∈ d.names, LineEnd.Unbroken name.toList)
    (htypes : ∀ q ∈ d.definition.types, IsWholeLines q.2) (m n : Nat) :
    Report.snippet n (d.text m) = "\n" ++ ((Doc.ofText (d.text m)).nest n).render := by
  calc Report.snippet n (d.text m)
      = "\n" ++ Line.join ((d.doc m).lines.map (Line.shift n)) :=
        Report.snippet_join (lines_ne_nil d m) (lines_text hnames htypes m) n
    _ = "\n" ++ ((Doc.ofText (d.text m)).nest n).render := by
        rw [Doc.render, Doc.lines_nest, Doc.lines_ofText, ofText_text]

end Declaration

namespace UnboundVars

variable {printer : TypePrinter (Except Fault)} {texts : Position → TypeExpr → String}
  {u : UnboundVars}

/-- The report under settings with a printer that answers. -/
theorem report_eq (hprinter : printer.Answers texts u.definition) (n : Nat) :
    (do let settings ← Settings.make printer n
        (Failure.unboundVars u).report (some settings)) =
      .ok (Report.unboundVars u.typeName u.first u.rest ((u.completed.map texts).text n) n) := by
  have htraverse : u.completed.traverse printer = .ok (u.completed.map texts) :=
    TypePrinter.Answers.traverse_eq (d := u.completed) hprinter
  change u.report ⟨printer, n⟩ = _
  rw [report, htraverse]
  rfl

/-- **The report embeds the declaration.** Below the introduction, which ends in a question, and an
empty line stands the completed declaration, `n` columns further to the right. Moving each line back
gives the lines of the declaration, of which none is lost, merged or new. -/
theorem report_body_eq (hprinter : printer.Answers texts u.definition)
    (hnames : ∀ name ∈ u.completed.names, LineEnd.Unbroken name.toList)
    (htexts : ∀ p ∈ u.definition.types, IsWholeLines (texts p.1 p.2)) (n : Nat) :
    ∃ corrected report,
      u.completed.print printer n = .ok corrected ∧
      (do let settings ← Settings.make printer n
          (Failure.unboundVars u).report (some settings)) = .ok report ∧
      report.body =
        "All type variables must be listed to avoid sneaky type errors.\n" ++
          "Imagine one '" ++ u.typeName ++ "' where '" ++ u.first ++ "' is an Int and\n" ++
          "another where it is a Bool. They both look like a '" ++ u.typeName ++ "'\n" ++
          "to the type checker, but they are actually different types!\n\n" ++
          "Maybe you want a definition like this?\n" ++
          "\n" ++ ((Doc.ofText corrected).nest n).render ∧
      (Line.ofText ((Doc.ofText corrected).nest n).render).map (Line.outdent n) =
        Line.ofText corrected := by
  have hprinted : ∀ name ∈ (u.completed.map texts).names, LineEnd.Unbroken name.toList := by
    rw [Declaration.names_map]
    exact hnames
  have htypes : ∀ q ∈ (u.completed.map texts).definition.types, IsWholeLines q.2 := by
    rw [Declaration.map, Definition.types_map, List.forall_mem_map]
    exact htexts
  refine ⟨_, _, hprinter.print_eq (d := u.completed) n, report_eq hprinter n, ?_,
    Doc.outdent_nest n _⟩
  change Report.unboundIntroduction u.typeName u.first ++
    Report.snippet n ((u.completed.map texts).text n) = _
  rw [Declaration.snippet_text hprinted htypes n n, ← String.append_assoc]
  rfl

/-- A printer that answers three lines, of which one is empty, for each of two arguments. -/
theorem report_body_threeLines :
    let printer : TypePrinter (Except Fault) := fun _ _ => .ok "( a,\n\n b )"
    let u : UnboundVars := ⟨"Pair", [], "a", ["b"], .union [⟨"Pair", [.var "a", .var "b"]⟩]⟩
    let corrected := "type Pair a b\n  = Pair ( a,\n\n          b ) ( a,\n\n               b )"
    u.completed.print printer 2 = .ok corrected ∧
      ∃ report,
        (do let settings ← Settings.make printer 2
            (Failure.unboundVars u).report (some settings)) = .ok report ∧
        report.body =
          "All type variables must be listed to avoid sneaky type errors.\n" ++
            "Imagine one 'Pair' where 'a' is an Int and\n" ++
            "another where it is a Bool. They both look like a 'Pair'\n" ++
            "to the type checker, but they are actually different types!\n\n" ++
            "Maybe you want a definition like this?\n" ++
            "\n  type Pair a b\n    = Pair ( a,\n\n            b ) ( a,\n\n                 b )" ∧
        (Line.ofText ((Doc.ofText corrected).nest 2).render).map (Line.outdent 2) =
          Line.ofText corrected := by
  intro printer u corrected
  have hprinter : printer.Answers (fun _ _ => "( a,\n\n b )") u.definition := fun _ _ => rfl
  have hnames : ∀ name ∈ u.completed.names, LineEnd.Unbroken name.toList := by
    decide
  have htexts : ∀ p ∈ u.definition.types, IsWholeLines "( a,\n\n b )" :=
    fun _ _ => ⟨by decide, by decide, by simp [LineEnd.isEnd]⟩
  have hcorrected : u.completed.print printer 2 = .ok corrected :=
    (hprinter.print_eq (d := u.completed) 2).trans (congrArg Except.ok (by decide))
  obtain ⟨corrected', report, hprint, hreport, hbody, houtdent⟩ :=
    report_body_eq hprinter hnames htexts 2
  obtain rfl : corrected' = corrected := Except.ok.inj (hprint.symm.trans hcorrected)
  refine ⟨hcorrected, report, hreport, ?_, houtdent⟩
  rw [hbody]
  decide +kernel

end UnboundVars

end SyntaxReports
