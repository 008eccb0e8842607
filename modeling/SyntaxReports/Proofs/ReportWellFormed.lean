import SyntaxReports.Proofs.ReportTitle

/-!
# Well-formed reports: a title of one line and a body

A report has a title and a body, and both say something (`Report.WellFormedOn`). The title should
stay on one line, which is up to the names that it shows (`Failure.shownNames`): it has a line end
exactly if one of them has. Whatever else a failure brings along, such as messages, listed variables,
constructors and the texts of types, stays out of the title.

`Failure.report_wellFormed` says this of all reports that are written: under all settings, and with
printers that may fail and remember.
-/

namespace SyntaxReports

open LineEnd

/-! ## What a title shows -/

/-- The names in the failure that a title shows. -/
def Failure.shownNames : Failure → List String
  | .parse _ => []
  | .operatorRedeclared operator => [operator]
  | .missingDefinition name => [name]
  | .unannotatedPort name => [name]
  | .duplicate _ name => [name]
  | .unboundVars u => u.typeName :: u.unbound
  | .foreign _ => []

theorem Kind.unbroken_opening (kind : Kind) : Unbroken kind.opening.toList := by
  rcases kind with _ | _ | _ | _ | ⟨_ | _ | _⟩ | _ <;> decide

theorem Kind.opening_ne_empty (kind : Kind) : kind.opening ≠ "" := by
  rcases kind with _ | _ | _ | _ | ⟨_ | _ | _⟩ | _ <;> decide

theorem Report.unbroken_operatorInProse (operator : String) :
    Unbroken (operatorInProse operator).toList ↔ Unbroken operator.toList := by
  rw [operatorInProse]
  split
  · rw [unbroken_followed (by decide), unbroken_preceded (by decide)]
  · rw [unbroken_followed (by decide), unbroken_preceded (by decide)]

theorem UnboundVars.unbroken_listing (u : UnboundVars) :
    Unbroken u.listing.toList ↔ ∀ var ∈ u.unbound, Unbroken var.toList := by
  have hplural : Unbroken (if u.rest.isEmpty then "" else "s").toList := by
    split <;> decide
  rw [listing, unbroken_preceded hplural, unbroken_preceded (by decide), String.toList_intercalate,
    unbroken_intercalate (by decide), List.forall_mem_map]

namespace Failure

/-- The words around the names in a title have no line ends. -/
theorem unbroken_particulars (failure : Failure) :
    Unbroken failure.particulars.toList ↔ ∀ name ∈ failure.shownNames, Unbroken name.toList := by
  cases failure with
  | parse messages =>
    exact iff_of_true (show Unbroken "".toList by decide) (List.forall_mem_nil _)
  | foreign value => exact iff_of_true (show Unbroken "".toList by decide) (List.forall_mem_nil _)
  | operatorRedeclared operator =>
    rw [particulars, shownNames, List.forall_mem_singleton, unbroken_followed (by decide),
      Report.unbroken_operatorInProse]
  | missingDefinition name =>
    rw [particulars, shownNames, List.forall_mem_singleton, unbroken_followed (by decide)]
  | unannotatedPort name =>
    rw [particulars, shownNames, List.forall_mem_singleton, unbroken_followed (by decide)]
  | duplicate binding name =>
    -- the name stands there twice
    have hscope : Unbroken ("'" ++ Report.bindingScope binding ++
        " makes things ambiguous. When you say '").toList := by
      cases binding <;> decide
    rw [particulars, shownNames, List.forall_mem_singleton, String.toList_append, unbroken_append,
      unbroken_preceded hscope, unbroken_followed (by decide), and_self]
  | unboundVars u =>
    rw [particulars, shownNames, List.forall_mem_cons, String.toList_append, unbroken_append,
      unbroken_preceded (by decide), u.unbroken_listing]

/-- A title has the line ends of the names that it shows. -/
theorem unbroken_title {failure : Failure} {kind : Kind} (h : failure.kind? = some kind) :
    Unbroken failure.title.toList ↔ ∀ name ∈ failure.shownNames, Unbroken name.toList := by
  rw [title_eq h, unbroken_preceded kind.unbroken_opening, unbroken_particulars]

theorem title_ne_empty {failure : Failure} {kind : Kind} (h : failure.kind? = some kind) :
    failure.title ≠ "" := by
  rw [title_eq h]
  exact fun hempty => kind.opening_ne_empty (String.append_eq_empty_iff.mp hempty).1

end Failure

/-! ## Reports -/

/-- The report has a title and a body, and the title is on one line as far as the names of the
failure let it. -/
structure Report.WellFormedOn (failure : Failure) (report : Report) : Prop where
  /-- there is a title -/
  title_ne : report.title ≠ ""
  /-- there is a body -/
  body_ne : report.body ≠ ""
  /-- a line ends in the title exactly if one ends in a name that is shown -/
  broken_iff : ¬ Unbroken report.title.toList ↔
    ∃ name ∈ failure.shownNames, ¬ Unbroken name.toList
  /-- so that names of one line each make a title of one line -/
  singleLine : (∀ name ∈ failure.shownNames, Unbroken name.toList) →
    lines report.title = [report.title]

/-- A text that ends in something is not empty. -/
theorem append_ne_empty {front back : String} (h : back ≠ "") : front ++ back ≠ "" :=
  fun hempty => h (String.append_eq_empty_iff.mp hempty).2

namespace Failure

theorem wellFormedOn {failure : Failure} {report : Report} {kind : Kind}
    (hkind : failure.kind? = some kind) (htitle : report.title = failure.title)
    (hbody : report.body ≠ "") : report.WellFormedOn failure := by
  have hne : report.title ≠ "" := by
    rw [htitle]
    exact title_ne_empty hkind
  have hunbroken : Unbroken report.title.toList ↔
      ∀ name ∈ failure.shownNames, Unbroken name.toList := by
    rw [htitle]
    exact unbroken_title hkind
  refine ⟨hne, hbody, ?_, fun hnames => ?_⟩
  · simp only [hunbroken, not_forall, exists_prop]
  · have hchars : report.title.toList ≠ [] := fun h => hne (String.toList_eq_nil_iff.mp h)
    rw [lines, split_eq_singleton (hunbroken.mpr hnames) hchars, List.map_singleton,
      String.ofList_toList]

/-- What is written, if nothing foreign is in the way, has the title of the failure and a body: hints,
an explanation, or the introduction to a suggestion. -/
theorem exists_wellFormed {failure : Failure} (h : failure.foreigns = []) (indent : Nat)
    (texts : List String) :
    ∃ report, report.WellFormedOn failure ∧ failure.write indent texts = .ok report := by
  cases failure with
  | foreign value => cases h
  | parse messages =>
    have hhints : Message.hints messages = .ok (Message.text messages) := by
      rw [Message.hints_eq, show messages.filterMap Message.foreign? = [] from h]
      rfl
    refine ⟨.parseFailure (Message.text messages),
      wellFormedOn rfl rfl (Message.text_ne_empty h), ?_⟩
    change (do
      let hints ← Message.hints messages
      pure (Report.parseFailure hints)) = _
    rw [hhints]
    rfl
  | operatorRedeclared operator =>
    exact ⟨.operatorRedeclared operator, wellFormedOn rfl rfl (append_ne_empty (by decide)), rfl⟩
  | missingDefinition name =>
    exact ⟨.missingDefinition name, wellFormedOn rfl rfl (append_ne_empty (by decide)), rfl⟩
  | unannotatedPort name =>
    exact ⟨.unannotatedPort name, wellFormedOn rfl rfl (append_ne_empty (by decide)), rfl⟩
  | duplicate binding name =>
    exact ⟨.duplicate binding name, wellFormedOn rfl rfl (append_ne_empty (by decide)), rfl⟩
  | unboundVars u =>
    have hintroduction : Report.unboundIntroduction u.typeName u.first ≠ "" :=
      append_ne_empty (by decide)
    refine ⟨.unboundVars u.typeName u.first u.rest ((u.completed.fill texts).text indent) indent,
      wellFormedOn rfl rfl fun hempty => ?_, rfl⟩
    -- the body begins with its introduction, so the printed declaration may be anything
    exact hintroduction (String.append_eq_empty_iff.mp hempty).1

/-- Whatever is written is well formed, or nothing is. -/
theorem exists_wellFormed_write (failure : Failure) (indent : Nat) (texts : List String) :
    ∃ written : Except Fault {report : Report // report.WellFormedOn failure},
      failure.write indent texts = Subtype.val <$> written := by
  cases hforeigns : failure.foreigns with
  | nil =>
    obtain ⟨report, hreport, hwrite⟩ := exists_wellFormed hforeigns indent texts
    exact ⟨.ok ⟨report, hreport⟩, hwrite⟩
  | cons value values =>
    obtain ⟨report, -, hwrite⟩ := failure.exists_write indent texts
    rw [hforeigns] at hwrite
    exact ⟨.error value.fault, hwrite⟩

section

variable {m : Type → Type} [Monad m] [LawfulMonad m] [MonadLiftT (Except Fault) m]
  [LawfulMonadLiftT (Except Fault) m] [MonadGenerator m]

/-- Reporting is making a well-formed report, and handing it out. -/
theorem exists_wellFormed_report (failure : Failure) (settings? : Option (Settings m))
    (printer? : Option (TypePrinter m)) :
    ∃ written : m {report : Report // report.WellFormedOn failure},
      failure.report settings? printer? = Subtype.val <$> written := by
  -- the proof that a report is well formed depends on the texts, so it is made behind the printer
  choose written hwritten using failure.exists_wellFormed_write
  have hunder : ∀ settings : Settings m, failure.reportUnder settings = Subtype.val <$> (do
      let texts ← settings.printer.asked.askAll failure.calls
      liftM (written settings.indent texts)) := by
    intro settings
    rw [reportUnder_eq, map_bind]
    refine bind_congr fun texts => ?_
    rw [hwritten, liftM_map]
  refine ⟨do
    let settings ← liftM (Settings.choose settings? printer?)
    let texts ← settings.printer.asked.askAll failure.calls
    liftM (written settings.indent texts), ?_⟩
  rw [report, map_bind]
  exact bind_congr hunder

/-- **Every report is well formed.** It has a title and a body, whatever the names, messages and
texts of types are, empty ones included. The title is on one line exactly if the names that it shows
are. This holds of whatever a printer leads to that has effects of its own, and so of every request
that is answered. -/
theorem report_wellFormed (failure : Failure) :
    (∀ (settings? : Option (Settings m)) (printer? : Option (TypePrinter m)),
      ∃ written : m {report : Report // report.WellFormedOn failure},
        failure.report settings? printer? = Subtype.val <$> written) ∧
      ∀ {ε : Type} (request : Request ε) (report : Report), request.failure = failure →
        request.report = .ok report → report.WellFormedOn failure := by
  refine ⟨failure.exists_wellFormed_report, ?_⟩
  rintro ε ⟨failure, wish, printer?⟩ report rfl hreport
  cases hsettings : wish.settings? with
  | error refusal =>
    rw [Request.report, hsettings] at hreport
    cases hreport
  | ok settings? =>
    rw [Request.report, hsettings] at hreport
    obtain ⟨written, hwritten⟩ := failure.exists_wellFormed_report settings? (printer?.map .own)
    have hwrittenOk : Subtype.val <$> written = .ok report := hwritten.symm.trans hreport
    cases written with
    | error refusal => cases hwrittenOk
    | ok report' =>
      obtain rfl : report'.val = report := Except.ok.inj hwrittenOk
      exact report'.property

end

/-- Line ends in listed variables, in constructors and in the texts of types leave the title on one
line, and one in the name that is shown breaks it. -/
theorem report_wellFormed_box :
    let counting : TypePrinter (StateT Nat (Except Fault)) := fun _ _ =>
      modifyGet fun asked => ("( a,\n\n b )", asked + 1)
    let printer : TypePrinter (Except (Raised String)) := fun _ _ => .ok "( a,\n\n b )"
    let box : Failure := .unboundVars ⟨"Box", ["x\ny"], "a", [], .union [⟨"B\r", [.var "a"]⟩]⟩
    let operator : Failure := .operatorRedeclared "+\u2028"
    (∃ written : StateT Nat (Except Fault) {report : Report // report.WellFormedOn box},
      box.report (some ⟨counting, 4⟩) = Subtype.val <$> written) ∧
      (∃ report, Request.report ⟨box, .make (some printer) 2, none⟩ = .ok report ∧
        lines report.title = [report.title]) ∧
      ∃ report, Request.report ⟨operator, .absent, some printer⟩ = .ok report ∧
        ¬ Unbroken report.title.toList := by
  intro counting printer box operator
  obtain ⟨hwritten, hbox⟩ := report_wellFormed (m := StateT Nat (Except Fault)) box
  obtain ⟨-, hoperator⟩ := report_wellFormed (m := Except Fault) operator
  obtain ⟨report, hreport⟩ : ∃ report,
      Request.report ⟨box, .make (some printer) 2, none⟩ = .ok report :=
    exists_ok_iff.mpr (by rw [Request.refusal?_report]; rfl)
  obtain ⟨report', hreport'⟩ : ∃ report,
      Request.report ⟨operator, .absent, some printer⟩ = .ok report :=
    exists_ok_iff.mpr (by rw [Request.refusal?_report]; rfl)
  refine ⟨hwritten (some ⟨counting, 4⟩) none, ⟨report, hreport, ?_⟩, report', hreport', ?_⟩
  · exact (hbox _ report rfl hreport).singleLine (by decide)
  · exact (hoperator _ report' rfl hreport').broken_iff.mpr ⟨"+\u2028", by decide⟩

end Failure

end SyntaxReports
