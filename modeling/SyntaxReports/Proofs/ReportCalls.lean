import Mathlib.Tactic.Choose
import SyntaxReports.Proofs.Hints
import SyntaxReports.Proofs.PrinterCalls
import SyntaxReports.Report

/-!
# Reports and calls: all that a report takes from a printer

A report asks the printer of its settings for the types in the failure (`Failure.calls`), each of
them once and in their order, and for nothing else. With the answers at hand the rest is a function
of the indent and the answers (`Failure.write`), which is where a report can still be refused, and
that only over something foreign that is no type.

`Failure.report_calls` puts this together. What a printer was asked is seen by handing over one that
keeps a record (`TypePrinter.recorded`).
-/

namespace SyntaxReports

/-! ## Printers that keep a record -/

/-- The printer that answers like `printer` and keeps a record of the calls. -/
def TypePrinter.recorded {m : Type → Type} [Monad m] (printer : TypePrinter m) :
    TypePrinter (StateT (List (Position × TypeExpr)) m) := fun position type => do
  modify (· ++ [(position, type)])
  liftM (printer position type)

section

variable {m : Type → Type} [Monad m] [LawfulMonad m]

theorem TypePrinter.run_recorded (printer : TypePrinter m) (position : Position) (type : TypeExpr)
    (record : List (Position × TypeExpr)) :
    (printer.recorded position type).run record =
      (fun text => (text, record ++ [(position, type)])) <$> printer position type := by
  simp [recorded]

/-- Asking a printer that keeps a record adds the calls to it. -/
theorem TypePrinter.askAll_recorded (printer : TypePrinter m)
    (calls record : List (Position × TypeExpr)) :
    (printer.recorded.askAll calls).run record =
      (fun texts => (texts, record ++ calls)) <$> printer.askAll calls := by
  induction calls generalizing record with
  | nil => simp [askAll]
  | cons call calls ih =>
    rw [askAll_cons, askAll_cons, StateT.run_bind, run_recorded]
    simp [ih]

/-- A generator has no part in the record. -/
theorem TypePrinter.asked_recorded [MonadGenerator m] [LawfulMonadGenerator m]
    (printer : TypePrinter m) : printer.recorded.asked = printer.asked.recorded := by
  funext position type
  refine StateT.ext fun record => ?_
  rw [run_recorded]
  cases position with
  | standalone => exact run_recorded printer .standalone type record
  | argument => rw [asked, asked, run_inGenerator, run_recorded, inGenerator_map]

end

/-! ## A report, given the answers -/

/-- Settings are found unless there are two printers to choose from. -/
theorem Settings.exists_choose {m : Type → Type} [MonadLiftT (Except Fault) m]
    {settings? : Option (Settings m)} {printer? : Option (TypePrinter m)}
    (h : settings? = none ∨ printer? = none) :
    ∃ settings, Settings.choose settings? printer? = .ok settings := by
  rcases h with rfl | rfl
  · cases printer? <;> exact ⟨_, rfl⟩
  · cases settings? <;> exact ⟨_, rfl⟩

namespace Failure

/-- The declaration that the failure is over, if it is over one. -/
def declaration? : Failure → Option UnboundVars
  | .unboundVars u => some u
  | _ => none

/-- The types in the failure, from the first to the last, each with its position. -/
def calls : Failure → List (Position × TypeExpr)
  | .unboundVars u => u.definition.types
  | _ => []

/-- What is foreign where a report has to look itself: a message, or the failure. -/
def foreigns : Failure → List Foreign
  | .parse messages => messages.filterMap Message.foreign?
  | .foreign value => [value]
  | _ => []

/-- The title of a report on the failure. What is no failure has none. -/
def title : Failure → String
  | .parse _ => (Report.parseFailure "").title
  | .operatorRedeclared operator => (Report.operatorRedeclared operator).title
  | .missingDefinition name => (Report.missingDefinition name).title
  | .unannotatedPort name => (Report.unannotatedPort name).title
  | .duplicate binding name => (Report.duplicate binding name).title
  | .unboundVars u => (Report.unboundVars u.typeName u.first u.rest "" 0).title
  | .foreign _ => ""

/-- The report on a failure once the texts of its types are known. Only a failure over a declaration
has types, and only there the indent matters. -/
def write (indent : Nat) (texts : List String) : Failure → Except Fault Report
  | .unboundVars u => pure (Report.unboundVars u.typeName u.first u.rest
      ((u.completed.fill texts).text indent) indent)
  | failure => failure.reportUnder .standard

theorem eq_of_declaration {failure : Failure} {u : UnboundVars}
    (h : failure.declaration? = some u) : failure = .unboundVars u := by
  cases failure with
  | unboundVars v => rw [Option.some.inj h]
  | _ => cases h

/-- What is written is a report under the title of the failure, unless there is something foreign to
look at; then it is refused with the first of that. -/
theorem exists_write (failure : Failure) (indent : Nat) (texts : List String) :
    ∃ report, report.title = failure.title ∧
      failure.write indent texts = TypeExpr.refuseFirst failure.foreigns report := by
  cases failure with
  | parse messages =>
    refine ⟨.parseFailure (Message.text messages), rfl, ?_⟩
    rw [foreigns, ← TypeExpr.refuseFirst_pure, ← Message.hints_eq]
    rfl
  | foreign value => exact ⟨⟨"", ""⟩, rfl, rfl⟩
  | operatorRedeclared operator => exact ⟨.operatorRedeclared operator, rfl, rfl⟩
  | missingDefinition name => exact ⟨.missingDefinition name, rfl, rfl⟩
  | unannotatedPort name => exact ⟨.unannotatedPort name, rfl, rfl⟩
  | duplicate binding name => exact ⟨.duplicate binding name, rfl, rfl⟩
  | unboundVars u =>
    exact ⟨.unboundVars u.typeName u.first u.rest ((u.completed.fill texts).text indent) indent,
      rfl, rfl⟩

/-- Without a declaration there is nothing to ask for, and nothing that settings change. -/
theorem write_of_declaration {failure : Failure} (h : failure.declaration? = none) :
    failure.calls = [] ∧
      ∀ indent texts, failure.write indent texts = failure.reportUnder .standard := by
  cases failure
  case unboundVars => cases h
  all_goals exact ⟨rfl, fun _ _ => rfl⟩

section

variable {m : Type → Type} [Monad m] [LawfulMonad m] [MonadLiftT (Except Fault) m]
  [LawfulMonadLiftT (Except Fault) m] [MonadGenerator m]

omit [LawfulMonad m] in
theorem reportUnder_of_declaration {failure : Failure} (h : failure.declaration? = none)
    (settings : Settings m) :
    failure.reportUnder settings =
      liftM (failure.reportUnder (.standard : Settings (Except Fault))) := by
  cases failure with
  | unboundVars u => cases h
  | foreign value => rfl
  | parse messages =>
    rw [reportUnder, reportUnder, liftM_bind]
    refine bind_congr fun hints => ?_
    rw [liftM_pure]
  | operatorRedeclared operator => rw [reportUnder, reportUnder, liftM_pure]
  | missingDefinition name => rw [reportUnder, reportUnder, liftM_pure]
  | unannotatedPort name => rw [reportUnder, reportUnder, liftM_pure]
  | duplicate binding name => rw [reportUnder, reportUnder, liftM_pure]

/-- Reporting is asking for the types, and writing. -/
theorem reportUnder_eq (settings : Settings m) (failure : Failure) :
    failure.reportUnder settings = (do
      let texts ← settings.printer.asked.askAll failure.calls
      liftM (failure.write settings.indent texts)) := by
  cases hdeclaration : failure.declaration? with
  | none =>
    obtain ⟨hcalls, hwrite⟩ := write_of_declaration hdeclaration
    rw [hcalls, TypePrinter.askAll_nil, pure_bind, hwrite, reportUnder_of_declaration hdeclaration]
  | some u =>
    obtain rfl := eq_of_declaration hdeclaration
    rw [reportUnder, UnboundVars.report, Declaration.traverse_eq, bind_map_left]
    refine bind_congr fun texts => ?_
    rw [write, liftM_pure]

/-- A report that is not refused over something foreign is made of the answers to the calls. -/
theorem report_eq {failure : Failure} {written : Nat → List String → Report}
    (hwritten : ∀ indent texts, failure.write indent texts = .ok (written indent texts))
    {settings? : Option (Settings m)} {printer? : Option (TypePrinter m)} {settings : Settings m}
    (hsettings : Settings.choose settings? printer? = .ok settings) :
    failure.report settings? printer? =
      written settings.indent <$> settings.printer.asked.askAll failure.calls := by
  have hchosen : liftM (Settings.choose settings? printer?) = (pure settings : m _) := by
    rw [hsettings]
    exact monadLift_pure settings
  rw [report, hchosen, pure_bind, reportUnder_eq, map_eq_pure_bind]
  refine bind_congr fun texts => ?_
  rw [hwritten]
  exact monadLift_pure _

variable [LawfulMonadGenerator m]

/-- The calls of a printer that keeps a record. -/
theorem report_recorded {failure : Failure} {written : Nat → List String → Report}
    (hwritten : ∀ indent texts, failure.write indent texts = .ok (written indent texts))
    {printer : TypePrinter m} {n : Nat}
    {settings? : Option (Settings (StateT (List (Position × TypeExpr)) m))}
    {printer? : Option (TypePrinter (StateT (List (Position × TypeExpr)) m))}
    (hsettings : Settings.choose settings? printer? = .ok ⟨printer.recorded, n⟩) :
    (failure.report settings? printer?).run [] =
      (fun texts => (written n texts, failure.calls)) <$> printer.asked.askAll failure.calls := by
  rw [report_eq hwritten hsettings, StateT.run_map, TypePrinter.asked_recorded,
    TypePrinter.askAll_recorded, Functor.map_map, List.nil_append]

/-- **A report takes the answers to its calls, and nothing else.** The calls are those for the types
in the failure: none without a declaration, one for a synonym, one for each argument of a union. So
printers that answer these calls alike lead to one report. The title is the same for all printers and
indents, and without a declaration all of the report is, whichever way the settings were passed. -/
theorem report_calls {failure : Failure} (hknown : failure.foreigns = []) :
    ∃ written : Nat → List String → Report,
      -- the report is made of the answers, under all settings
      (∀ (settings? : Option (Settings m)) printer? settings,
        Settings.choose settings? printer? = .ok settings →
          failure.report settings? printer? =
            written settings.indent <$> settings.printer.asked.askAll failure.calls) ∧
      -- and the calls are made once each, in their order
      (∀ (printer : TypePrinter m) n settings? printer?,
        Settings.choose settings? printer? = .ok ⟨printer.recorded, n⟩ →
          (failure.report settings? printer?).run [] =
            (fun texts => (written n texts, failure.calls)) <$>
              printer.asked.askAll failure.calls) ∧
      (∀ printer printer' : TypePrinter m,
        (∀ call ∈ failure.calls, printer call.1 call.2 = printer' call.1 call.2) →
          ∀ n, failure.report (some ⟨printer, n⟩) = failure.report (some ⟨printer', n⟩)) ∧
      (∀ n texts, (written n texts).title = failure.title) ∧
      (failure.declaration? = none → ∃ report, ∀ settings? printer?,
        settings? = none ∨ printer? = none →
          failure.report settings? printer? = (pure report : m Report)) := by
  have hreports : ∀ indent texts, ∃ report, report.title = failure.title ∧
      failure.write indent texts = .ok report := by
    intro indent texts
    obtain ⟨report, htitle, hwrite⟩ := failure.exists_write indent texts
    exact ⟨report, htitle, by rw [hwrite, hknown]; rfl⟩
  choose written htitle hwritten using hreports
  refine ⟨written, fun _ _ _ => report_eq hwritten, fun _ _ _ _ => report_recorded hwritten,
    ?_, htitle, ?_⟩
  · intro printer printer' hsame n
    have hreport : ∀ p : TypePrinter m,
        failure.report (some ⟨p, n⟩) = written n <$> p.asked.askAll failure.calls := by
      intro p
      have hsettings : Settings.choose (some ⟨p, n⟩) none = .ok (⟨p, n⟩ : Settings m) := rfl
      exact report_eq hwritten hsettings
    rw [hreport, hreport, TypePrinter.askAll_asked_congr hsame]
  · intro hdeclaration
    obtain ⟨hcalls, hwrite⟩ := write_of_declaration hdeclaration
    have hsame : ∀ n, written n [] = written 0 [] := by
      intro n
      have hok := hwritten n []
      rw [hwrite, ← hwrite 0 [], hwritten] at hok
      exact (Except.ok.inj hok).symm
    refine ⟨written 0 [], fun settings? printer? hnotBoth => ?_⟩
    obtain ⟨settings, hsettings⟩ := Settings.exists_choose hnotBoth
    rw [report_eq hwritten hsettings, hcalls, TypePrinter.askAll_nil, map_pure, hsame]

end

/-- The arguments of a union are asked for one by one, and a variable that occurs twice is asked for
twice. A printer that fails elsewhere leads to the same report, and a type that is named twice to one
for which no printer is needed. -/
theorem report_calls_tree :
    let printer : TypePrinter (Except Fault) := fun _ _ => .ok "t"
    let argumentsOnly : TypePrinter (Except Fault) := fun position _ =>
      match position with
      | .argument => .ok "t"
      | .standalone => .error .negativeIndent
    let tree : Failure := .unboundVars ⟨"Tree", [], "a", ["b"],
      .union [⟨"Leaf", [.var "b"]⟩, ⟨"Nil", []⟩, ⟨"Node", [.var "a", .var "b"]⟩]⟩
    let twice : Failure := .duplicate .type "Tree"
    tree.foreigns = [] ∧ twice.foreigns = [] ∧
      (∃ report,
        (tree.report (some ⟨printer.recorded, 4⟩)).run [] =
          .ok (report, [(.argument, .var "b"), (.argument, .var "a"), (.argument, .var "b")]) ∧
        report.title = "Type 'Tree' uses unbound type variables: a, b") ∧
      (∀ n, tree.report (some ⟨printer, n⟩) = tree.report (some ⟨argumentsOnly, n⟩)) ∧
      ∃ report, ∀ settings? printer?, settings? = none ∨ printer? = none →
        twice.report settings? printer? = (pure report : Except Fault Report) := by
  intro printer argumentsOnly tree twice
  obtain ⟨written, -, hcalls, hsame, htitle, -⟩ :=
    report_calls (m := Except Fault) (rfl : tree.foreigns = [])
  obtain ⟨-, -, -, -, -, htwice⟩ := report_calls (m := Except Fault) (rfl : twice.foreigns = [])
  have hagree : ∀ call ∈ tree.calls, printer call.1 call.2 = argumentsOnly call.1 call.2 := by
    intro call hcall
    have hposition : ∀ position ∈ tree.calls.map Prod.fst, position = .argument := by decide
    have hargument := hposition call.1 (List.mem_map_of_mem hcall)
    obtain ⟨position, type⟩ := call
    obtain rfl : position = .argument := hargument
    rfl
  refine ⟨rfl, rfl, ⟨written 4 ["t", "t", "t"], ?_, ?_⟩, hsame printer argumentsOnly hagree,
    htwice rfl⟩
  · rw [hcalls printer 4 _ _ rfl]
    rfl
  · rw [htitle]
    decide

end Failure

end SyntaxReports
