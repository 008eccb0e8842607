import SyntaxReports.Proofs.ReportCalls

/-!
# Refused requests: what is wrong first

A report can be refused for several reasons, and a request may be wrong in many ways at once: its
indent may be negative, it may bring two printers, and its failure, messages and types may hold
foreign values, at which a printer can fail as well. `Request.firstRefusal` looks for what is wrong
in a fixed order, and `Request.report_refused` says that this is what the report is refused with.

The caller's own printer fails with errors of its own (`Refusal.printer`), so that they are told apart
from the faults of this library. They reach the caller as they are, but for the signal to end a loop
out of the arguments of a union, which are printed in a generator (`Refusal.generator`). Of the faults
that over the indent of a layout never comes up: an indent that settings were made with is one that
the layout takes (`UnboundVars.report_eq_print`).
-/

namespace SyntaxReports

variable {ε : Type}

/-! ## Requests -/

/-- A printer of the caller's own, in the place of the standard one. -/
def TypePrinter.own (printer : TypePrinter (Except (Raised ε))) : TypePrinter (Except (Refusal ε)) :=
  fun position type => (printer position type).mapError .printer

/-- The settings that a report is asked for with, before they are made. -/
inductive Settings.Wish (ε : Type) where
  /-- no settings -/
  | absent
  /-- settings with an indent, and with a printer of the caller's or the standard one -/
  | make (printer? : Option (TypePrinter (Except (Raised ε)))) (indent : Int)
  /-- settings with a printer of the caller's -/
  | withPrinter (printer : TypePrinter (Except (Raised ε)))

/-- All that a report is asked for with. -/
structure Request (ε : Type) where
  /-- what the report is on -/
  failure : Failure
  /-- the settings, if they are passed -/
  wish : Settings.Wish ε
  /-- a printer next to the settings, if one is passed -/
  printer? : Option (TypePrinter (Except (Raised ε)))

/-- The settings made, if there are to be any. -/
def Settings.Wish.settings? : Settings.Wish ε →
    Except (Refusal ε) (Option (Settings (Except (Refusal ε))))
  | .absent => pure none
  | .make printer? indent => do
    let settings ← liftM (Settings.make (printer?.elim .standard .own) indent)
    pure (some settings)
  | .withPrinter printer => pure (some (.withPrinter printer.own))

namespace Request

/-- The report that is asked for. The settings are made before anything is looked at. -/
def report (request : Request ε) : Except (Refusal ε) Report := do
  let settings? ← request.wish.settings?
  request.failure.report settings? (request.printer?.map .own)

/-! ## What is wrong with a request -/

/-- Settings are wished for with a negative indent. -/
def negativeSetting? (request : Request ε) : Option (Refusal ε) :=
  match request.wish with
  | .make _ indent => if indent < 0 then some (.fault .negativeSetting) else none
  | _ => none

/-- There are settings and a printer. -/
def twoPrinters? (request : Request ε) : Option (Refusal ε) :=
  match request.wish, request.printer? with
  | .absent, _ => none
  | _, none => none
  | _, some _ => some (.fault .twoPrinters)

/-- The failure is none, or one of its messages is none; the first such message counts. -/
def foreign? (request : Request ε) : Option (Refusal ε) :=
  match request.failure with
  | .foreign value => some (.fault value.fault)
  | .parse messages => (messages.findSome? Message.foreign?).map fun value => .fault value.fault
  | _ => none

/-- The printer that is to be used. -/
def printer (request : Request ε) : TypePrinter (Except (Refusal ε)) :=
  match request.wish, request.printer? with
  | .absent, printer? => printer?.elim .standard .own
  | .make printer? _, _ => printer?.elim .standard .own
  | .withPrinter printer, _ => printer.own

end Request

/-- What is wrong with an answer that is none. -/
def refusal? {α : Type} : Except ε α → Option ε
  | .ok _ => none
  | .error refusal => some refusal

namespace Request

/-- The first of the calls that the printer fails at, and with what. Arguments are printed in a
generator. -/
def failedCall? (request : Request ε) : Option (Refusal ε) :=
  request.failure.calls.findSome? fun call => refusal? (request.printer.asked call.1 call.2)

/-- What is wrong with the request first. -/
def firstRefusal (request : Request ε) : Option (Refusal ε) :=
  request.negativeSetting?.or <| request.twoPrinters?.or <| request.foreign?.or request.failedCall?

end Request

/-! ## Answers and refusals -/

section

variable {α β : Type}

theorem eq_error_iff {answer : Except ε α} {refusal : ε} :
    answer = .error refusal ↔ refusal? answer = some refusal := by
  cases answer <;> simp [refusal?]

theorem exists_ok_iff {answer : Except ε α} :
    (∃ a, answer = .ok a) ↔ refusal? answer = none := by
  cases answer <;> simp [refusal?]

theorem refusal?_map (f : α → β) (answer : Except ε α) :
    refusal? (f <$> answer) = refusal? answer := by
  cases answer <;> rfl

/-- Looking at foreign values is refused over the first of them. -/
theorem refusal?_refuseFirst (foreigns : List Foreign) (a : α) :
    refusal? (liftM (TypeExpr.refuseFirst foreigns a) : Except (Refusal ε) α) =
      foreigns.head?.map fun value => .fault value.fault := by
  cases foreigns <;> rfl

/-- Asking a printer is refused at the first call that is. -/
theorem refusal?_askAll (printer : TypePrinter (Except ε)) (calls : List (Position × TypeExpr)) :
    refusal? (printer.askAll calls) =
      calls.findSome? fun call => refusal? (printer call.1 call.2) := by
  induction calls with
  | nil => rfl
  | cons call calls ih =>
    rw [TypePrinter.askAll_cons, List.findSome?_cons]
    cases printer call.1 call.2 with
    | error refusal => rfl
    | ok text =>
      rw [← refusal?_map (text :: ·)] at ih
      exact ih

end

/-! ## From the settings to the calls -/

/-- What is refused once there are settings: something foreign, or else the first call that fails.
A failure never has both, since one with types has a known form and no messages. -/
theorem Failure.refusal?_reportUnder (failure : Failure) (settings : Settings (Except (Refusal ε))) :
    refusal? (failure.reportUnder settings) =
      (failure.foreigns.head?.map fun value => .fault value.fault).or
        (failure.calls.findSome? fun call => refusal? (settings.printer.asked call.1 call.2)) := by
  rw [reportUnder_eq]
  cases hdeclaration : failure.declaration? with
  | none =>
    obtain ⟨hcalls, -⟩ := write_of_declaration hdeclaration
    obtain ⟨report, -, hwrite⟩ := failure.exists_write settings.indent []
    rw [hcalls, TypePrinter.askAll_nil, pure_bind, hwrite, refusal?_refuseFirst,
      List.findSome?_nil, Option.or_none]
  | some u =>
    obtain rfl := eq_of_declaration hdeclaration
    have hwrite : ∀ texts, (liftM (write settings.indent texts (.unboundVars u)) :
        Except (Refusal ε) Report) = pure (Report.unboundVars u.typeName u.first u.rest
          ((u.completed.fill texts).text settings.indent) settings.indent) := by
      intro texts
      rfl
    simp only [hwrite]
    rw [← map_eq_pure_bind, refusal?_map, refusal?_askAll]
    rfl

namespace Request

theorem foreign?_eq (request : Request ε) :
    request.foreign? =
      request.failure.foreigns.head?.map fun value => .fault value.fault := by
  obtain ⟨failure, wish, printer?⟩ := request
  cases failure with
  | parse messages => rw [foreign?, Failure.foreigns, List.head?_filterMap]
  | _ => rfl

theorem negativeSetting?_negSucc (failure : Failure)
    (own? : Option (TypePrinter (Except (Raised ε)))) (n : Nat)
    (printer? : Option (TypePrinter (Except (Raised ε)))) :
    negativeSetting? ⟨failure, .make own? (.negSucc n), printer?⟩ =
      some (.fault .negativeSetting) :=
  if_pos (Int.negSucc_lt_zero n)

theorem report_of_negativeSetting {request : Request ε} {refusal : Refusal ε}
    (h : request.negativeSetting? = some refusal) : request.report = .error refusal := by
  obtain ⟨failure, wish, printer?⟩ := request
  cases wish with
  | absent => cases h
  | withPrinter printer => cases h
  | make own? indent =>
    cases indent with
    | ofNat n => cases h
    | negSucc n =>
      rw [negativeSetting?_negSucc] at h
      cases h
      rfl

theorem report_of_twoPrinters {request : Request ε} {refusal : Refusal ε}
    (hindent : request.negativeSetting? = none) (h : request.twoPrinters? = some refusal) :
    request.report = .error refusal := by
  obtain ⟨failure, wish, _ | printer⟩ := request
  · cases wish <;> cases h
  cases wish with
  | absent => cases h
  | withPrinter own =>
    cases h
    rfl
  | make own? indent =>
    cases indent with
    | negSucc n =>
      rw [negativeSetting?_negSucc] at hindent
      cases hindent
    | ofNat n =>
      cases h
      rfl

/-- If the settings can be made and there is one printer, then the report is written with it. -/
theorem exists_settings {request : Request ε} (hindent : request.negativeSetting? = none)
    (hprinter : request.twoPrinters? = none) :
    ∃ settings, settings.printer = request.printer ∧
      request.report = request.failure.reportUnder settings := by
  obtain ⟨failure, wish, printer?⟩ := request
  cases wish with
  | absent => exact ⟨.withPrinter (printer?.elim .standard .own), rfl, by cases printer? <;> rfl⟩
  | withPrinter own =>
    cases printer? with
    | none => exact ⟨.withPrinter own.own, rfl, rfl⟩
    | some printer => cases hprinter
  | make own? indent =>
    cases printer? with
    | some printer => cases hprinter
    | none =>
      cases indent with
      | negSucc n =>
        rw [negativeSetting?_negSucc] at hindent
        cases hindent
      | ofNat n => exact ⟨⟨own?.elim .standard .own, n⟩, rfl, rfl⟩

/-- The report is refused with what is wrong first. -/
theorem refusal?_report (request : Request ε) :
    refusal? request.report = request.firstRefusal := by
  rw [firstRefusal]
  cases hindent : request.negativeSetting? with
  | some refusal => rw [report_of_negativeSetting hindent, Option.some_or, refusal?]
  | none =>
    cases hprinters : request.twoPrinters? with
    | some refusal =>
      rw [report_of_twoPrinters hindent hprinters, Option.none_or, Option.some_or, refusal?]
    | none =>
      obtain ⟨settings, hprinter, hreport⟩ := exists_settings hindent hprinters
      rw [hreport, Failure.refusal?_reportUnder, hprinter, Option.none_or, Option.none_or,
        foreign?_eq, failedCall?]

end Request

/-! ## The fault that never comes up -/

/-- The indent of the settings is one that the layout takes: with the check of `Declaration.print` in
between, the report is the same. -/
theorem UnboundVars.report_eq_print {m : Type → Type} [Monad m] [LawfulMonad m]
    [MonadLiftT (Except Fault) m] [LawfulMonadLiftT (Except Fault) m] [MonadGenerator m]
    (u : UnboundVars) (settings : Settings m) :
    u.report settings = (do
      let corrected ← u.completed.print settings.printer settings.indent
      pure (Report.unboundVars u.typeName u.first u.rest corrected settings.indent)) := by
  rw [Declaration.print_eq, report, Declaration.traverse_eq, bind_map_left, bind_map_left]

theorem Foreign.fault_ne_negativeIndent (foreigns : List Foreign) :
    (foreigns.head?.map fun value => (.fault value.fault : Refusal ε)) ≠
      some (.fault .negativeIndent) := by
  cases foreigns with
  | nil => exact nofun
  | cons value values =>
    rw [List.head?_cons, Option.map_some, fault]
    split <;> exact nofun

/-- In a generator no error turns into a fault. -/
theorem TypePrinter.refusal?_asked_ne {printer : TypePrinter (Except (Refusal ε))} {fault : Fault}
    {call : Position × TypeExpr} (h : refusal? (printer call.1 call.2) ≠ some (.fault fault)) :
    refusal? (printer.asked call.1 call.2) ≠ some (.fault fault) := by
  obtain ⟨position, type⟩ := call
  cases position with
  | standalone => exact h
  | argument =>
    change refusal? (inGenerator (printer .argument type)) ≠ _
    cases hanswer : printer .argument type with
    | ok text => exact nofun
    | error refusal =>
      rw [hanswer] at h
      cases refusal with
      | fault own => exact h
      | printer raised => cases raised <;> exact nofun
      | generator signal => exact nofun

namespace Request

/-- The standard printer faults over foreign values only, and a printer of the caller's with errors
of its own. -/
theorem printer_ne_negativeIndent (request : Request ε) (call : Position × TypeExpr) :
    refusal? (request.printer call.1 call.2) ≠ some (.fault .negativeIndent) := by
  have hstandard : refusal? ((TypePrinter.standard : TypePrinter (Except (Refusal ε)))
      call.1 call.2) ≠ some (.fault .negativeIndent) := by
    have hprint : (TypePrinter.standard : TypePrinter (Except (Refusal ε))) call.1 call.2 =
        liftM (TypeExpr.refuseFirst call.2.foreigns (call.2.text call.1)) := by
      rw [← TypeExpr.print_eq]
      rfl
    rw [hprint, refusal?_refuseFirst]
    exact Foreign.fault_ne_negativeIndent _
  have hown : ∀ own : TypePrinter (Except (Raised ε)),
      refusal? (own.own call.1 call.2) ≠ some (.fault .negativeIndent) := by
    intro own
    rw [TypePrinter.own]
    cases own call.1 call.2 with
    | ok text => exact nofun
    | error error => exact nofun
  obtain ⟨failure, wish, printer?⟩ := request
  cases wish with
  | absent =>
    cases printer? with
    | none => exact hstandard
    | some own => exact hown own
  | make own? indent =>
    cases own? with
    | none => exact hstandard
    | some own => exact hown own
  | withPrinter own => exact hown own

theorem firstRefusal_ne_negativeIndent (request : Request ε) :
    request.firstRefusal ≠ some (.fault .negativeIndent) := by
  intro h
  have hsetting : request.negativeSetting? ≠ some (.fault .negativeIndent) := by
    rw [negativeSetting?]
    split
    · split <;> exact nofun
    · exact nofun
  have hprinters : request.twoPrinters? ≠ some (.fault .negativeIndent) := by
    rw [twoPrinters?]
    split <;> exact nofun
  have hforeign : request.foreign? ≠ some (.fault .negativeIndent) := by
    rw [foreign?_eq]
    exact Foreign.fault_ne_negativeIndent _
  have hcall : request.failedCall? ≠ some (.fault .negativeIndent) := by
    intro hcall
    obtain ⟨call, -, hcall⟩ := List.exists_of_findSome?_eq_some hcall
    exact TypePrinter.refusal?_asked_ne (request.printer_ne_negativeIndent call) hcall
  simp only [firstRefusal, Option.or_eq_some_iff] at h
  rcases h with h | ⟨-, h | ⟨-, h | ⟨-, h⟩⟩⟩
  · exact hsetting h
  · exact hprinters h
  · exact hforeign h
  · exact hcall h

/-- A negative indent counts before the two printers and before what is no failure. -/
example : report ⟨.foreign .null, .make none (-1), some fun _ _ => .error (.error "mute")⟩ =
    .error (.fault .negativeSetting) := rfl

/-- The signal to end a loop is an error of the generator for an argument, and is passed on for the type
of a synonym. -/
example :
    let printer : TypePrinter (Except (Raised String)) := fun _ _ => .error (.stop "done")
    report ⟨.unboundVars ⟨"T", [], "a", [], .union [⟨"C", [.var "a"]⟩]⟩, .absent, some printer⟩ =
        .error (.generator "done") ∧
      report ⟨.unboundVars ⟨"T", [], "a", [], .synonym (.var "a")⟩, .absent, some printer⟩ =
        .error (.printer (.stop "done")) :=
  ⟨rfl, rfl⟩

end Request

end SyntaxReports
