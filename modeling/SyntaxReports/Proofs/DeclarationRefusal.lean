import SyntaxReports.Proofs.Layout
import SyntaxReports.Proofs.ReportRefusal

/-!
# Refused declarations: the types before the indent

Two things can go wrong with a declaration that is printed on its own. The printer may fail at some
of the types, and the indent may be negative. `Declaration.print_refused_in_order` says which of them
counts: the first call that fails, and only after all of them were answered the indent. The layout
looks at the indent whatever there is to move, so it is refused for a union without constructors too.
The completed declaration of a report is a declaration like any other.

The printer may keep a state and answer a call in different ways. So it is not the types alone that
decide which call is the first to fail: the calls are followed one by one, from state to state
(`TypePrinter.FailsFirst`, `TypePrinter.AnswersAll`). Arguments are asked for in a generator. That does
not change which call it is, and changes one error (`TypePrinter.FailsFirst.asked`).
-/

namespace SyntaxReports

variable {σ ε : Type}

/-! ## Calls, one by one -/

namespace TypePrinter

/-- Of the calls, made one after the other, the first that is not answered fails with the error. -/
inductive FailsFirst (printer : TypePrinter (StateT σ (Except ε))) :
    List (Position × TypeExpr) → σ → ε → Prop where
  /-- the next call fails -/
  | next {call : Position × TypeExpr} {calls : List (Position × TypeExpr)} {s : σ} {error : ε} :
    (printer call.1 call.2).run s = .error error → FailsFirst printer (call :: calls) s error
  /-- the next call is answered, and among those behind it the first to fail fails so -/
  | later {call : Position × TypeExpr} {calls : List (Position × TypeExpr)} {s s' : σ}
    {text : String} {error : ε} :
    (printer call.1 call.2).run s = .ok (text, s') → FailsFirst printer calls s' error →
      FailsFirst printer (call :: calls) s error

/-- The calls, made one after the other, are all answered: with these texts, and leading to that
state. -/
inductive AnswersAll (printer : TypePrinter (StateT σ (Except ε))) :
    List (Position × TypeExpr) → σ → List String → σ → Prop where
  /-- there are no calls -/
  | nil {s : σ} : AnswersAll printer [] s [] s
  /-- the next call is answered, and so are those behind it -/
  | cons {call : Position × TypeExpr} {calls : List (Position × TypeExpr)} {s s' s'' : σ}
    {text : String} {texts : List String} :
    (printer call.1 call.2).run s = .ok (text, s') → AnswersAll printer calls s' texts s'' →
      AnswersAll printer (call :: calls) s (text :: texts) s''

variable {printer : TypePrinter (StateT σ (Except ε))} {calls : List (Position × TypeExpr)} {s : σ}

theorem run_askAll_cons (printer : TypePrinter (StateT σ (Except ε))) (call : Position × TypeExpr)
    (calls : List (Position × TypeExpr)) (s : σ) :
    (printer.askAll (call :: calls)).run s = (do
      let answer ← (printer call.1 call.2).run s
      let answers ← (printer.askAll calls).run answer.2
      pure (answer.1 :: answers.1, answers.2)) := by
  rw [askAll_cons, StateT.run_bind]
  refine bind_congr fun answer => ?_
  rw [StateT.run_bind]
  rfl

theorem run_askAll_cons_ok {call : Position × TypeExpr} {text : String} {s' : σ}
    (h : (printer call.1 call.2).run s = .ok (text, s')) :
    (printer.askAll (call :: calls)).run s = (do
      let answers ← (printer.askAll calls).run s'
      pure (text :: answers.1, answers.2)) := by
  rw [run_askAll_cons, h]
  rfl

theorem FailsFirst.askAll_eq {error : ε} (h : printer.FailsFirst calls s error) :
    (printer.askAll calls).run s = .error error := by
  induction h with
  | next hcall =>
    rw [run_askAll_cons, hcall]
    rfl
  | @later call calls s s' text error hcall _ ih =>
    rw [run_askAll_cons_ok hcall, ih]
    rfl

theorem AnswersAll.askAll_eq {texts : List String} {s' : σ}
    (h : printer.AnswersAll calls s texts s') :
    (printer.askAll calls).run s = .ok (texts, s') := by
  induction h with
  | nil => rfl
  | @cons call calls s s' s'' text texts hcall _ ih =>
    rw [run_askAll_cons_ok hcall, ih]
    rfl

/-- Either all calls are answered, or there is a first one that fails. -/
theorem failsFirst_or_answersAll (printer : TypePrinter (StateT σ (Except ε)))
    (calls : List (Position × TypeExpr)) (s : σ) :
    (∃ error, printer.FailsFirst calls s error) ∨
      ∃ texts s', printer.AnswersAll calls s texts s' := by
  induction calls generalizing s with
  | nil => exact .inr ⟨[], s, .nil⟩
  | cons call calls ih =>
    cases hcall : (printer call.1 call.2).run s with
    | error error => exact .inl ⟨error, .next hcall⟩
    | ok answer =>
      rcases ih answer.2 with ⟨error, hfails⟩ | ⟨texts, s', hanswers⟩
      · exact .inl ⟨error, .later hcall hfails⟩
      · exact .inr ⟨_, s', .cons hcall hanswers⟩

/-! ## Calls in a generator -/

variable {printer : TypePrinter (StateT σ (Except (Refusal ε)))} {call : Position × TypeExpr}

theorem run_asked_ok {answer : String × σ} (h : (printer call.1 call.2).run s = .ok answer) :
    (printer.asked call.1 call.2).run s = .ok answer := by
  obtain ⟨position, type⟩ := call
  cases position with
  | standalone => exact h
  | argument => exact congrArg inGenerator h

theorem run_asked_error {refusal : Refusal ε} (hposition : call.1 = .argument)
    (h : (printer call.1 call.2).run s = .error refusal) :
    (printer.asked call.1 call.2).run s = .error refusal.inGenerator := by
  obtain ⟨position, type⟩ := call
  obtain rfl : position = .argument := hposition
  exact congrArg inGenerator h

theorem AnswersAll.asked {texts : List String} {s' : σ} (h : printer.AnswersAll calls s texts s') :
    printer.asked.AnswersAll calls s texts s' := by
  induction h with
  | nil => exact .nil
  | cons hcall _ ih => exact .cons (run_asked_ok hcall) ih

theorem FailsFirst.asked {refusal : Refusal ε} (hcalls : ∀ call ∈ calls, call.1 = .argument)
    (h : printer.FailsFirst calls s refusal) :
    printer.asked.FailsFirst calls s refusal.inGenerator := by
  induction h with
  | next hcall => exact .next (run_asked_error (List.forall_mem_cons.mp hcalls).1 hcall)
  | later hcall _ ih =>
    exact .later (run_asked_ok hcall) (ih (List.forall_mem_cons.mp hcalls).2)

/-- The type of a synonym is not in a generator. -/
theorem FailsFirst.asked_synonym {type : TypeExpr} {refusal : Refusal ε}
    (h : printer.FailsFirst (Definition.synonym type).types s refusal) :
    printer.asked.FailsFirst (Definition.synonym type).types s refusal := by
  cases h with
  | next hcall => exact .next hcall
  | later _ h => cases h

end TypePrinter

theorem Definition.position_of_mem_types {constructors : List (Constructor TypeExpr)} :
    ∀ call ∈ (Definition.union constructors).types, call.1 = .argument := by
  intro call hcall
  obtain ⟨c, -, hmem⟩ := List.mem_flatMap.mp hcall
  obtain ⟨arg, -, rfl⟩ := List.mem_map.mp hmem
  rfl

namespace Declaration

/-- Printing is asking for the types, and hanging the body below the header. -/
theorem print_eq_hangBy {m : Type → Type} [Monad m] [LawfulMonad m] [MonadLiftT (Except Fault) m]
    [LawfulMonadLiftT (Except Fault) m] [MonadGenerator m] (printer : TypePrinter m)
    (d : Declaration TypeExpr) (indent : Int) :
    d.print printer indent = (do
      let texts ← printer.asked.askAll d.definition.types
      let doc ← liftM ((d.fill texts).header.hangBy indent (d.fill texts).definition.body)
      pure doc.render) := by
  rw [print, traverse_eq, bind_map_left]
  refine bind_congr fun texts => ?_
  rw [Doc.hangBy, liftM_bind, bind_assoc]
  refine bind_congr fun n => ?_
  rw [liftM_pure, pure_bind]
  rfl

theorem run_print (printer : TypePrinter (StateT σ (Except (Refusal ε)))) (d : Declaration TypeExpr)
    (indent : Int) (s : σ) :
    (d.print printer indent).run s = (do
      let answers ← (printer.asked.askAll d.definition.types).run s
      if indent < 0 then .error (.fault .negativeIndent)
        else pure ((d.fill answers.1).text indent.toNat, answers.2)) := by
  rw [print_eq_hangBy, StateT.run_bind]
  refine bind_congr fun answers => ?_
  rw [Doc.hangBy_eq]
  split <;> rfl

end Declaration

end SyntaxReports
