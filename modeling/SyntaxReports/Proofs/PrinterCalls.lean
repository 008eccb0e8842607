import SyntaxReports.Proofs.DeclarationPrint

/-!
# Calls: what a printer is asked for a declaration

Printing a declaration visits its constructors one by one and their arguments one by one. The loops
within loops come to a single one: the printer is asked for the types of the declaration
(`Definition.types`) from the first to the last, and its answers are filled in where the types were
(`Declaration.traverse_eq`).

This holds in every monad, so the printer may fail, remember what it was asked and answer one call in
two ways. All that a declaration takes from it are the answers, in their order. What it fails with may
change on the way out, since the arguments of a constructor come from a generator
(`TypePrinter.asked`).
-/

namespace SyntaxReports

/-- Asking for the texts of types, one call after the other. -/
def TypePrinter.askAll {m : Type → Type} [Monad m] (printer : TypePrinter m)
    (calls : List (Position × TypeExpr)) : m (List String) :=
  calls.mapM fun call => printer call.1 call.2

/-- The printer as it is asked for the types in a declaration: as it is for the type of a synonym, and
in a generator for the arguments of constructors. -/
def TypePrinter.asked {m : Type → Type} [MonadGenerator m] (printer : TypePrinter m) : TypePrinter m
  | .standalone, type => printer .standalone type
  | .argument, type => inGenerator (printer .argument type)

/-- The faults of this library are the same in a generator. -/
theorem TypePrinter.asked_eq_self (printer : TypePrinter (Except Fault)) : printer.asked = printer := by
  funext position type
  cases position <;> rfl

section

variable {m : Type → Type} [Monad m] [LawfulMonad m] {α β γ : Type}

omit [LawfulMonad m] in
theorem TypePrinter.askAll_nil (printer : TypePrinter m) : printer.askAll [] = pure [] :=
  List.mapM_nil

theorem TypePrinter.askAll_cons (printer : TypePrinter m) (call : Position × TypeExpr)
    (calls : List (Position × TypeExpr)) :
    printer.askAll (call :: calls) =
      (do let text ← printer call.1 call.2
          let texts ← printer.askAll calls
          pure (text :: texts)) := by
  rw [askAll, List.mapM_cons]
  rfl

theorem TypePrinter.askAll_append (printer : TypePrinter m)
    (calls calls' : List (Position × TypeExpr)) :
    printer.askAll (calls ++ calls') =
      (do let texts ← printer.askAll calls
          let texts' ← printer.askAll calls'
          pure (texts ++ texts')) :=
  List.mapM_append

/-- Printers that answer the calls alike are asked to the same effect. -/
theorem TypePrinter.askAll_congr {printer printer' : TypePrinter m}
    {calls : List (Position × TypeExpr)}
    (h : ∀ call ∈ calls, printer call.1 call.2 = printer' call.1 call.2) :
    printer.askAll calls = printer'.askAll calls := by
  induction calls with
  | nil => rfl
  | cons call calls ih =>
    obtain ⟨hcall, hcalls⟩ := List.forall_mem_cons.mp h
    rw [askAll_cons, askAll_cons, hcall, ih hcalls]

theorem TypePrinter.askAll_asked_congr [MonadGenerator m] {printer printer' : TypePrinter m}
    {calls : List (Position × TypeExpr)}
    (h : ∀ call ∈ calls, printer call.1 call.2 = printer' call.1 call.2) :
    printer.asked.askAll calls = printer'.asked.askAll calls := by
  refine askAll_congr fun call hcall => ?_
  obtain ⟨position, type⟩ := call
  have hsame := h _ hcall
  cases position with
  | standalone => exact hsame
  | argument => exact congrArg inGenerator hsame

/-- What follows a loop depends only on lists as long as the one that was looped over. -/
theorem mapM_bind_congr {f : α → m β} {xs : List α} {g h : List β → m γ}
    (hsame : ∀ ys, ys.length = xs.length → g ys = h ys) : xs.mapM f >>= g = xs.mapM f >>= h := by
  induction xs generalizing g h with
  | nil => rw [List.mapM_nil, pure_bind, pure_bind, hsame [] rfl]
  | cons x xs ih =>
    simp only [List.mapM_cons, bind_assoc, pure_bind]
    refine bind_congr fun y => ih fun ys hys => hsame (y :: ys) ?_
    rw [List.length_cons, List.length_cons, hys]

/-! ## Answers in the places of types -/

/-- The constructors with a list of answers in the places of their arguments: each takes as many as
it has arguments, and leaves the others to those behind it. -/
def Constructor.fillAll : List (Constructor α) → List β → List (Constructor β)
  | [], _ => []
  | c :: constructors, answers =>
    ⟨c.name, answers.take c.args.length⟩ :: fillAll constructors (answers.drop c.args.length)

/-- The definition with a list of texts in the places of its types. -/
def Definition.fill (texts : List String) : Definition α → Definition String
  | .synonym _ => .synonym (texts.headD "")
  | .union constructors => .union (Constructor.fillAll constructors texts)

/-- The declaration with a list of texts in the places of its types. -/
def Declaration.fill (texts : List String) (d : Declaration α) : Declaration String :=
  ⟨d.name, d.vars, d.definition.fill texts⟩

theorem Constructor.fillAll_append (c : Constructor α) (constructors : List (Constructor α))
    {own : List β} (hown : own.length = c.args.length) (others : List β) :
    fillAll (c :: constructors) (own ++ others) = ⟨c.name, own⟩ :: fillAll constructors others := by
  rw [fillAll, List.take_left' hown, List.drop_left' hown]

/-- Filling in leaves the names as they are. -/
theorem Constructor.map_name_fillAll (constructors : List (Constructor α)) (answers : List β) :
    (fillAll constructors answers).map name = constructors.map name := by
  induction constructors generalizing answers with
  | nil => rfl
  | cons c constructors ih => rw [fillAll, List.map_cons, List.map_cons, ih]

/-- Only answers are filled in. -/
theorem Constructor.mem_of_mem_fillAll {constructors : List (Constructor α)} {answers : List β}
    {c : Constructor β} (hc : c ∈ fillAll constructors answers) {answer : β}
    (h : answer ∈ c.args) : answer ∈ answers := by
  induction constructors generalizing answers with
  | nil => cases hc
  | cons first constructors ih =>
    rw [fillAll] at hc
    rcases List.mem_cons.mp hc with rfl | hc
    · exact List.mem_of_mem_take h
    · exact List.mem_of_mem_drop (ih hc)

/-- As many answers as there are arguments are all filled in, each once and in their order. -/
theorem Constructor.flatMap_args_fillAll {constructors : List (Constructor α)} {answers : List β}
    (h : answers.length = (constructors.flatMap args).length) :
    (fillAll constructors answers).flatMap args = answers := by
  induction constructors generalizing answers with
  | nil => exact (List.length_eq_zero_iff.mp h).symm
  | cons c constructors ih =>
    rw [List.flatMap_cons, List.length_append] at h
    have hrest : (answers.drop c.args.length).length = (constructors.flatMap args).length := by
      rw [List.length_drop, h, Nat.add_sub_cancel_left]
    rw [fillAll, List.flatMap_cons, ih hrest, List.take_append_drop]

variable [MonadGenerator m]

/-- Going through constructors and their arguments is going through all arguments. -/
theorem Constructor.mapM_traverse (f : α → m β) (constructors : List (Constructor α)) :
    constructors.mapM (Constructor.traverse f) =
      fillAll constructors <$>
        (constructors.flatMap Constructor.args).mapM fun arg => inGenerator (f arg) := by
  induction constructors with
  | nil => rw [List.mapM_nil, List.flatMap_nil, List.mapM_nil, map_pure, fillAll]
  | cons c constructors ih =>
    rw [List.mapM_cons, traverse, ih, List.flatMap_cons, List.mapM_append]
    simp only [bind_assoc, pure_bind, bind_map_left, map_bind, map_pure]
    refine mapM_bind_congr fun own hown => bind_congr fun others => ?_
    rw [fillAll_append c constructors hown]

theorem Definition.traverse_eq (printer : TypePrinter m) (d : Definition TypeExpr) :
    d.traverse printer = d.fill <$> printer.asked.askAll d.types := by
  cases d with
  | synonym type =>
    rw [traverse, types, TypePrinter.askAll_cons, TypePrinter.askAll_nil]
    simp only [pure_bind, map_bind, map_pure]
    rfl
  | union constructors =>
    have hcalls : ((constructors.flatMap Constructor.args).mapM fun arg =>
        inGenerator (printer .argument arg)) =
          printer.asked.askAll (Definition.union constructors).types := by
      rw [types, ← List.map_flatMap, TypePrinter.askAll, List.mapM_map]
      rfl
    rw [traverse, Constructor.mapM_traverse, hcalls, bind_map_left, map_eq_pure_bind]
    rfl

/-- Replacing the types of a declaration by their texts is asking for all of them in order, and
filling the answers in. -/
theorem Declaration.traverse_eq (printer : TypePrinter m) (d : Declaration TypeExpr) :
    d.traverse printer = d.fill <$> printer.asked.askAll d.definition.types := by
  rw [traverse, Definition.traverse_eq, bind_map_left, map_eq_pure_bind]
  rfl

/-- Printing a declaration is asking for its types, and laying the answers out. -/
theorem Declaration.print_eq [MonadLiftT (Except Fault) m] [LawfulMonadLiftT (Except Fault) m]
    (printer : TypePrinter m) (d : Declaration TypeExpr) (n : Nat) :
    d.print printer n =
      (fun texts => (d.fill texts).text n) <$> printer.asked.askAll d.definition.types := by
  have hindent : liftM (Doc.checkIndent n) = (pure n : m Nat) := monadLift_pure n
  rw [print, traverse_eq, hindent, bind_map_left, map_eq_pure_bind]
  refine bind_congr fun texts => ?_
  rw [pure_bind]

/-- For a synonym that is one call. -/
theorem Declaration.print_synonym [MonadLiftT (Except Fault) m]
    [LawfulMonadLiftT (Except Fault) m] (printer : TypePrinter m) (name : String)
    (vars : List String) (type : TypeExpr) (n : Nat) :
    print printer n ⟨name, vars, .synonym type⟩ =
      (fun answer => text n ⟨name, vars, .synonym answer⟩) <$> printer .standalone type := by
  have hcall : printer.asked.askAll (Definition.synonym type).types =
      (fun answer => [answer]) <$> printer .standalone type := by
    rw [Definition.types, TypePrinter.askAll_cons, TypePrinter.askAll_nil, map_eq_pure_bind]
    refine bind_congr fun answer => ?_
    rw [pure_bind]
  rw [print_eq, hcall, Functor.map_map]
  rfl

/-- For a union it is a call for each argument. -/
theorem Declaration.print_union [MonadLiftT (Except Fault) m] [LawfulMonadLiftT (Except Fault) m]
    (printer : TypePrinter m) (name : String) (vars : List String)
    (constructors : List (Constructor TypeExpr)) (n : Nat) :
    print printer n ⟨name, vars, .union constructors⟩ =
      (fun answers => text n ⟨name, vars, .union (Constructor.fillAll constructors answers)⟩) <$>
        printer.asked.askAll (Definition.union constructors).types :=
  print_eq printer _ n

end

end SyntaxReports
