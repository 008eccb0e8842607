import SyntaxReports.Declaration
import SyntaxReports.Proofs.TypeText

/-!
# Printing declarations: the texts of the types, laid out

A printer may fail, but where it answers for every type in a declaration
(`TypePrinter.Answers`), printing is replacing each type by its text (`Declaration.map`) and laying
out the result (`TypePrinter.Answers.print_eq`). What the printer does with other types does not
matter.
-/

namespace SyntaxReports

/-! ## Types replaced by their texts -/

section Map

variable {α β : Type}

/-- The constructor with every argument replaced. -/
def Constructor.map (f : α → β) (c : Constructor α) : Constructor β := ⟨c.name, c.args.map f⟩

/-- The definition with every type in it replaced, each with its position. -/
def Definition.map (f : Position → α → β) : Definition α → Definition β
  | .synonym type => .synonym (f .standalone type)
  | .union constructors => .union (constructors.map (Constructor.map (f .argument)))

/-- The declaration with every type in it replaced. -/
def Declaration.map (f : Position → α → β) (d : Declaration α) : Declaration β :=
  ⟨d.name, d.vars, d.definition.map f⟩

/-- The types in the definition, each with its position. -/
def Definition.types : Definition α → List (Position × α)
  | .synonym type => [(.standalone, type)]
  | .union constructors => constructors.flatMap fun c => c.args.map (Prod.mk .argument)

/-- The names of the constructors, if there are any. -/
def Definition.names : Definition α → List String
  | .synonym _ => []
  | .union constructors => constructors.map Constructor.name

/-- The names in the declaration: its own, the variables and those of the constructors. -/
def Declaration.names (d : Declaration α) : List String := d.name :: d.vars ++ d.definition.names

theorem Definition.mem_types_of_arg {constructors : List (Constructor α)} {c : Constructor α}
    {arg : α} (hc : c ∈ constructors) (harg : arg ∈ c.args) :
    (.argument, arg) ∈ (Definition.union constructors).types :=
  List.mem_flatMap.mpr ⟨c, hc, List.mem_map_of_mem harg⟩

theorem Definition.types_map (f : Position → α → β) (d : Definition α) :
    (d.map f).types = d.types.map fun p => (p.1, f p.1 p.2) := by
  cases d with
  | synonym type => rfl
  | union constructors =>
    rw [map, types, types, List.flatMap_map, List.map_flatMap]
    simp only [Constructor.map, List.map_map, Function.comp_def]

theorem Declaration.names_map (f : Position → α → β) (d : Declaration α) :
    (d.map f).names = d.names := by
  obtain ⟨name, vars, type | constructors⟩ := d
  · rfl
  · rw [names, names, map, Definition.map, Definition.names, Definition.names, List.map_map]
    rfl

end Map

/-! ## Printing is replacing -/

section Answers

variable {m : Type → Type} [Monad m] [LawfulMonad m] {α β : Type}

theorem mapM_eq_pure {f : α → m β} {g : α → β} {xs : List α} (h : ∀ x ∈ xs, f x = pure (g x)) :
    xs.mapM f = pure (xs.map g) := by
  induction xs with
  | nil => rw [List.mapM_nil, List.map_nil]
  | cons x xs ih =>
    obtain ⟨hx, hxs⟩ := List.forall_mem_cons.mp h
    rw [List.mapM_cons, hx, pure_bind, ih hxs, pure_bind, List.map_cons]

variable [MonadGenerator m] [LawfulMonadGenerator m]

theorem Definition.traverse_eq_pure {f : Position → α → m β} {g : Position → α → β}
    {d : Definition α} (h : ∀ p ∈ d.types, f p.1 p.2 = pure (g p.1 p.2)) :
    d.traverse f = pure (d.map g) := by
  cases d with
  | synonym type =>
    have htype : f .standalone type = pure (g .standalone type) := h _ (List.mem_singleton_self _)
    rw [Definition.traverse, htype, pure_bind, Definition.map]
  | union constructors =>
    have hconstructor : ∀ c ∈ constructors,
        c.traverse (f .argument) = pure (c.map (g .argument)) := by
      intro c hc
      have harg : ∀ arg ∈ c.args, inGenerator (f .argument arg) = pure (g .argument arg) := by
        intro arg harg
        have hanswer : f .argument arg = pure (g .argument arg) :=
          h _ (Definition.mem_types_of_arg hc harg)
        rw [hanswer, inGenerator_pure]
      rw [Constructor.traverse, mapM_eq_pure harg, pure_bind, Constructor.map]
    rw [Definition.traverse, mapM_eq_pure hconstructor, pure_bind, Definition.map]

/-- Where the printer does nothing but answer, printing replaces the types by their texts and lays
out the result. -/
theorem Declaration.print_eq_pure [MonadLiftT (Except Fault) m]
    [LawfulMonadLiftT (Except Fault) m] {printer : TypePrinter m}
    {texts : Position → TypeExpr → String} {d : Declaration TypeExpr}
    (h : ∀ p ∈ d.definition.types, printer p.1 p.2 = pure (texts p.1 p.2)) (n : Nat) :
    d.print printer n = pure ((d.map texts).text n) := by
  have hindent : liftM (Doc.checkIndent n) = (pure n : m Nat) := monadLift_pure n
  rw [print, traverse, Definition.traverse_eq_pure h, pure_bind, pure_bind, hindent, pure_bind]
  rfl

end Answers

/-- The printer answers for every type in the definition, and with these texts. -/
def TypePrinter.Answers (printer : TypePrinter (Except Fault))
    (texts : Position → TypeExpr → String) (d : Definition TypeExpr) : Prop :=
  ∀ p ∈ d.types, printer p.1 p.2 = .ok (texts p.1 p.2)

/-- The standard printer answers wherever nothing is foreign. -/
theorem TypePrinter.standard_answers {d : Definition TypeExpr}
    (h : ∀ p ∈ d.types, p.2.foreigns = []) : TypePrinter.standard.Answers TypeExpr.text d :=
  fun p hp => TypeExpr.print_eq_ok (h p hp) p.1

namespace TypePrinter.Answers

variable {printer : TypePrinter (Except Fault)} {texts : Position → TypeExpr → String}

theorem traverse_eq {d : Declaration TypeExpr} (h : printer.Answers texts d.definition) :
    d.traverse printer = .ok (d.map texts) := by
  rw [Declaration.traverse, Definition.traverse_eq_pure h]
  rfl

/-- Printing replaces the types by their texts and lays out the result. -/
theorem print_eq {d : Declaration TypeExpr} (h : printer.Answers texts d.definition)
    (indent : Nat) : d.print printer indent = .ok ((d.map texts).text indent) :=
  Declaration.print_eq_pure h indent

end TypePrinter.Answers

end SyntaxReports
