import SyntaxReports.Proofs.DeclarationLines
import SyntaxReports.Proofs.PrinterCalls

/-!
# Rows of declarations: the printed text, line by line

The lines of a printed declaration can be told without its layout. The first one has the words of the
header. Below it a synonym has the lines of its type, moved to the right but for the empty ones, and
a union has a row of words for each constructor, behind an equals sign or a bar.

`Declaration.print_rows` says so for every printer. Names must be single lines, and in a union the
answers of the printer as well; words may be empty, and then two blanks stand side by side.
-/

namespace SyntaxReports

/-- The rows of a union have the constructors in their order, the first behind an equals sign. -/
theorem Definition.rows_union (constructors : List (Constructor String)) :
    (union constructors).rows =
      constructors.mapIdx fun i c => c.row (if i = 0 then "=" else "|") := by
  cases constructors with
  | nil => rfl
  | cons first others => exact mapIdx_mark Constructor.row first others

/-- No row of a union is empty, so all of them are moved to the right. -/
theorem Definition.map_shift_rows (constructors : List (Constructor String)) (n : Nat) :
    (union constructors).rows.map (Line.shift n) = constructors.mapIdx fun i c =>
      Line.blanks n ++ " ".intercalate ((if i = 0 then "=" else "|") :: c.name :: c.args) := by
  refine List.ext_getElem? fun i => ?_
  rw [rows_union, List.getElem?_map, List.getElem?_mapIdx, List.getElem?_mapIdx, Option.map_map]
  refine congrArg (constructors[i]?.map ·) (funext fun c => ?_)
  exact Line.shift_of_ne (row_ne_empty _ _ _) n

namespace Declaration

variable {name : String} {vars : List String}

/-- The lines of a synonym, whatever its text is. -/
theorem ofText_synonym (hnames : ∀ word ∈ name :: vars, '\n' ∉ word.toList) (n : Nat)
    (answer : String) :
    Line.ofText (text n ⟨name, vars, .synonym answer⟩) =
      " ".intercalate ("type alias" :: name :: vars ++ ["="]) ::
        (Line.ofText answer).map fun line => if line = "" then "" else Line.blanks n ++ line := by
  rw [ofText_text, lines_doc (d := ⟨name, vars, .synonym answer⟩) hnames trivial, Line.shift_eq]
  rfl

/-- The lines of a union of single lines. -/
theorem ofText_union (hnames : ∀ word ∈ name :: vars, '\n' ∉ word.toList) (n : Nat)
    {constructors : List (Constructor String)} (hrows : ∀ c ∈ constructors, c.IsRow) :
    Line.ofText (text n ⟨name, vars, .union constructors⟩) =
      " ".intercalate ("type" :: name :: vars) :: constructors.mapIdx fun i c =>
        Line.blanks n ++ " ".intercalate ((if i = 0 then "=" else "|") :: c.name :: c.args) := by
  have hheader : headerWords (⟨name, vars, .union constructors⟩ : Declaration String) =
      "type" :: name :: vars := List.append_nil _
  rw [ofText_text, lines_doc (d := ⟨name, vars, .union constructors⟩) hnames hrows, hheader,
    Definition.map_shift_rows]

theorem isRow_of_mem_fillAll {constructors : List (Constructor TypeExpr)} {answers : List String}
    (hnames : ∀ c ∈ constructors, '\n' ∉ c.name.toList)
    (hanswers : ∀ answer ∈ answers, '\n' ∉ answer.toList) :
    ∀ c ∈ Constructor.fillAll constructors answers, c.IsRow := by
  intro c hc
  have hname : c.name ∈ constructors.map Constructor.name := by
    rw [← Constructor.map_name_fillAll constructors answers]
    exact List.mem_map_of_mem hc
  obtain ⟨c', hc', hsame⟩ := List.mem_map.mp hname
  refine List.forall_mem_cons.mpr ⟨?_, fun arg harg => ?_⟩
  · rw [← hsame]
    exact hnames c' hc'
  · exact hanswers arg (Constructor.mem_of_mem_fillAll hc harg)

/-- **A printed declaration, line by line.** The first line is a row with the keyword, the name and
the variables. A synonym has the lines of its type below, each `n` blanks further to the right unless
it is empty. A union has one line for each constructor below: `n` blanks, and then a row with an equals
sign for the first constructor or a bar for any other, the name and the printed arguments. -/
theorem print_rows {m : Type → Type} [Monad m] [LawfulMonad m] [MonadLiftT (Except Fault) m]
    [LawfulMonadLiftT (Except Fault) m] [MonadGenerator m] (printer : TypePrinter m)
    (hnames : ∀ word ∈ name :: vars, '\n' ∉ word.toList) (n : Nat) :
    (∀ type, ∃ layout : String → String,
      print printer n ⟨name, vars, .synonym type⟩ = layout <$> printer .standalone type ∧
      ∀ answer, Line.ofText (layout answer) =
        " ".intercalate ("type alias" :: name :: vars ++ ["="]) ::
          (Line.ofText answer).map fun line => if line = "" then "" else Line.blanks n ++ line) ∧
      ∀ constructors, (∀ c ∈ constructors, '\n' ∉ c.name.toList) → ∃ layout : List String → String,
        print printer n ⟨name, vars, .union constructors⟩ =
          layout <$> printer.asked.askAll (Definition.union constructors).types ∧
        ∀ answers, (∀ answer ∈ answers, '\n' ∉ answer.toList) →
          Line.ofText (layout answers) =
            " ".intercalate ("type" :: name :: vars) ::
              (Constructor.fillAll constructors answers).mapIdx (fun i c =>
                Line.blanks n ++
                  " ".intercalate ((if i = 0 then "=" else "|") :: c.name :: c.args)) ∧
          (Line.ofText (layout answers)).length = constructors.length + 1 := by
  refine ⟨fun type => ⟨_, print_synonym printer name vars type n, ofText_synonym hnames n⟩, ?_⟩
  intro constructors hconstructors
  refine ⟨_, print_union printer name vars constructors n, fun answers hanswers => ?_⟩
  have hlines := ofText_union hnames n (isRow_of_mem_fillAll hconstructors hanswers)
  have hlength : (Constructor.fillAll constructors answers).length = constructors.length := by
    rw [← List.length_map, Constructor.map_name_fillAll, List.length_map]
  refine ⟨hlines, ?_⟩
  rw [hlines, List.length_cons, List.length_mapIdx, hlength]

/-- Words may be empty, and so may lines of a type; the printer may answer the same call twice and
differently. -/
theorem print_rows_empty_words :
    let printer : TypePrinter (StateT Nat (Except Fault)) := fun position _ =>
      modifyGet fun asked =>
        (match position with
          | .standalone => "( a,\n\n  b )"
          | .argument => if asked = 0 then "" else "b", asked + 1)
    (∃ text, (print printer 2 ⟨"Box", ["", "a"], .synonym (.var "a")⟩).run 0 = .ok (text, 1) ∧
      Line.ofText text = ["type alias Box  a =", "  ( a,", "", "    b )"]) ∧
      ∃ text, (print printer 2 ⟨"Box", ["", "a"],
          .union [⟨"N", []⟩, ⟨"B", [.var "a", .var "a"]⟩]⟩).run 0 = .ok (text, 2) ∧
        Line.ofText text = ["type Box  a", "  = N", "  | B  b"] := by
  intro printer
  have hnames : ∀ word ∈ "Box" :: ["", "a"], '\n' ∉ word.toList := by decide
  obtain ⟨hsynonym, hunion⟩ := print_rows printer hnames 2
  constructor
  · obtain ⟨layout, hprint, hlines⟩ := hsynonym (.var "a")
    refine ⟨layout "( a,\n\n  b )", ?_, ?_⟩
    · exact (congrArg (fun run => StateT.run run 0) hprint).trans rfl
    · rw [hlines]
      decide
  · obtain ⟨layout, hprint, hlines⟩ :=
      hunion [⟨"N", []⟩, ⟨"B", [.var "a", .var "a"]⟩] (by decide)
    refine ⟨layout ["", "b"], ?_, ?_⟩
    · exact (congrArg (fun run => StateT.run run 0) hprint).trans rfl
    · rw [(hlines ["", "b"] (by decide)).1]
      decide

end Declaration

end SyntaxReports
