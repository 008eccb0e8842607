import SyntaxReports.Proofs.DeclarationLines
import SyntaxReports.Proofs.PrinterCalls

/-!
# Ink: layout moves text and never changes it

What is left of a text without its blanks and newlines is its ink (`Line.ink`). Layout brings in
blanks and newlines only, so the ink of blocks that are put together is that of the first, then that
of the second, whatever is on their lines: there may be none, they may be empty, and they may hold
blanks or even newlines.

So the ink of a printed declaration is that of its words, names and printed types, one after the other
(`Declaration.print_ink`). None of it is lost, doubled or moved past another piece.
-/

namespace SyntaxReports

namespace Line

/-- The characters of a text but for its blanks and newlines, in their order. -/
def ink (text : String) : List Char := text.toList.filter fun c => c != ' ' && c != '\n'

@[simp] theorem ink_empty : ink "" = [] := rfl

@[simp] theorem ink_append (text text' : String) : ink (text ++ text') = ink text ++ ink text' := by
  rw [ink, String.toList_append, List.filter_append, ink, ink]

@[simp] theorem ink_blanks (n : Nat) : ink (blanks n) = [] := by
  rw [ink, toList_blanks, List.filter_eq_nil_iff]
  intro c hc
  rw [List.eq_of_mem_replicate hc]
  decide

/-- Moving a line does not change its ink. -/
@[simp] theorem ink_shift (n : Nat) (line : String) : ink (shift n line) = ink line := by
  rw [shift]
  split
  · rfl
  · rw [ink_append, ink_blanks, List.nil_append]

/-- The ink of several texts, one right behind the other. -/
@[simp] theorem ink_concat (texts : List String) : ink (String.join texts) = texts.flatMap ink := by
  rw [ink, String.toList_join, List.filter_flatMap]
  rfl

/-- Newlines between lines are no ink. -/
theorem ink_join (lines : List String) : ink (join lines) = lines.flatMap ink := by
  induction lines with
  | nil => rfl
  | cons line lines ih =>
    cases lines with
    | nil => rw [join_singleton, List.flatMap_singleton]
    | cons next lines =>
      have hnewline : ink "\n" = [] := by decide
      rw [join_cons_cons, ink_append, ink_append, hnewline, List.append_nil, ih,
        List.flatMap_cons (x := line)]

/-- So cutting a text into lines keeps its ink. -/
theorem flatMap_ink_ofText (text : String) : (ofText text).flatMap ink = ink text := by
  rw [← ink_join, join_ofText]

end Line

namespace Doc

/-- The ink on the lines of a block. -/
def ink (d : Doc) : List Char := d.lines.flatMap Line.ink

@[simp] theorem ink_empty : empty.ink = [] := rfl

@[simp] theorem ink_ofText (text : String) : (ofText text).ink = Line.ink text :=
  Line.flatMap_ink_ofText text

theorem ink_render (d : Doc) : Line.ink d.render = d.ink := Line.ink_join d.lines

@[simp] theorem ink_nest (n : Nat) (d : Doc) : (d.nest n).ink = d.ink := by
  rw [ink, lines_nest, List.flatMap_map, ink]
  simp only [Line.ink_shift]

/-- A block beside another adds its ink behind that of the other. -/
@[simp] theorem ink_beside (a b : Doc) (gap : Gap) : (a.beside b gap).ink = a.ink ++ b.ink := by
  obtain rfl | ⟨above, last, rfl⟩ := a.eq_empty_or_concat
  · rw [empty_beside, ink_empty, List.nil_append]
  obtain rfl | ⟨first, rest, rfl⟩ := b.eq_empty_or_cons
  · rw [beside_empty, ink_empty, List.append_nil]
  rw [ink, lines_beside, ink, ink, List.flatMap_append, List.flatMap_append, List.flatMap_cons,
    List.flatMap_singleton, List.flatMap_cons, List.flatMap_map]
  -- the gap and the moves below the seam are blanks
  simp

theorem ink_foldl_beside (docs : List Doc) (row : Doc) :
    (docs.foldl (fun row d => row.beside d) row).ink = row.ink ++ docs.flatMap ink := by
  induction docs generalizing row with
  | nil => rw [List.foldl_nil, List.flatMap_nil, List.append_nil]
  | cons d docs ih => rw [List.foldl_cons, ih, ink_beside, List.flatMap_cons, List.append_assoc]

@[simp] theorem ink_hsep (docs : List Doc) : (hsep docs).ink = docs.flatMap ink :=
  ink_foldl_beside docs empty

@[simp] theorem ink_vcat (docs : List Doc) : (vcat docs).ink = docs.flatMap ink := by
  rw [ink, lines_vcat, List.flatMap_assoc]
  rfl

@[simp] theorem ink_hang (header : Doc) (n : Nat) (body : Doc) :
    (header.hang n body).ink = header.ink ++ body.ink := by
  rw [hang, ink_vcat, List.flatMap_cons, List.flatMap_singleton, ink_nest]

/-- Texts in a row have the ink of the texts. -/
theorem ink_hsep_ofText (texts : List String) :
    (hsep (texts.map ofText)).ink = texts.flatMap Line.ink := by
  rw [ink_hsep, List.flatMap_map]
  simp only [ink_ofText]

end Doc

/-! ## Declarations -/

theorem Constructor.ink_alternative (mark : String) (c : Constructor String) :
    (c.alternative mark).ink = Line.ink (mark ++ c.name ++ String.join c.args) := by
  rw [alternative, doc, ← List.map_cons, Doc.ink_beside, Doc.ink_hsep_ofText, Doc.ink_ofText,
    List.flatMap_cons]
  simp

/-- The ink of a union is that of its constructors, each behind its mark. -/
theorem Definition.ink_union (constructors : List (Constructor String)) :
    (union constructors).body.ink = (constructors.mapIdx fun i c =>
      (if i = 0 then "=" else "|") ++ c.name ++ String.join c.args).flatMap Line.ink := by
  cases constructors with
  | nil => rfl
  | cons first others =>
    rw [← mapIdx_mark fun mark (c : Constructor String) => mark ++ c.name ++ String.join c.args,
      body, Doc.ink_vcat, List.flatMap_cons, List.flatMap_cons, List.flatMap_map,
      List.flatMap_map]
    simp only [Constructor.ink_alternative]

namespace Declaration

theorem ink_header {α : Type} (d : Declaration α) :
    d.header.ink = (d.definition.keyword :: d.name :: d.vars ++ d.definition.closing).flatMap
      Line.ink :=
  Doc.ink_hsep_ofText _

theorem ink_text (n : Nat) (d : Declaration String) :
    Line.ink (d.text n) = d.header.ink ++ d.definition.body.ink := by
  rw [text, Doc.ink_render, doc, Doc.ink_hang]

theorem ink_synonym (name : String) (vars : List String) (n : Nat) (answer : String) :
    Line.ink (text n ⟨name, vars, .synonym answer⟩) =
      Line.ink ("typealias" ++ name ++ String.join vars ++ "=" ++ answer) := by
  have hkeyword : Line.ink "type alias" = Line.ink "typealias" := by decide
  rw [ink_text, ink_header]
  simp [Definition.keyword, Definition.closing, Definition.body, hkeyword]

theorem ink_union (name : String) (vars : List String) (n : Nat)
    (constructors : List (Constructor String)) :
    Line.ink (text n ⟨name, vars, .union constructors⟩) =
      Line.ink ("type" ++ name ++ String.join vars ++ String.join (constructors.mapIdx fun i c =>
        (if i = 0 then "=" else "|") ++ c.name ++ String.join c.args)) := by
  rw [ink_text, ink_header, Definition.ink_union]
  simp [Definition.keyword, Definition.closing]

/-- **Printing a declaration moves text and never changes it.** Without blanks and newlines, the text
of a synonym is that of its keyword, name, variables, equals sign and printed type, and the text of a
union that of its keyword, name and variables, and for each constructor of its mark, its name and its
printed arguments. The constructors have the names that they were given, and for arguments the answers
of the printer, all of them and in order. -/
theorem print_ink {m : Type → Type} [Monad m] [LawfulMonad m] [MonadLiftT (Except Fault) m]
    [LawfulMonadLiftT (Except Fault) m] [MonadGenerator m] (printer : TypePrinter m)
    (name : String) (vars : List String) (n : Nat) :
    (∀ type, ∃ layout : String → String,
      print printer n ⟨name, vars, .synonym type⟩ = layout <$> printer .standalone type ∧
      ∀ answer, Line.ink (layout answer) =
        Line.ink ("typealias" ++ name ++ String.join vars ++ "=" ++ answer)) ∧
      ∀ constructors, ∃ layout : List String → String,
        print printer n ⟨name, vars, .union constructors⟩ =
          layout <$> printer.asked.askAll (Definition.union constructors).types ∧
        ∀ answers,
          Line.ink (layout answers) =
            Line.ink ("type" ++ name ++ String.join vars ++
              String.join ((Constructor.fillAll constructors answers).mapIdx fun i c =>
                (if i = 0 then "=" else "|") ++ c.name ++ String.join c.args)) ∧
          (Constructor.fillAll constructors answers).map Constructor.name =
            constructors.map Constructor.name ∧
          (answers.length = (constructors.flatMap Constructor.args).length →
            (Constructor.fillAll constructors answers).flatMap Constructor.args = answers) := by
  refine ⟨fun type => ⟨_, print_synonym printer name vars type n, ink_synonym name vars n⟩, ?_⟩
  refine fun constructors => ⟨_, print_union printer name vars constructors n, fun answers => ?_⟩
  exact ⟨ink_union name vars n _, Constructor.map_name_fillAll constructors answers,
    Constructor.flatMap_args_fillAll⟩

/-- Blank lines at the end, lines of blanks only and a name of two lines change nothing. -/
theorem print_ink_blanks :
    let printer : TypePrinter (StateT Nat (Except Fault)) := fun _ _ =>
      modifyGet fun asked => (if asked = 0 then "( a,\n   \n" else "", asked + 1)
    ∃ text, (print printer 3
        ⟨"Two\nlines", [""], .union [⟨"", []⟩, ⟨" B\n", [.var "a", .var "a"]⟩]⟩).run 0 =
          .ok (text, 2) ∧
      Line.ink text = "typeTwolines=|B(a,".toList := by
  intro printer
  obtain ⟨-, hunion⟩ := print_ink printer "Two\nlines" [""] 3
  obtain ⟨layout, hprint, hink⟩ := hunion [⟨"", []⟩, ⟨" B\n", [.var "a", .var "a"]⟩]
  refine ⟨layout ["( a,\n   \n", ""], ?_, ?_⟩
  · exact (congrArg (fun run => StateT.run run 0) hprint).trans rfl
  · rw [(hink ["( a,\n   \n", ""]).1]
    decide

end Declaration

end SyntaxReports
