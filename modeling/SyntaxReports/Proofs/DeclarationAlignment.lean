import SyntaxReports.Proofs.DeclarationLines
import SyntaxReports.Proofs.Placement
import SyntaxReports.Proofs.PrinterCalls

/-!
# Aligned declarations: each argument keeps a column of its own

The name and the arguments of a constructor may have several lines each. They stand one behind the
other, so that an argument begins in the last row of the one before it, and all its lines begin at
the column of its first one. `Declaration.print_union_aligned` says so for the text of a union, with
all the padding that the layout has put in: the mark in front of the constructor, the indent, the
header and the constructors above.

Empty lines are not padded. An argument that ends in one gives the next argument a column that has
nothing to do with its own, which is the only case where the columns do not follow from each other.
-/

namespace SyntaxReports

/-! ## Rows of texts -/

/-- The number of rows of texts that stand side by side: each begins in the last row of the one
before. -/
def Line.rowsBeside (texts : List String) : Nat :=
  texts.foldl (fun rows text => rows + ((ofText text).length - 1)) 1

/-- Blocks of lines stand in a text, one behind the other, each at a row and a column. -/
structure Line.Aligned (text : String) (blocks : List (List String)) (row column : Nat → Nat) :
    Prop where
  /-- a line of a block with something on it stands at the column of the block -/
  stands : ∀ k block j line, blocks[k]? = some block → block[j]? = some line → line ≠ "" →
    ∃ r, (ofText text)[row k + j]? = some r ∧ StandsAt (column k) line r
  /-- a block begins in the last row of the one before -/
  row_succ : ∀ k block, blocks[k]? = some block → row (k + 1) = row k + block.length - 1
  /-- and a blank behind it, if that one has a single line or something on its last line -/
  column_succ : ∀ k block last, blocks[k]? = some block → block.getLast? = some last →
    block.length = 1 ∨ last ≠ "" → column (k + 1) = column k + last.length + 1

namespace Doc

theorem nextRow_foldl_beside (texts : List String) (row : Doc) :
    ((texts.map ofText).foldl (fun row d => row.beside d) row).nextRow + 1 =
      texts.foldl (fun rows text => rows + ((Line.ofText text).length - 1)) (row.nextRow + 1) := by
  induction texts generalizing row with
  | nil => rfl
  | cons text texts ih =>
    rw [List.map_cons, List.foldl_cons, ih, nextRow_beside row (lines_ofText_ne_nil text),
      List.foldl_cons, Nat.add_right_comm]
    rfl

theorem height_hsep_ofText (text : String) (texts : List String) :
    (hsep ((text :: texts).map ofText)).height = Line.rowsBeside (text :: texts) := by
  have hne : (hsep ((text :: texts).map ofText)).lines ≠ [] :=
    hsep_ne_nil (lines_ofText_ne_nil text) _
  rw [← nextRow_add_one hne]
  exact nextRow_foldl_beside (text :: texts) empty

end Doc

/-! ## Constructors -/

/-- Marks take one column of one row. -/
theorem Definition.marks_single : ∀ mark ∈ marks, '\n' ∉ mark.toList ∧ mark.length = 1 := by
  decide

namespace Constructor

variable {mark : String}

/-- The blocks of a constructor that stand side by side: its name and its arguments. -/
def blocks (c : Constructor String) : List Doc := (c.name :: c.args).map Doc.ofText

/-- What stands in front of a block of the constructor: the blocks before it. -/
def front (c : Constructor String) (k : Nat) : Doc := Doc.hsep (c.blocks.take k)

theorem doc_ne_nil (c : Constructor String) : c.doc.lines ≠ [] :=
  Doc.hsep_ne_nil (Doc.lines_ofText_ne_nil c.name) _

/-- The rows of an alternative are those of its name and its arguments side by side. -/
theorem height_alternative (hmark : '\n' ∉ mark.toList) (c : Constructor String) :
    (c.alternative mark).height = Line.rowsBeside (c.name :: c.args) := by
  have hdoc : 0 < c.doc.height := List.length_pos_iff.mpr c.doc_ne_nil
  have hheight : (c.alternative mark).height = 1 + (c.doc.height - 1) := by
    rw [alternative, Doc.height_beside (Doc.lines_ofText_ne_nil mark) c.doc_ne_nil,
      Doc.ofText_eq hmark]
    rfl
  rw [hheight, Nat.add_sub_of_le hdoc, doc, ← List.map_cons, Doc.height_hsep_ofText]

/-- The place of a line of a block in the alternative, two columns behind the edge. -/
theorem alternative_shows (hmark : mark ∈ Definition.marks) {c : Constructor String} {k j : Nat}
    {d : Doc} {line : String} (hd : c.blocks[k]? = some d) (hline : d.lines[j]? = some line)
    (hne : line ≠ "") :
    (c.alternative mark).Shows ((c.front k).nextRow + j) (2 + (c.front k).nextColumn) line := by
  obtain ⟨hnewline, hlength⟩ := Definition.marks_single mark hmark
  have hrow : (Doc.ofText mark).nextRow = 0 := by
    rw [Doc.ofText_eq hnewline]
    rfl
  have hcolumn : (Doc.ofText mark).nextColumn = 2 := by
    rw [Doc.nextColumn_of_ne (Doc.lines_ofText_ne_nil mark), Doc.ofText_eq hnewline]
    exact congrArg (· + 1) hlength
  have hshows := (Doc.hsep_shows hd hline hne).behind hne (Doc.ofText mark)
  rwa [hrow, hcolumn, Nat.zero_add] at hshows

/-- A block begins in the last row of the one before. -/
theorem nextRow_front_succ {c : Constructor String} {k : Nat} {d : Doc}
    (hd : c.blocks[k]? = some d) (hne : d.lines ≠ []) :
    (c.front (k + 1)).nextRow = (c.front k).nextRow + (d.height - 1) := by
  rw [front, Doc.hsep_take_succ hd, Doc.nextRow_beside _ hne, front]

/-- A block begins a blank behind the one before, unless that one ends in an empty line. -/
theorem nextColumn_front_succ {c : Constructor String} {k : Nat} {d : Doc}
    (hd : c.blocks[k]? = some d) (hne : d.lines ≠ []) (hlast : d.height = 1 ∨ d.lastLine ≠ "") :
    (c.front (k + 1)).nextColumn = (c.front k).nextColumn + d.lastWidth + 1 := by
  rw [front, Doc.hsep_take_succ hd, Doc.nextColumn_beside _ hne hlast, front]

end Constructor

/-! ## The union -/

/-- The number of rows above what comes behind the header and the constructors of a union. -/
def Declaration.rowsAbove (name : String) (vars : List String)
    (constructors : List (Constructor String)) : Nat :=
  constructors.foldl (fun rows c => rows + Line.rowsBeside (c.name :: c.args))
    (Line.rowsBeside ("type" :: name :: vars))

theorem Doc.height_vcat_cons (d : Doc) (docs : List Doc) :
    (vcat (d :: docs)).height = d.height + (vcat docs).height := by
  rw [height, lines_vcat, List.flatMap_cons, List.length_append, height, height, lines_vcat]

/-- One of the constructors in the body of a union: behind a mark, and below those before it. -/
theorem Definition.body_append (before : List (Constructor String)) (c : Constructor String)
    (after : List (Constructor String)) :
    ∃ above mark below, mark ∈ marks ∧
      (union (before ++ c :: after)).body = Doc.vcat (above ++ c.alternative mark :: below) ∧
      ∀ rows, rows + (Doc.vcat above).height =
        before.foldl (fun rows c => rows + Line.rowsBeside (c.name :: c.args)) rows := by
  have hheight : ∀ constructors : List (Constructor String), ∀ rows,
      rows + (Doc.vcat (constructors.map (·.alternative "|"))).height =
        constructors.foldl (fun rows c => rows + Line.rowsBeside (c.name :: c.args)) rows := by
    intro constructors
    induction constructors with
    | nil => exact fun rows => rfl
    | cons c constructors ih =>
      intro rows
      rw [List.map_cons, Doc.height_vcat_cons, Constructor.height_alternative (by decide),
        List.foldl_cons, ← ih, Nat.add_assoc]
  cases before with
  | nil => exact ⟨[], "=", after.map (·.alternative "|"), by decide, rfl, fun rows => rfl⟩
  | cons first before =>
    refine ⟨first.alternative "=" :: before.map (·.alternative "|"), "|",
      after.map (·.alternative "|"), by decide, ?_, fun rows => ?_⟩
    · rw [List.cons_append, body, List.map_append, List.map_cons, List.cons_append]
    · rw [Doc.height_vcat_cons, Constructor.height_alternative (by decide), List.foldl_cons,
        ← Nat.add_assoc, hheight]

namespace Declaration

/-- The place of a line of a constructor in the layout of its union. -/
theorem union_shows (name : String) (vars : List String) (before : List (Constructor String))
    {c : Constructor String} (after : List (Constructor String)) (n : Nat) {k j : Nat} {d : Doc}
    {line : String} (hd : c.blocks[k]? = some d) (hline : d.lines[j]? = some line)
    (hne : line ≠ "") :
    (doc n ⟨name, vars, .union (before ++ c :: after)⟩).Shows
      (rowsAbove name vars before + (c.front k).nextRow + j)
      (n + 2 + (c.front k).nextColumn) line := by
  obtain ⟨above, mark, below, hmark, hbody, hheight⟩ := Definition.body_append before c after
  have hheader : (header (⟨name, vars, .union (before ++ c :: after)⟩ : Declaration String)).height =
      Line.rowsBeside ("type" :: name :: vars) := by
    rw [header, Definition.keyword, Definition.closing, List.append_nil, Doc.height_hsep_ofText]
  -- from the alternative out: among the others, then below the header and to the right
  have hbodyShows := (Constructor.alternative_shows hmark hd hline hne).vcat above below
  rw [← hbody] at hbodyShows
  have hshows := hbodyShows.hang hne
    (header (⟨name, vars, .union (before ++ c :: after)⟩ : Declaration String)) n
  rw [hheader, ← Nat.add_assoc, hheight, ← Nat.add_assoc, ← Nat.add_assoc] at hshows
  exact hshows

/-- Rows and columns of a constructor, in a union of texts: what stands in front of each block tells
where the block begins. -/
theorem union_aligned (name : String) (vars : List String) (before : List (Constructor String))
    (c : Constructor String) (after : List (Constructor String)) (n : Nat) :
    ∃ row column : Nat → Nat, row 0 = rowsAbove name vars before ∧ column 0 = n + 2 ∧
      Line.Aligned (text n ⟨name, vars, .union (before ++ c :: after)⟩)
        ((c.name :: c.args).map Line.ofText) row column := by
  -- a block of lines is the block of one of the texts
  have hblocks : ∀ (k : Nat) (block : List String),
      ((c.name :: c.args).map Line.ofText)[k]? = some block →
        block ≠ [] ∧ c.blocks[k]? = some ⟨block⟩ := by
    intro k block hblock
    rw [List.getElem?_map, Option.map_eq_some_iff] at hblock
    obtain ⟨text, htext, rfl⟩ := hblock
    refine ⟨Line.ofText_ne_nil text, ?_⟩
    rw [Constructor.blocks, List.getElem?_map, htext]
    rfl
  refine ⟨fun k => rowsAbove name vars before + (c.front k).nextRow,
    fun k => n + 2 + (c.front k).nextColumn, rfl, rfl, ?_, ?_, ?_⟩
  · intro k block j line hblock hline hne
    obtain ⟨-, hd⟩ := hblocks k block hblock
    rw [ofText_text]
    exact union_shows name vars before after n hd hline hne
  · intro k block hblock
    obtain ⟨hlines, hd⟩ := hblocks k block hblock
    have hlength : 0 < block.length := List.length_pos_iff.mpr hlines
    have hnext : (c.front (k + 1)).nextRow = (c.front k).nextRow + (block.length - 1) :=
      Constructor.nextRow_front_succ hd hlines
    rw [hnext]
    omega
  · intro k block last hblock hlast hor
    obtain ⟨hlines, hd⟩ := hblocks k block hblock
    have hlastLine : Doc.lastLine ⟨block⟩ = last := by
      rw [Doc.lastLine, List.getLastD_eq_getLast?, hlast, Option.getD_some]
    rw [← hlastLine] at hor
    rw [Constructor.nextColumn_front_succ hd hlines hor, Doc.lastWidth, hlastLine]
    omega

/-- **Printed arguments keep their columns**, whatever a printer answers for them and however it
comes to its answers. The text of a union is laid out from the answers alone, and in it the name of
each constructor stands in the first row of the constructor, two columns behind the indent, and each
argument behind the one before it, with all its lines at one column. -/
theorem print_union_aligned {m : Type → Type} [Monad m] [LawfulMonad m]
    [MonadLiftT (Except Fault) m] [LawfulMonadLiftT (Except Fault) m] [MonadGenerator m]
    (printer : TypePrinter m) (name : String) (vars : List String)
    (constructors : List (Constructor TypeExpr)) (n : Nat) :
    ∃ layout : List String → String,
      print printer n ⟨name, vars, .union constructors⟩ =
        layout <$> printer.asked.askAll (Definition.union constructors).types ∧
      ∀ texts before c after, Constructor.fillAll constructors texts = before ++ c :: after →
        ∃ row column : Nat → Nat, row 0 = rowsAbove name vars before ∧ column 0 = n + 2 ∧
          Line.Aligned (layout texts) ((c.name :: c.args).map Line.ofText) row column := by
  refine ⟨_, print_eq printer _ n, ?_⟩
  intro texts before c after hfill
  rw [fill, Definition.fill, hfill]
  exact union_aligned name vars before c after n

/-- A printer that remembers how often it was asked, and answers three lines with an empty one among
them at first and a single line from then on. -/
theorem print_union_aligned_turns :
    let printer : TypePrinter (StateT Nat (Except Fault)) := fun _ _ =>
      modifyGet fun asked => (if asked = 0 then "( a,\n\n  b )" else "c", asked + 1)
    ∃ text row column,
      (print printer 4
        ⟨"Pair", ["a"], .union [⟨"Nil", []⟩, ⟨"Pair", [.var "a", .var "a"]⟩]⟩).run 0 =
        .ok (text, 2) ∧
      row 0 = 2 ∧ column 0 = 6 ∧
      Line.Aligned text [["Pair"], ["( a,", "", "  b )"], ["c"]] row column := by
  intro printer
  obtain ⟨layout, hprint, haligned⟩ := print_union_aligned printer "Pair" ["a"]
    [⟨"Nil", []⟩, ⟨"Pair", [.var "a", .var "a"]⟩] 4
  obtain ⟨row, column, hrow, hcolumn, htext⟩ :=
    haligned ["( a,\n\n  b )", "c"] [⟨"Nil", []⟩] ⟨"Pair", ["( a,\n\n  b )", "c"]⟩ [] rfl
  refine ⟨layout ["( a,\n\n  b )", "c"], row, column, ?_, ?_, hcolumn, htext⟩
  · exact (congrArg (fun run => StateT.run run 0) hprint).trans rfl
  · rw [hrow]
    decide

end Declaration

end SyntaxReports
