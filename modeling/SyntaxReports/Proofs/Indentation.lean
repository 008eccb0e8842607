import SyntaxReports.Proofs.Grouping

/-!
# Indentation: blocks moved to the right

Moving a block twice is moving it once, and moving blocks before they are put together is moving what
they make. On top of each other this holds of any blocks. Beside each other it takes something on the
line where they meet: the block on the right is aligned with that line and moves along with it, while
an empty line stays where it is.

No move fills an empty line or empties another. Which lines are empty (`Doc.emptyLines`) is known from
the parts, without the indents. `Doc.nest_action` has both, the laws and the empty lines.
-/

namespace SyntaxReports.Doc

/-! ## Empty lines -/

/-- Which lines of the block are empty, from the top. -/
def emptyLines (d : Doc) : List Bool := d.lines.map String.isEmpty

@[simp] theorem emptyLines_nest (n : Nat) (d : Doc) : (d.nest n).emptyLines = d.emptyLines := by
  rw [emptyLines, lines_nest, List.map_map, emptyLines]
  exact congrArg (d.lines.map ·) (funext (Line.isEmpty_shift n))

@[simp] theorem emptyLines_vcat (docs : List Doc) :
    (vcat docs).emptyLines = docs.flatMap emptyLines := by
  rw [emptyLines, lines_vcat, List.map_flatMap]
  rfl

@[simp] theorem emptyLines_hang (header : Doc) (n : Nat) (body : Doc) :
    (header.hang n body).emptyLines = header.emptyLines ++ body.emptyLines := by
  rw [hang, emptyLines_vcat, List.flatMap_cons, List.flatMap_singleton, emptyLines_nest]

/-- A block with something on its last line. -/
theorem exists_concat_of_lastLine {d : Doc} (h : d.lastLine ≠ "") :
    ∃ above last, last ≠ "" ∧ d = ⟨above ++ [last]⟩ := by
  obtain rfl | ⟨above, last, rfl⟩ := d.eq_empty_or_concat
  · exact absurd rfl h
  · rw [lastLine_concat] at h
    exact ⟨above, last, h, rfl⟩

/-- Beside a line with something on it, the first line of a block is no line of its own, and the other
ones are as they were. -/
theorem emptyLines_beside {a : Doc} (ha : a.lastLine ≠ "") (b : Doc) (gap : Gap) :
    (a.beside b gap).emptyLines = a.emptyLines ++ b.emptyLines.tail := by
  obtain rfl | ⟨first, rest, rfl⟩ := b.eq_empty_or_cons
  · rw [beside_empty]
    exact (List.append_nil _).symm
  obtain ⟨above, last, hlast, rfl⟩ := exists_concat_of_lastLine ha
  have hseam : (last ++ Line.blanks gap.width ++ first).isEmpty = last.isEmpty := by
    rw [Bool.eq_iff_iff, String.isEmpty_iff, String.isEmpty_iff, String.append_eq_empty_iff,
      String.append_eq_empty_iff]
    exact ⟨fun h => h.1.1, fun h => absurd h hlast⟩
  have hrest : (rest.map (Line.shift (last.length + gap.width))).map String.isEmpty =
      rest.map String.isEmpty := emptyLines_nest _ ⟨rest⟩
  rw [emptyLines, lines_beside, List.map_append, List.map_cons, hseam, hrest]
  simp [emptyLines]

/-! ## Moving what is put together -/

/-- Moving by nothing moves nothing. -/
theorem nest_zero (d : Doc) : d.nest 0 = d := by
  rw [nest, funext Line.shift_zero, List.map_id']

theorem nest_nest (d : Doc) (m n : Nat) : (d.nest m).nest n = d.nest (m + n) := by
  have hshift : Line.shift n ∘ Line.shift m = Line.shift (m + n) := by
    funext line
    rw [Function.comp_apply, Line.shift_shift, Nat.add_comm]
  rw [nest, lines_nest, List.map_map, hshift, nest]

theorem nest_vcat (docs : List Doc) (n : Nat) :
    (vcat docs).nest n = vcat (docs.map (nest n)) := by
  rw [nest, lines_vcat, List.map_flatMap, vcat, List.flatMap_map]
  rfl

theorem vcat_append (docs docs' : List Doc) :
    vcat (docs ++ docs') = vcat [vcat docs, vcat docs'] := by
  rw [vcat, List.flatMap_append, vcat, List.flatMap_cons, List.flatMap_singleton, lines_vcat,
    lines_vcat]

theorem nest_hang (header : Doc) (m : Nat) (body : Doc) (n : Nat) :
    (header.hang m body).nest n = (header.nest n).hang m (body.nest n) := by
  rw [hang, nest_vcat, List.map_cons, List.map_singleton, nest_nest, hang, nest_nest, Nat.add_comm]

/-- With something on its last line, a block takes the one beside it along. -/
theorem nest_beside {a : Doc} (ha : a.lastLine ≠ "") (b : Doc) (gap : Gap) (n : Nat) :
    (a.nest n).beside b gap = (a.beside b gap).nest n := by
  obtain rfl | ⟨first, rest, rfl⟩ := b.eq_empty_or_cons
  · rw [beside_empty, beside_empty]
  obtain ⟨above, last, hlast, rfl⟩ := exists_concat_of_lastLine ha
  have hmoved : nest n ⟨above ++ [last]⟩ = ⟨above.map (Line.shift n) ++ [Line.shift n last]⟩ :=
    congrArg mk (by rw [List.map_append, List.map_singleton])
  have hseam : Line.shift n (last ++ Line.blanks gap.width ++ first) =
      Line.shift n last ++ Line.blanks gap.width ++ first := by
    rw [String.append_assoc, Line.shift_append hlast, String.append_assoc]
  -- the further lines of `b` are aligned with a line that is `n` columns wider
  have hrest : Line.shift n ∘ Line.shift (last.length + gap.width) =
      Line.shift ((Line.shift n last).length + gap.width) := by
    funext line
    rw [Function.comp_apply, Line.shift_shift, Line.length_shift hlast, Nat.add_assoc]
  rw [hmoved, beside_mk, beside_mk, nest, List.map_append, List.map_cons, List.map_map, hseam, hrest]

/-- **Moving to the right is an action on blocks**, and it goes through whatever is put on top of each
other. It goes through blocks beside each other if there is something on the last line of the first.
In all of this empty lines stay empty, and no others come up. -/
theorem nest_action :
    (∀ (d : Doc) (m n : Nat), d.nest 0 = d ∧ (d.nest m).nest n = d.nest (m + n)) ∧
      (∀ (docs : List Doc) (n : Nat), (vcat docs).nest n = vcat (docs.map (nest n))) ∧
      (∀ docs docs' : List Doc, vcat (docs ++ docs') = vcat [vcat docs, vcat docs']) ∧
      (∀ (header : Doc) (m : Nat) (body : Doc) (n : Nat),
        (header.hang m body).nest n = (header.nest n).hang m (body.nest n)) ∧
      (∀ a : Doc, a.lastLine ≠ "" → ∀ (b : Doc) (gap : Gap) (n : Nat),
        (a.nest n).beside b gap = (a.beside b gap).nest n) ∧
      -- empty lines
      (∀ (d : Doc) (n : Nat), (d.nest n).emptyLines = d.emptyLines) ∧
      (∀ docs : List Doc, (vcat docs).emptyLines = docs.flatMap emptyLines) ∧
      (∀ (header : Doc) (n : Nat) (body : Doc),
        (header.hang n body).emptyLines = header.emptyLines ++ body.emptyLines) ∧
      ∀ a : Doc, a.lastLine ≠ "" → ∀ (b : Doc) (gap : Gap),
        (a.beside b gap).emptyLines = a.emptyLines ++ b.emptyLines.tail :=
  ⟨fun d m n => ⟨nest_zero d, nest_nest d m n⟩, nest_vcat, vcat_append, nest_hang,
    fun _ ha => nest_beside ha, fun d n => emptyLines_nest n d, emptyLines_vcat, emptyLines_hang,
    fun _ ha => emptyLines_beside ha⟩

/-- An empty line on either side, and an empty one where the block on the right begins. -/
theorem nest_action_beside :
    let a : Doc := ⟨["f", "", "x"]⟩
    let b : Doc := ⟨["", "", "y"]⟩
    a.lastLine ≠ "" ∧ (a.nest 2).beside b .blank = (a.beside b .blank).nest 2 ∧
      (a.beside b .blank).nest 2 = ⟨["  f", "", "  x ", "", "    y"]⟩ ∧
      (a.beside b .blank).emptyLines = [false, true, false, true, false] := by
  intro a b
  obtain ⟨-, -, -, -, hbeside, -, -, -, hempty⟩ := nest_action
  have ha : a.lastLine ≠ "" := by decide
  exact ⟨ha, hbeside a ha b .blank 2, by decide, hempty a ha b .blank⟩

end SyntaxReports.Doc
