import SyntaxReports.Proofs.Layout

/-!
# Placement: where the lines of a block come to stand

A line of a block has a row and a column (`Doc.Shows`). Each way of putting blocks together moves
whole blocks: a block below others moves down by their height, a block behind another one moves to
where that one ends (`Doc.nextRow`, `Doc.nextColumn`), and what stands in front or above stays where
it is. The exception are empty lines, which are never padded and so stand nowhere in particular.

For blocks in a row this gives the place of every line (`Doc.hsep_shows`).
-/

namespace SyntaxReports

namespace Line

/-- The line is found in a row, beginning at a column. -/
def StandsAt (column : Nat) (line row : String) : Prop :=
  ∃ left right, row = left ++ line ++ right ∧ left.length = column

theorem standsAt_self (line : String) : StandsAt 0 line line :=
  ⟨"", "", by rw [String.empty_append, String.append_empty], rfl⟩

namespace StandsAt

variable {column : Nat} {line row : String}

theorem ne_empty (h : StandsAt column line row) (hne : line ≠ "") : row ≠ "" := by
  obtain ⟨left, right, rfl, -⟩ := h
  intro hempty
  exact hne (String.append_eq_empty_iff.mp (String.append_eq_empty_iff.mp hempty).1).2

theorem append (h : StandsAt column line row) (rest : String) :
    StandsAt column line (row ++ rest) := by
  obtain ⟨left, right, rfl, hcolumn⟩ := h
  exact ⟨left, right ++ rest, String.append_assoc, hcolumn⟩

theorem behind (h : StandsAt column line row) (front : String) :
    StandsAt (front.length + column) line (front ++ row) := by
  obtain ⟨left, right, rfl, hcolumn⟩ := h
  refine ⟨front ++ left, right, ?_, ?_⟩
  · rw [String.append_assoc, String.append_assoc, String.append_assoc]
  · rw [String.length_append, hcolumn]

theorem shift (h : StandsAt column line row) (hne : line ≠ "") (n : Nat) :
    StandsAt (n + column) line (Line.shift n row) := by
  have hshifted := h.behind (blanks n)
  rwa [length_blanks, ← shift_of_ne (h.ne_empty hne)] at hshifted

end StandsAt

end Line

namespace Doc

/-- The number of rows. -/
def height (d : Doc) : Nat := d.lines.length

/-- The row in which a block that is put behind this one begins. -/
def nextRow (d : Doc) : Nat := d.height - 1

/-- The column at which a block that is put behind this one begins. -/
def nextColumn (d : Doc) : Nat := if d.isEmpty then 0 else d.lastWidth + 1

/-- The line is found in the block, in that row and beginning at that column. -/
def Shows (d : Doc) (row column : Nat) (line : String) : Prop :=
  ∃ text, d.lines[row]? = some text ∧ Line.StandsAt column line text

theorem shows_self {d : Doc} {row : Nat} {line : String} (h : d.lines[row]? = some line) :
    d.Shows row 0 line :=
  ⟨line, h, Line.standsAt_self line⟩

theorem nextRow_concat (above : List String) (last : String) :
    nextRow ⟨above ++ [last]⟩ = above.length := by
  rw [nextRow, height, List.length_append, List.length_singleton, Nat.add_sub_cancel]

@[simp] theorem nextRow_empty : empty.nextRow = 0 := rfl

@[simp] theorem nextColumn_empty : empty.nextColumn = 0 := rfl

theorem nextRow_add_one {d : Doc} (h : d.lines ≠ []) : d.nextRow + 1 = d.height :=
  Nat.sub_add_cancel (List.length_pos_iff.mpr h)

theorem nextColumn_of_ne {d : Doc} (h : d.lines ≠ []) : d.nextColumn = d.lastWidth + 1 := by
  rw [nextColumn, isEmpty, if_neg (by rwa [List.isEmpty_iff])]

/-! ## The place of a line in a larger block -/

section Shows

variable {a b : Doc} {row column : Nat} {line : String}

/-- Moving a block to the right moves what stands in it. -/
theorem Shows.nest (h : a.Shows row column line) (hne : line ≠ "") (n : Nat) :
    (a.nest n).Shows row (n + column) line := by
  obtain ⟨text, htext, hstands⟩ := h
  refine ⟨Line.shift n text, ?_, hstands.shift hne n⟩
  rw [lines_nest, List.getElem?_map, htext, Option.map_some]

/-- What stands in a block stays when another block is put behind it. -/
theorem Shows.beside (h : a.Shows row column line) (b : Doc) :
    (a.beside b).Shows row column line := by
  obtain ⟨text, htext, hstands⟩ := h
  rcases a.eq_empty_or_concat with rfl | ⟨above, last, rfl⟩
  · cases htext
  rcases b.eq_empty_or_cons with rfl | ⟨first, rest, rfl⟩
  · rw [beside_empty]
    exact ⟨text, htext, hstands⟩
  rw [Shows, lines_beside]
  rcases Nat.lt_trichotomy row above.length with hrow | rfl | hrow
  · refine ⟨text, ?_, hstands⟩
    rwa [List.getElem?_append_left hrow] at htext ⊢
  · -- the last row is the one that goes on
    rw [List.getElem?_concat_length] at htext
    obtain rfl := Option.some.inj htext
    refine ⟨last ++ Line.blanks Gap.blank.width ++ first, ?_, (hstands.append _).append _⟩
    rw [List.getElem?_append_right (Nat.le_refl _), Nat.sub_self, List.getElem?_cons_zero]
  · have houtside : (above ++ [last]).length ≤ row := by
      rw [List.length_append, List.length_singleton]
      exact hrow
    rw [List.getElem?_eq_none houtside] at htext
    cases htext

/-- What stands in a block that is put behind another one moves to where that one ends. -/
theorem Shows.behind (h : b.Shows row column line) (hne : line ≠ "") (a : Doc) :
    (a.beside b).Shows (a.nextRow + row) (a.nextColumn + column) line := by
  obtain ⟨text, htext, hstands⟩ := h
  rcases a.eq_empty_or_concat with rfl | ⟨above, last, rfl⟩
  · rw [empty_beside, nextRow_empty, nextColumn_empty, Nat.zero_add, Nat.zero_add]
    exact ⟨text, htext, hstands⟩
  rcases b.eq_empty_or_cons with rfl | ⟨first, rest, rfl⟩
  · cases htext
  rw [Shows, lines_beside, nextRow_concat, nextColumn_of_ne (List.append_ne_nil_of_right_ne_nil _
    (List.cons_ne_nil _ _)), lastWidth, lastLine_concat,
    List.getElem?_append_right (Nat.le_add_right _ _), Nat.add_sub_cancel_left]
  cases row with
  | zero =>
    -- the first row stands behind the last one of `a` and a blank
    obtain rfl := Option.some.inj htext
    have hfront := hstands.behind (last ++ Line.blanks Gap.blank.width)
    rw [String.length_append, Line.length_blanks] at hfront
    exact ⟨_, List.getElem?_cons_zero, hfront⟩
  | succ row =>
    rw [List.getElem?_cons_succ] at htext
    refine ⟨_, ?_, hstands.shift hne (last.length + Gap.blank.width)⟩
    rw [List.getElem?_cons_succ, List.getElem?_map, htext, Option.map_some]

/-- What stands in one of several blocks on top of each other moves down by the height of those
above. -/
theorem Shows.vcat (h : a.Shows row column line) (above below : List Doc) :
    (vcat (above ++ a :: below)).Shows ((vcat above).height + row) column line := by
  obtain ⟨text, htext, hstands⟩ := h
  obtain ⟨hrow, -⟩ := List.getElem?_eq_some_iff.mp htext
  refine ⟨text, ?_, hstands⟩
  rw [height, lines_vcat, lines_vcat, List.flatMap_append, List.flatMap_cons,
    List.getElem?_append_right (Nat.le_add_right _ _), Nat.add_sub_cancel_left,
    List.getElem?_append_left hrow, htext]

/-- What stands in a body moves below its header and to the right. -/
theorem Shows.hang (h : b.Shows row column line) (hne : line ≠ "") (header : Doc) (n : Nat) :
    (header.hang n b).Shows (header.height + row) (n + column) line := by
  have hbelow := (h.nest hne n).vcat [header] []
  rwa [height, lines_vcat, List.flatMap_singleton] at hbelow

end Shows

/-! ## Where a block ends -/

section Ends

variable {a b : Doc}

/-- A block goes on in the last row of the one that it is put behind. -/
theorem height_beside (ha : a.lines ≠ []) (hb : b.lines ≠ []) :
    (a.beside b).height = a.height + (b.height - 1) := by
  obtain rfl | ⟨above, last, rfl⟩ := a.eq_empty_or_concat
  · exact absurd lines_empty ha
  obtain rfl | ⟨first, rest, rfl⟩ := b.eq_empty_or_cons
  · exact absurd lines_empty hb
  simp only [height, lines_beside, List.length_append, List.length_cons, List.length_map,
    List.length_nil]
  omega

theorem nextRow_beside (a : Doc) (hb : b.lines ≠ []) :
    (a.beside b).nextRow = a.nextRow + (b.height - 1) := by
  by_cases ha : a.lines = []
  · obtain rfl : a = empty := congrArg mk ha
    rw [empty_beside, nextRow_empty, Nat.zero_add, nextRow]
  · have hheight : 0 < a.height := List.length_pos_iff.mpr ha
    rw [nextRow, nextRow, height_beside ha hb]
    omega

/-- A block with one behind it ends where that one does, if it is one line or there is something on
its last line. Else that last line is empty and was not moved. -/
theorem lastWidth_beside (ha : a.lines ≠ []) (hb : b.height = 1 ∨ b.lastLine ≠ "") :
    (a.beside b).lastWidth = a.lastWidth + 1 + b.lastWidth := by
  obtain rfl | ⟨above, last, rfl⟩ := a.eq_empty_or_concat
  · exact absurd lines_empty ha
  obtain rfl | ⟨first, rest, rfl⟩ := b.eq_empty_or_cons
  · rcases hb with hheight | hlast
    · cases hheight
    · exact absurd rfl hlast
  rcases List.eq_nil_or_concat rest with rfl | ⟨between, below, rfl⟩
  · rw [lastWidth, lastWidth, lastLine_concat, lastLine, lines_beside, List.map_nil,
      List.getLastD_concat, String.length_append, String.length_append, Line.length_blanks]
    rfl
  · -- the last line of `b` is moved, since it is not empty
    have hlast : lastLine ⟨first :: between.concat below⟩ = below := by
      rw [List.concat_eq_append, ← List.cons_append, lastLine_concat]
    have hbelow : below ≠ "" := by
      rcases hb with hheight | hne
      · simp [height] at hheight
      · rwa [hlast] at hne
    rw [lastWidth, lastWidth, lastLine_concat, lastWidth, hlast, lastLine, lines_beside,
      List.concat_eq_append, List.map_append, List.map_singleton, ← List.cons_append,
      ← List.append_assoc, List.getLastD_concat, Line.shift_of_ne hbelow, String.length_append,
      Line.length_blanks]
    rfl

theorem nextColumn_beside (a : Doc) (hb : b.lines ≠ []) (hlast : b.height = 1 ∨ b.lastLine ≠ "") :
    (a.beside b).nextColumn = a.nextColumn + b.lastWidth + 1 := by
  by_cases ha : a.lines = []
  · obtain rfl : a = empty := congrArg mk ha
    rw [empty_beside, nextColumn_empty, Nat.zero_add, nextColumn_of_ne hb]
  · rw [nextColumn_of_ne (lines_beside_ne_nil ha b), nextColumn_of_ne ha,
      lastWidth_beside ha hlast]

end Ends

/-! ## Blocks in a row -/

theorem hsep_append (docs docs' : List Doc) :
    hsep (docs ++ docs') = docs'.foldl (fun row d => row.beside d) (hsep docs) := by
  rw [hsep, List.foldl_append, hsep]

theorem hsep_concat (docs : List Doc) (d : Doc) : hsep (docs ++ [d]) = (hsep docs).beside d :=
  hsep_append docs [d]

theorem hsep_take_succ {docs : List Doc} {k : Nat} {d : Doc} (h : docs[k]? = some d) :
    hsep (docs.take (k + 1)) = (hsep (docs.take k)).beside d := by
  rw [List.take_add_one, h, Option.toList_some, hsep_concat]

/-- The place of a line in a row of blocks: its block begins where those in front of it end. -/
theorem hsep_shows {docs : List Doc} {k row : Nat} {d : Doc} {line : String}
    (hd : docs[k]? = some d) (hline : d.lines[row]? = some line) (hne : line ≠ "") :
    (hsep docs).Shows ((hsep (docs.take k)).nextRow + row) (hsep (docs.take k)).nextColumn
      line := by
  -- it stands there as soon as its block is put in, and what is put behind leaves it there
  have hstart : (hsep (docs.take (k + 1))).Shows ((hsep (docs.take k)).nextRow + row)
      (hsep (docs.take k)).nextColumn line := by
    rw [hsep_take_succ hd]
    exact (shows_self hline).behind hne _
  rw [← List.take_append_drop (k + 1) docs, hsep_append, List.take_append_drop]
  exact List.foldlRecOn (motive := fun block : Doc => block.Shows _ _ line) (docs.drop (k + 1)) _
    hstart fun _ hshows b _ => hshows.beside b

end Doc

end SyntaxReports
