import SyntaxReports.Proofs.Layout

/-!
# Grouping: blocks in a row, put together in any order

Of three blocks in a row, the first two can be put together first or the last two. The lines are the
same if the block in the middle is regular (`Doc.Regular`): an empty line at its end would stay where
it is when the block is moved behind the first one, and take the third block with it.

The empty block is regular, and it leaves no trace. So with nothing in the middle only one of the two
gaps is left, and which one depends on the grouping (`Doc.beside_grouping_ne`). This is the only
exception, and it does not matter to blocks in a row, where all gaps are blanks: `Doc.beside_grouping`
says when the two groupings agree and that rows of regular blocks can be cut anywhere.
-/

namespace SyntaxReports

theorem Gap.width_inj : ∀ {gap gap' : Gap}, gap.width = gap'.width → gap = gap'
  | .none, .none, _ => rfl
  | .blank, .blank, _ => rfl

namespace Doc

/-- The block has one line at most, or there is something on its last line. -/
def Regular (d : Doc) : Prop := d.lines.length ≤ 1 ∨ d.lastLine ≠ ""

instance (d : Doc) : Decidable d.Regular :=
  inferInstanceAs (Decidable (d.lines.length ≤ 1 ∨ d.lastLine ≠ ""))

/-! ## Two blocks -/

/-- Beside, on blocks that both have lines. -/
theorem beside_mk (above : List String) (last first : String) (rest : List String) (gap : Gap) :
    beside ⟨above ++ [last]⟩ ⟨first :: rest⟩ gap =
      ⟨above ++ (last ++ Line.blanks gap.width ++ first) ::
        rest.map (Line.shift (last.length + gap.width))⟩ :=
  congrArg mk (lines_beside above last first rest gap)

theorem regular_empty : empty.Regular := .inl (Nat.zero_le 1)

theorem regular_singleton (row : String) : Regular ⟨[row]⟩ := .inl (Nat.le_refl 1)

theorem regular_concat (above : List String) {last : String} (h : last ≠ "") :
    Regular ⟨above ++ [last]⟩ := by
  refine .inr ?_
  rwa [lastLine_concat]

/-- A regular block that is not empty is a single line, or it has more of them and ends in one that is
not empty. -/
theorem Regular.shape {d : Doc} (h : d.Regular) (hne : d ≠ empty) :
    (∃ row, d = ⟨[row]⟩) ∨
      ∃ first between last, last ≠ "" ∧ d = ⟨first :: (between ++ [last])⟩ := by
  obtain rfl | ⟨first, rest, rfl⟩ := d.eq_empty_or_cons
  · exact absurd rfl hne
  rcases List.eq_nil_or_concat rest with rfl | ⟨between, last, rfl⟩
  · exact .inl ⟨first, rfl⟩
  · rw [List.concat_eq_append] at h ⊢
    refine .inr ⟨first, between, last, ?_, rfl⟩
    rcases h with hlength | hlast
    · simp at hlength
    · rwa [← List.cons_append, lastLine_concat] at hlast

/-- Regular blocks beside each other are a regular block. -/
theorem Regular.beside {a b : Doc} (ha : a.Regular) (hb : b.Regular) (gap : Gap) :
    (a.beside b gap).Regular := by
  by_cases hempty : b = empty
  · rwa [hempty, beside_empty]
  obtain rfl | ⟨above, last, rfl⟩ := a.eq_empty_or_concat
  · exact hb
  rcases hb.shape hempty with ⟨row, rfl⟩ | ⟨first, between, bottom, hbottom, rfl⟩
  · rw [beside_mk, List.map_nil]
    rcases List.eq_nil_or_concat above with rfl | ⟨_, _, rfl⟩
    · exact regular_singleton _
    · -- the line in which the blocks meet is the last one of `a`, with `row` behind it
      rcases ha with hlength | hlast
      · simp at hlength
      · rw [lastLine_concat] at hlast
        apply regular_concat
        intro h
        exact hlast (String.append_eq_empty_iff.mp (String.append_eq_empty_iff.mp h).1).1
  · rw [beside_mk, List.map_append, List.map_singleton, ← List.cons_append, ← List.append_assoc]
    exact regular_concat _ fun h => hbottom (Line.shift_eq_empty h)

/-! ## Three blocks -/

/-- A single line in the middle. -/
theorem beside_row_grouping (a : Doc) (row : String) (c : Doc) (gap gap' : Gap) :
    (a.beside ⟨[row]⟩ gap).beside c gap' = a.beside (beside ⟨[row]⟩ c gap') gap := by
  obtain rfl | ⟨above, last, rfl⟩ := a.eq_empty_or_concat
  · rw [empty_beside, empty_beside]
  obtain rfl | ⟨first, rest, rfl⟩ := c.eq_empty_or_cons
  · rw [beside_empty, beside_empty]
  have hrow : beside ⟨[row]⟩ ⟨first :: rest⟩ gap' =
      ⟨(row ++ Line.blanks gap'.width ++ first) ::
        rest.map (Line.shift (row.length + gap'.width))⟩ :=
    beside_mk [] row first rest gap'
  rw [beside_mk, List.map_nil, beside_mk, hrow, beside_mk, List.map_map]
  have hshift : Line.shift (last.length + gap.width) ∘ Line.shift (row.length + gap'.width) =
      Line.shift ((last ++ Line.blanks gap.width ++ row).length + gap'.width) := by
    funext line
    rw [Function.comp_apply, Line.shift_shift, String.length_append, String.length_append,
      Line.length_blanks, Nat.add_assoc (last.length + gap.width)]
  rw [hshift, String.append_assoc, String.append_assoc, String.append_assoc, String.append_assoc,
    String.append_assoc, String.append_assoc]

/-- Several lines in the middle, with something on the last of them. -/
theorem beside_lines_grouping (a : Doc) (top : String) (between : List String) {bottom : String}
    (hbottom : bottom ≠ "") (c : Doc) (gap gap' : Gap) :
    (a.beside ⟨top :: (between ++ [bottom])⟩ gap).beside c gap' =
      a.beside (beside ⟨top :: (between ++ [bottom])⟩ c gap') gap := by
  obtain rfl | ⟨above, last, rfl⟩ := a.eq_empty_or_concat
  · rw [empty_beside, empty_beside]
  obtain rfl | ⟨first, rest, rfl⟩ := c.eq_empty_or_cons
  · rw [beside_empty, beside_empty]
  have hlines : beside ⟨top :: (between ++ [bottom])⟩ ⟨first :: rest⟩ gap' =
      ⟨top :: (between ++ (bottom ++ Line.blanks gap'.width ++ first) ::
        rest.map (Line.shift (bottom.length + gap'.width)))⟩ :=
    beside_mk (top :: between) bottom first rest gap'
  have hshift : Line.shift (last.length + gap.width) ∘ Line.shift (bottom.length + gap'.width) =
      Line.shift ((Line.shift (last.length + gap.width) bottom).length + gap'.width) := by
    funext line
    rw [Function.comp_apply, Line.shift_shift, Line.length_shift hbottom,
      Nat.add_assoc (last.length + gap.width)]
  -- the line in which the blocks `b` and `c` meet begins with something, so all of it is moved
  have hseam : Line.shift (last.length + gap.width) (bottom ++ Line.blanks gap'.width ++ first) =
      Line.shift (last.length + gap.width) bottom ++ Line.blanks gap'.width ++ first := by
    rw [String.append_assoc, Line.shift_append hbottom, String.append_assoc]
  have hmoved : beside ⟨above ++ [last]⟩ ⟨top :: (between ++ [bottom])⟩ gap =
      ⟨(above ++ (last ++ Line.blanks gap.width ++ top) ::
        between.map (Line.shift (last.length + gap.width))) ++
          [Line.shift (last.length + gap.width) bottom]⟩ := by
    rw [beside_mk, List.map_append, List.map_singleton, List.append_assoc, List.cons_append]
  rw [hlines, hmoved, beside_mk, beside_mk, List.map_append, List.map_cons, List.map_map, hshift,
    hseam, List.append_assoc, List.cons_append]

/-- With something in the middle, the grouping makes no difference. -/
theorem beside_assoc {b : Doc} (hb : b.Regular) (hne : b ≠ empty) (a c : Doc) (gap gap' : Gap) :
    (a.beside b gap).beside c gap' = a.beside (b.beside c gap') gap := by
  rcases hb.shape hne with ⟨row, rfl⟩ | ⟨top, between, bottom, hbottom, rfl⟩
  · exact beside_row_grouping a row c gap gap'
  · exact beside_lines_grouping a top between hbottom c gap gap'

/-- With one gap for both, there need not be anything in the middle. -/
theorem beside_assoc_same {b : Doc} (hb : b.Regular) (a c : Doc) (gap : Gap) :
    (a.beside b gap).beside c gap = a.beside (b.beside c gap) gap := by
  by_cases hne : b = empty
  · rw [hne, beside_empty, empty_beside]
  · exact beside_assoc hb hne a c gap gap

/-- The gap between two blocks with lines shows. -/
theorem beside_gap_inj {a c : Doc} (ha : a ≠ empty) (hc : c ≠ empty) {gap gap' : Gap}
    (h : a.beside c gap = a.beside c gap') : gap = gap' := by
  obtain rfl | ⟨above, last, rfl⟩ := a.eq_empty_or_concat
  · exact absurd rfl ha
  obtain rfl | ⟨first, rest, rfl⟩ := c.eq_empty_or_cons
  · exact absurd rfl hc
  rw [beside_mk, beside_mk] at h
  injection h with hlines
  have hseam := (List.cons.inj (List.append_cancel_left hlines)).1
  have hlength := congrArg String.length hseam
  simp only [String.length_append, Line.length_blanks] at hlength
  apply Gap.width_inj
  omega

/-! ## Blocks in a row -/

/-- Putting regular blocks behind a block, one by one, is putting them behind it as a row. -/
theorem foldl_beside {docs : List Doc} (h : ∀ d ∈ docs, d.Regular) (a : Doc) :
    docs.foldl (fun row d => row.beside d) a = a.beside (hsep docs) := by
  induction docs generalizing a with
  | nil => rw [hsep_nil, beside_empty, List.foldl_nil]
  | cons d docs ih =>
    obtain ⟨hd, hdocs⟩ := List.forall_mem_cons.mp h
    have hrow : hsep (d :: docs) = d.beside (hsep docs) := by
      rw [hsep, List.foldl_cons, empty_beside, ih hdocs]
    rw [List.foldl_cons, ih hdocs, hrow, beside_assoc_same hd]

/-- Empty blocks leave no trace in a row. -/
theorem hsep_filter (docs : List Doc) : hsep (docs.filter fun d => !d.isEmpty) = hsep docs := by
  rw [hsep, hsep, List.foldl_filter]
  refine congrArg (fun step : Doc → Doc → Doc => docs.foldl step empty) ?_
  funext row d
  obtain rfl | ⟨first, rest, rfl⟩ := d.eq_empty_or_cons
  · rw [beside_empty]
    rfl
  · rfl

/-- The grouping can make a difference if there is nothing in the middle: only the gap of the step that
puts two blocks with lines together is left. -/
theorem beside_grouping_ne :
    ¬ ∀ a b c : Doc, b.Regular → ∀ gap gap' : Gap,
      (a.beside b gap).beside c gap' = a.beside (b.beside c gap') gap := by
  intro h
  have hsame := h ⟨["x"]⟩ empty ⟨["y"]⟩ regular_empty .blank .none
  exact absurd hsame (by decide)

/-- **The grouping of regular blocks makes no difference**, with any gaps, but for two different gaps
around nothing. The empty block is the identity on either side, and regular blocks beside each other
are regular. So a row of blocks can be cut anywhere if those behind the cut are regular, and blocks
without lines can be left out of it. -/
theorem beside_grouping :
    (∀ a b c : Doc, b.Regular → ∀ gap gap' : Gap,
      (a.beside b gap).beside c gap' = a.beside (b.beside c gap') gap ↔
        b ≠ empty ∨ gap = gap' ∨ a = empty ∨ c = empty) ∧
      (∀ (a : Doc) (gap : Gap), empty.beside a gap = a ∧ a.beside empty gap = a) ∧
      (∀ a b : Doc, a.Regular → b.Regular → ∀ gap : Gap, (a.beside b gap).Regular) ∧
      (∀ docs docs' : List Doc, (∀ d ∈ docs', d.Regular) →
        hsep (docs ++ docs') = (hsep docs).beside (hsep docs')) ∧
      ∀ docs : List Doc, hsep (docs.filter fun d => !d.isEmpty) = hsep docs := by
  refine ⟨fun a b c hb gap gap' => ⟨fun h => ?_, fun h => ?_⟩,
    fun a gap => ⟨empty_beside a gap, beside_empty a gap⟩, fun _ _ ha hb => ha.beside hb,
    fun docs docs' h => ?_, hsep_filter⟩
  · by_cases hne : b = empty
    · rw [hne, beside_empty, empty_beside] at h
      by_cases ha : a = empty
      · exact .inr (.inr (.inl ha))
      by_cases hc : c = empty
      · exact .inr (.inr (.inr hc))
      exact .inr (.inl (beside_gap_inj ha hc h).symm)
    · exact .inl hne
  · rcases h with hne | rfl | rfl | rfl
    · exact beside_assoc hb hne a c gap gap'
    · exact beside_assoc_same hb a c gap
    · rw [empty_beside, empty_beside]
    · rw [beside_empty, beside_empty]
  · rw [hsep, List.foldl_append, ← hsep, foldl_beside h]

/-- Three lines in the middle, of which one is empty, with both gaps. -/
theorem beside_grouping_lines :
    let b : Doc := ⟨["(", "", ")"]⟩
    b.Regular ∧
      (beside ⟨["f"]⟩ b .blank).beside ⟨["x", "y"]⟩ .none =
        beside ⟨["f"]⟩ (b.beside ⟨["x", "y"]⟩ .none) .blank ∧
      hsep [⟨["f"]⟩, empty, b, b] = (hsep [⟨["f"]⟩, empty]).beside (hsep [b, b]) := by
  intro b
  obtain ⟨hgrouping, -, -, hcut, -⟩ := beside_grouping
  have hb : b.Regular := by decide
  refine ⟨hb, (hgrouping _ b _ hb _ _).mpr (.inl (by decide)), hcut [⟨["f"]⟩, empty] [b, b] ?_⟩
  exact List.forall_mem_cons.mpr ⟨hb, List.forall_mem_singleton.mpr hb⟩

end Doc

end SyntaxReports
