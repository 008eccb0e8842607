import SyntaxReports.Doc
import SyntaxReports.Proofs.Lines

/-!
# Layout: what blocks are made of and where they end

Putting blocks together adds blanks to their lines and nothing else. So a property of characters
that blanks have, such as not to end a line, is one of the whole as soon as it is one of the parts
(`Doc.Only`).

Nor does a block end in an empty line if none of its parts does (`Doc.Closed`). A part beside another
may even be a single empty line (`Doc.ClosedBelow`), because the blank in front of it stays.

Indents from outside are integers. A negative one is refused, and any other is an indent as above.
-/

namespace SyntaxReports.Doc

/-- A block has no lines, or it has a last one. -/
theorem eq_empty_or_concat (d : Doc) : d = empty ∨ ∃ above last, d = ⟨above ++ [last]⟩ := by
  obtain ⟨lines⟩ := d
  rcases List.eq_nil_or_concat lines with rfl | ⟨above, last, rfl⟩
  · exact .inl rfl
  · exact .inr ⟨above, last, by rw [List.concat_eq_append]⟩

/-- A block has no lines, or it has a first one. -/
theorem eq_empty_or_cons (d : Doc) : d = empty ∨ ∃ first rest, d = ⟨first :: rest⟩ := by
  obtain ⟨_ | ⟨first, rest⟩⟩ := d
  · exact .inl rfl
  · exact .inr ⟨first, rest, rfl⟩

theorem lastLine_concat (above : List String) (last : String) :
    lastLine ⟨above ++ [last]⟩ = last := by
  rw [lastLine, List.getLastD_concat]

theorem lines_ofText_ne_nil (text : String) : (ofText text).lines ≠ [] := Line.ofText_ne_nil text

/-- What is put behind a block takes no lines away. -/
theorem lines_beside_ne_nil {a : Doc} (ha : a.lines ≠ []) (b : Doc) :
    (a.beside b).lines ≠ [] := by
  obtain rfl | ⟨above, last, rfl⟩ := a.eq_empty_or_concat
  · exact absurd lines_empty ha
  obtain rfl | ⟨first, rest, rfl⟩ := b.eq_empty_or_cons
  · rwa [beside_empty]
  · rw [lines_beside]
    exact List.append_ne_nil_of_right_ne_nil _ (List.cons_ne_nil _ _)

theorem hsep_ne_nil {d : Doc} (hd : d.lines ≠ []) (docs : List Doc) :
    (hsep (d :: docs)).lines ≠ [] := by
  rw [hsep, List.foldl_cons, empty_beside]
  exact List.foldlRecOn (motive := fun row : Doc => row.lines ≠ []) docs _ hd
    fun _ hrow b _ => lines_beside_ne_nil hrow b

/-! ## Indents from outside

The check looks at the indent alone, whatever is to be moved. -/

theorem checkIndent_eq (indent : Int) :
    checkIndent indent =
      if indent < 0 then .error .negativeIndent else .ok indent.toNat := by
  cases indent with
  | ofNat n => rfl
  | negSucc n =>
    rw [if_pos (Int.negSucc_lt_zero n)]
    rfl

theorem nestBy_eq (indent : Int) (d : Doc) :
    d.nestBy indent =
      if indent < 0 then .error .negativeIndent else .ok (d.nest indent.toNat) := by
  rw [nestBy, checkIndent_eq]
  split <;> rfl

theorem hangBy_eq (header : Doc) (indent : Int) (body : Doc) :
    header.hangBy indent body =
      if indent < 0 then .error .negativeIndent else .ok (header.hang indent.toNat body) := by
  rw [hangBy, checkIndent_eq]
  split <;> rfl

/-! ## The characters of a block -/

/-- All characters on the lines of the block have the property. -/
def Only (p : Char → Prop) (d : Doc) : Prop := ∀ line ∈ d.lines, ∀ c ∈ line.toList, p c

section Only

variable {p : Char → Prop} {a b : Doc}

theorem only_empty : empty.Only p := fun _ h => absurd h List.not_mem_nil

theorem only_ofText {text : String} (h : ∀ c ∈ text.toList, c ≠ '\n' → p c) :
    (ofText text).Only p := by
  intro line hline c hc
  obtain ⟨hmem, hnewline⟩ := Line.mem_of_mem_ofText hline hc
  exact h c hmem hnewline

theorem only_shift (hblank : p ' ') {line : String} (h : ∀ c ∈ line.toList, p c) (n : Nat) :
    ∀ c ∈ (Line.shift n line).toList, p c := by
  intro c hc
  obtain rfl | hline := Line.mem_shift hc
  · exact hblank
  · exact h c hline

theorem Only.nest (hblank : p ' ') (ha : a.Only p) (n : Nat) : (a.nest n).Only p := by
  intro line hline
  obtain ⟨line, hmem, rfl⟩ := List.mem_map.mp hline
  exact only_shift hblank (ha line hmem) n

theorem Only.beside (hblank : p ' ') (ha : a.Only p) (hb : b.Only p) (gap : Gap) :
    (a.beside b gap).Only p := by
  rcases a.eq_empty_or_concat with rfl | ⟨above, last, rfl⟩
  · rwa [empty_beside]
  rcases b.eq_empty_or_cons with rfl | ⟨first, rest, rfl⟩
  · rwa [beside_empty]
  obtain ⟨hfirst, hrest⟩ := List.forall_mem_cons.mp hb
  have hlast : ∀ c ∈ last.toList, p c := ha last (by simp)
  intro line hline
  rw [lines_beside, List.mem_append, List.mem_cons, List.mem_map] at hline
  rcases hline with habove | rfl | ⟨line, hmem, rfl⟩
  · exact ha line (List.mem_append_left _ habove)
  · intro c hc
    rw [String.toList_append, String.toList_append, Line.toList_blanks, List.mem_append,
      List.mem_append] at hc
    rcases hc with (hc | hc) | hc
    · exact hlast c hc
    · rw [List.eq_of_mem_replicate hc]
      exact hblank
    · exact hfirst c hc
  · exact only_shift hblank (hrest line hmem) _

theorem only_hsep (hblank : p ' ') {docs : List Doc} (h : ∀ d ∈ docs, d.Only p) :
    (hsep docs).Only p :=
  List.foldlRecOn docs _ only_empty fun _ hrow d hd => hrow.beside hblank (h d hd) .blank

theorem only_vcat {docs : List Doc} (h : ∀ d ∈ docs, d.Only p) : (vcat docs).Only p := by
  intro line hline
  obtain ⟨d, hd, hmem⟩ := List.mem_flatMap.mp hline
  exact h d hd line hmem

theorem Only.hang (hblank : p ' ') (ha : a.Only p) (hb : b.Only p) (n : Nat) :
    (a.hang n b).Only p := by
  refine only_vcat (List.forall_mem_cons.mpr ⟨ha, List.forall_mem_singleton.mpr ?_⟩)
  exact hb.nest hblank n

/-- The lines of a block are found again in its text, if they hold no newline. -/
theorem ofText_render (hne : a.lines ≠ []) (h : a.Only (· ≠ '\n')) :
    Line.ofText a.render = a.lines :=
  Line.ofText_join hne fun line hline hmem => h line hline '\n' hmem rfl

/-- A text that was moved to the right can be moved back, line by line. -/
theorem outdent_nest (n : Nat) (text : String) :
    (Line.ofText ((ofText text).nest n).render).map (Line.outdent n) = Line.ofText text := by
  have hne : ((ofText text).nest n).lines ≠ [] := fun h =>
    Line.ofText_ne_nil text (List.map_eq_nil_iff.mp h)
  have hnewline : ((ofText text).nest n).Only (· ≠ '\n') :=
    (only_ofText fun _ _ h => h).nest (by decide) n
  have hback : Line.outdent n ∘ Line.shift n = id := funext (Line.outdent_shift n)
  rw [ofText_render hne hnewline, lines_nest, lines_ofText, List.map_map, hback, List.map_id]

end Only

/-! ## The last line of a block -/

/-- The block does not end in an empty line. -/
def Closed (d : Doc) : Prop := d.lines.getLast? ≠ some ""

/-- The block does not end in an empty line below its first one. -/
def ClosedBelow (d : Doc) : Prop := d.lines.tail.getLast? ≠ some ""

section Closed

variable {a b : Doc}

theorem closed_empty : empty.Closed := by simp [Closed]

theorem closed_singleton {row : String} (h : row ≠ "") : Closed ⟨[row]⟩ := by
  simpa [Closed] using h

theorem Closed.closedBelow (h : a.Closed) : a.ClosedBelow := by
  rcases a.eq_empty_or_cons with rfl | ⟨first, rest, rfl⟩
  · exact h
  · intro hrest
    apply h
    rw [List.getLast?_cons]
    rw [List.tail_cons] at hrest
    rw [hrest, Option.getD_some]

theorem Closed.nest (h : a.Closed) (n : Nat) : (a.nest n).Closed := by
  intro hlast
  rw [lines_nest, List.getLast?_map, Option.map_eq_some_iff] at hlast
  obtain ⟨last, hmem, hshift⟩ := hlast
  apply h
  rw [hmem, Line.shift_eq_empty hshift]

/-- A block with another one beside it ends in what is now the last line of that one, which is not
empty: it is either moved to the right or behind a blank. -/
theorem closed_beside (ha : a.lines ≠ []) (hb : b.lines ≠ []) (h : b.ClosedBelow) :
    (a.beside b).Closed := by
  obtain rfl | ⟨above, last, rfl⟩ := a.eq_empty_or_concat
  · exact absurd lines_empty ha
  obtain rfl | ⟨first, rest, rfl⟩ := b.eq_empty_or_cons
  · exact absurd lines_empty hb
  rw [Closed, lines_beside, List.getLast?_append, List.getLast?_cons, Option.some_or,
    List.getLast?_map]
  rw [ClosedBelow, List.tail_cons] at h
  intro hlast
  rw [Option.some_inj] at hlast
  -- without further lines of `b` the last line is the one in which the blocks meet
  cases hrest : rest.getLast? with
  | none =>
    rw [hrest, Option.map_none, Option.getD_none, String.append_eq_empty_iff,
      String.append_eq_empty_iff] at hlast
    exact absurd hlast.1.2 (by decide)
  | some line =>
    rw [hrest, Option.map_some, Option.getD_some] at hlast
    exact h (by rw [hrest, Line.shift_eq_empty hlast])

theorem Closed.beside (ha : a.Closed) (hlines : a.lines ≠ []) (hb : b.ClosedBelow) :
    (a.beside b).Closed := by
  obtain rfl | ⟨first, rest, rfl⟩ := b.eq_empty_or_cons
  · rwa [beside_empty]
  · exact closed_beside hlines (List.cons_ne_nil _ _) hb

theorem ClosedBelow.beside (ha : a.ClosedBelow) (hb : b.ClosedBelow) :
    (a.beside b).ClosedBelow := by
  obtain rfl | ⟨first, rest, rfl⟩ := b.eq_empty_or_cons
  · rwa [beside_empty]
  obtain rfl | ⟨first', rest', rfl⟩ := a.eq_empty_or_cons
  · rwa [empty_beside]
  · exact (closed_beside (List.cons_ne_nil _ _) (List.cons_ne_nil _ _) hb).closedBelow

theorem closedBelow_hsep {docs : List Doc} (h : ∀ d ∈ docs, d.ClosedBelow) :
    (hsep docs).ClosedBelow :=
  List.foldlRecOn docs _ closed_empty.closedBelow fun _ hrow d hd => hrow.beside (h d hd)

theorem closed_vcat {docs : List Doc} (h : ∀ d ∈ docs, d.Closed) : (vcat docs).Closed := by
  induction docs with
  | nil => exact closed_empty
  | cons d docs ih =>
    obtain ⟨hd, hdocs⟩ := List.forall_mem_cons.mp h
    rw [Closed, lines_vcat, List.flatMap_cons, List.getLast?_append]
    cases hlast : (docs.flatMap lines).getLast? with
    | none => exact hd
    | some last =>
      rw [Option.some_or, ← hlast]
      exact ih hdocs

theorem Closed.hang (ha : a.Closed) (hb : b.Closed) (n : Nat) : (a.hang n b).Closed :=
  closed_vcat (List.forall_mem_cons.mpr ⟨ha, List.forall_mem_singleton.mpr (hb.nest n)⟩)

end Closed

end SyntaxReports.Doc
