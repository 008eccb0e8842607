import SyntaxReports.Proofs.Layout

/-!
# Composition: the lines of blocks and their text

A block is a list of lines, and nothing keeps a newline out of one: such a block has fewer lines than
its text shows, and another block has the same text. But texts are cut at newlines before they become
blocks, and putting blocks together adds blanks only. So in a block that is composed from texts
(`Doc.Composed`) no line holds a newline, and every such block is composed.

`Doc.composed_in_step` draws the conclusion. The text of a composed block has the lines of the block,
and no other composed block with lines has that text.
-/

namespace SyntaxReports.Doc

/-- The block is put together from texts, in any number of steps. -/
inductive Composed : Doc → Prop
  /-- the lines of a text -/
  | ofText (text : String) : Composed (ofText text)
  /-- no lines -/
  | empty : Composed empty
  /-- a block behind the last line of another -/
  | beside {a b : Doc} (gap : Gap) : Composed a → Composed b → Composed (a.beside b gap)
  /-- a block moved to the right -/
  | nest {d : Doc} (n : Nat) : Composed d → Composed (d.nest n)
  /-- a block below another, moved to the right -/
  | hang {header body : Doc} (n : Nat) :
    Composed header → Composed body → Composed (header.hang n body)
  /-- blocks in a row -/
  | hsep {docs : List Doc} : (∀ d ∈ docs, Composed d) → Composed (hsep docs)
  /-- blocks on top of each other -/
  | vcat {docs : List Doc} : (∀ d ∈ docs, Composed d) → Composed (vcat docs)

variable {a b d : Doc}

/-- No step brings a newline into a line. -/
theorem Composed.only (h : d.Composed) : d.Only (· ≠ '\n') := by
  have hblank : ' ' ≠ '\n' := by decide
  induction h with
  | ofText text => exact only_ofText fun _ _ hne => hne
  | empty => exact only_empty
  | beside gap _ _ iha ihb => exact iha.beside hblank ihb gap
  | nest n _ ih => exact ih.nest hblank n
  | hang n _ _ ihheader ihbody => exact ihheader.hang hblank ihbody n
  | hsep _ ih => exact only_hsep hblank ih
  | vcat _ ih => exact only_vcat ih

/-- A block without newlines in its lines is found again in its text. -/
theorem ofText_render_eq (h : d.Only (· ≠ '\n')) (hne : d ≠ empty) : ofText d.render = d := by
  have hlines : d.lines ≠ [] := fun hnil => hne (congrArg mk hnil)
  exact congrArg mk (ofText_render hlines h)

/-- So it is composed, in a single step. -/
theorem composed_of_only (h : d.Only (· ≠ '\n')) : d.Composed := by
  by_cases hne : d = empty
  · rw [hne]
    exact .empty
  · rw [← ofText_render_eq h hne]
    exact .ofText _

theorem composed_iff : d.Composed ↔ ∀ line ∈ d.lines, '\n' ∉ line.toList := by
  have honly : d.Only (· ≠ '\n') ↔ ∀ line ∈ d.lines, '\n' ∉ line.toList :=
    forall₂_congr fun _ _ => List.forall_mem_ne'
  exact ⟨fun h => honly.mp h.only, fun h => composed_of_only (honly.mpr h)⟩

/-- Steps with an indent from outside are steps as well, unless it is negative. -/
theorem Composed.nestBy (h : d.Composed) {indent : Int} (hindent : 0 ≤ indent) :
    ∃ moved, d.nestBy indent = .ok moved ∧ moved.Composed := by
  refine ⟨d.nest indent.toNat, ?_, h.nest _⟩
  rw [nestBy_eq, if_neg (Int.not_lt.mpr hindent)]

theorem Composed.hangBy (ha : a.Composed) (hb : b.Composed) {indent : Int} (hindent : 0 ≤ indent) :
    ∃ hung, a.hangBy indent b = .ok hung ∧ hung.Composed := by
  refine ⟨a.hang indent.toNat b, ?_, ha.hang _ hb⟩
  rw [hangBy_eq, if_neg (Int.not_lt.mpr hindent)]

/-- **The lines of a block and its text stay in step.** Composed blocks are those that have no newline
in a line. If one has lines at all, they are those of its text, so that the text shows as many and
belongs to no other of these blocks. A text that is cut into a block is its text again. -/
theorem composed_in_step :
    (∀ d : Doc, d.Composed ↔ ∀ line ∈ d.lines, '\n' ∉ line.toList) ∧
      (∀ d : Doc, d.Composed → d ≠ empty →
        ofText d.render = d ∧ d.render.toList.count '\n' + 1 = d.lines.length) ∧
      (∀ a b : Doc, a.Composed → b.Composed → a ≠ empty → b ≠ empty → a.render = b.render → a = b) ∧
      (∀ text : String, (ofText text).render = text) ∧
      -- and the indents of the steps may be integers
      ∀ a b : Doc, a.Composed → b.Composed → ∀ indent : Int, 0 ≤ indent →
        (∃ moved, a.nestBy indent = .ok moved ∧ moved.Composed) ∧
          ∃ hung, a.hangBy indent b = .ok hung ∧ hung.Composed := by
  refine ⟨fun _ => composed_iff, fun d hd hne => ?_, fun a b ha hb hane hbne hsame => ?_,
    render_ofText, fun a b ha hb indent hindent => ⟨ha.nestBy hindent, ha.hangBy hb hindent⟩⟩
  · have hround := ofText_render_eq hd.only hne
    refine ⟨hround, ?_⟩
    rw [← Line.length_ofText]
    exact congrArg (fun e : Doc => e.lines.length) hround
  · rw [← ofText_render_eq ha.only hane, hsame, ofText_render_eq hb.only hbne]

/-- A newline at the end of a text, one at the beginning, two in a row, and a text that is empty; and
the same lines from a single text. -/
theorem composed_in_step_newlines :
    let d := hang (hsep [ofText "a\n", ofText ""]) 2 (beside (ofText "\n") (ofText "b\n\nc") .none)
    let e := ofText "a\n \n\n  b\n\n  c"
    d.Composed ∧ d ≠ empty ∧ ofText d.render = d ∧ d.render.toList.count '\n' + 1 = 6 ∧
      e.Composed ∧ e ≠ empty ∧ d.render = e.render ∧ d = e ∧
      ∃ moved, d.nestBy 3 = .ok moved ∧ moved.Composed := by
  intro d e
  obtain ⟨-, hround, hsame, -, hindent⟩ := composed_in_step
  have hrow : ∀ t ∈ [ofText "a\n", ofText ""], t.Composed :=
    List.forall_mem_cons.mpr ⟨.ofText _, List.forall_mem_singleton.mpr (.ofText _)⟩
  have hd : d.Composed := .hang 2 (.hsep hrow) (.beside .none (.ofText _) (.ofText _))
  have he : e.Composed := .ofText _
  have hdne : d ≠ empty := by decide
  have hene : e ≠ empty := by decide
  have hrender : d.render = e.render := by decide
  obtain ⟨hlines, hcount⟩ := hround d hd hdne
  exact ⟨hd, hdne, hlines, hcount, he, hene, hrender, hsame d e hd he hdne hene hrender,
    (hindent d e hd he 3 (by decide)).1⟩

end SyntaxReports.Doc
