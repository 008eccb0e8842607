import SyntaxReports.Proofs.DeclarationPrint
import SyntaxReports.Proofs.Layout

/-!
# The lines of declarations

The layout of a declaration puts blocks side by side. Where the blocks are single lines the result
is one as well, and it is the texts with blanks between them (`Doc.hsep_ofText`). So where names and
arguments are single lines, those of the declaration can be told without the layout: the header is a
row of words, and in a union each constructor is one, behind its mark (`Declaration.lines_doc`).

In general, the texts of the types may have any number of lines. Then it is still known which
characters are on the lines (`Declaration.only_doc`) and that the last line is not empty
(`Declaration.closed_doc`).
-/

namespace SyntaxReports

/-! ## Blocks of one line -/

namespace Doc

/-- A text without a newline is a block of one line. -/
theorem ofText_eq {text : String} (h : '\n' ∉ text.toList) : ofText text = ⟨[text]⟩ := by
  have hlines : Line.ofText (Line.join [text]) = [text] :=
    Line.ofText_join (by simp) (by simpa using h)
  rw [Line.join, String.intercalate_singleton] at hlines
  rw [ofText, hlines]

/-- Two single lines side by side are one. -/
theorem beside_row (left right : String) :
    (⟨[left]⟩ : Doc).beside ⟨[right]⟩ = ⟨[left ++ " " ++ right]⟩ := rfl

theorem foldl_beside_rows (row : String) {texts : List String}
    (h : ∀ text ∈ texts, '\n' ∉ text.toList) :
    (texts.map ofText).foldl (fun (row d : Doc) => row.beside d) ⟨[row]⟩ =
      ⟨[" ".intercalate (row :: texts)]⟩ := by
  induction texts generalizing row with
  | nil => simp
  | cons text texts ih =>
    obtain ⟨htext, htexts⟩ := List.forall_mem_cons.mp h
    rw [List.map_cons, List.foldl_cons, ofText_eq htext, beside_row, ih _ htexts,
      String.intercalate_cons_append, String.intercalate_cons_cons]

/-- Single lines in a row are one line, with a blank between each two. -/
theorem hsep_ofText {text : String} {texts : List String} (htext : '\n' ∉ text.toList)
    (htexts : ∀ t ∈ texts, '\n' ∉ t.toList) :
    hsep ((text :: texts).map ofText) = ⟨[" ".intercalate (text :: texts)]⟩ := by
  rw [hsep, List.map_cons, List.foldl_cons, empty_beside, ofText_eq htext,
    foldl_beside_rows text htexts]

end Doc

/-- A row of several words is not empty, even if all of them are. -/
theorem row_ne_empty (word next : String) (words : List String) :
    " ".intercalate (word :: next :: words) ≠ "" := by
  rw [String.intercalate_cons_cons]
  intro hempty
  rw [String.append_eq_empty_iff, String.append_eq_empty_iff] at hempty
  exact absurd hempty.1.2 (by decide)

/-! ## The rows of a declaration -/

/-- The characters that the layout brings in itself. -/
def Declaration.ownCharacters : List Char := "type alias=|".toList

theorem Definition.subset_ownCharacters {α : Type} (d : Definition α) :
    ∀ word ∈ d.keyword :: d.closing, word.toList ⊆ Declaration.ownCharacters := by
  rcases d with _ | _
  · change ∀ word ∈ ["type alias", "="], word.toList ⊆ Declaration.ownCharacters
    decide
  · change ∀ word ∈ ["type"], word.toList ⊆ Declaration.ownCharacters
    decide

/-- The constructor as one row behind a mark. -/
def Constructor.row (mark : String) (c : Constructor String) : String :=
  " ".intercalate (mark :: c.name :: c.args)

/-- The rows below the header, before they are indented. -/
def Definition.rows : Definition String → List String
  | .synonym text => Line.ofText text
  | .union [] => []
  | .union (first :: others) => first.row "=" :: others.map (Constructor.row "|")

/-- The words of the header. -/
def Declaration.headerWords {α : Type} (d : Declaration α) : List String :=
  d.definition.keyword :: d.name :: d.vars ++ d.definition.closing

/-- The name and the arguments of the constructor are single lines. -/
def Constructor.IsRow (c : Constructor String) : Prop :=
  ∀ text ∈ c.name :: c.args, '\n' ∉ text.toList

/-- All constructors are rows. The text of a synonym may have any number of lines. -/
def Definition.HasRows : Definition String → Prop
  | .synonym _ => True
  | .union constructors => ∀ c ∈ constructors, c.IsRow

/-- The name and the variables are single lines. -/
def Declaration.HasHeaderRow {α : Type} (d : Declaration α) : Prop :=
  ∀ name ∈ d.name :: d.vars, '\n' ∉ name.toList

theorem Declaration.hasHeaderRow_of_names {α : Type} {d : Declaration α}
    (h : ∀ name ∈ d.names, '\n' ∉ name.toList) : d.HasHeaderRow :=
  (List.forall_mem_append.mp h).1

theorem Constructor.alternative_eq {mark : String} {c : Constructor String}
    (hmark : '\n' ∉ mark.toList) (h : c.IsRow) : c.alternative mark = ⟨[c.row mark]⟩ := by
  obtain ⟨hname, hargs⟩ := List.forall_mem_cons.mp h
  rw [Constructor.alternative, Constructor.doc, ← List.map_cons, Doc.hsep_ofText hname hargs,
    Doc.ofText_eq hmark, Doc.beside_row, Constructor.row, String.intercalate_cons_cons]

theorem Constructor.flatMap_alternative {mark : String} {constructors : List (Constructor String)}
    (hmark : '\n' ∉ mark.toList) (h : ∀ c ∈ constructors, c.IsRow) :
    (constructors.map (·.alternative mark)).flatMap Doc.lines =
      constructors.map (Constructor.row mark) := by
  induction constructors with
  | nil => rfl
  | cons c constructors ih =>
    obtain ⟨hc, hconstructors⟩ := List.forall_mem_cons.mp h
    rw [List.map_cons, List.flatMap_cons, ih hconstructors, Constructor.alternative_eq hmark hc]
    rfl

theorem Definition.lines_body {d : Definition String} (h : d.HasRows) :
    d.body.lines = d.rows := by
  rcases d with text | _ | ⟨first, others⟩
  · rfl
  · rfl
  · obtain ⟨hfirst, hothers⟩ := List.forall_mem_cons.mp h
    rw [Definition.body, Doc.lines_vcat, List.flatMap_cons,
      Constructor.alternative_eq (by decide) hfirst,
      Constructor.flatMap_alternative (by decide) hothers, Definition.rows]
    rfl

theorem Declaration.header_eq {α : Type} {d : Declaration α} (h : d.HasHeaderRow) :
    d.header = ⟨[" ".intercalate d.headerWords]⟩ := by
  have hown : '\n' ∉ ownCharacters := by decide
  obtain ⟨hkeyword, hclosing⟩ := List.forall_mem_cons.mp d.definition.subset_ownCharacters
  refine Doc.hsep_ofText (fun hmem => hown (hkeyword hmem)) fun word hword => ?_
  rcases List.mem_append.mp hword with hname | hword
  · exact h word hname
  · exact fun hmem => hown (hclosing word hword hmem)

/-- The lines of a declaration whose pieces are single lines: the header, and below it the rows,
moved to the right. -/
theorem Declaration.lines_doc {d : Declaration String} (hheader : d.HasHeaderRow)
    (hrows : d.definition.HasRows) (n : Nat) :
    (d.doc n).lines =
      " ".intercalate d.headerWords :: d.definition.rows.map (Line.shift n) := by
  rw [Declaration.doc, Doc.lines_hang, Declaration.header_eq hheader,
    Definition.lines_body hrows]
  rfl

/-! ## Texts with any number of lines -/

/-- The marks in front of constructors. -/
def Definition.marks : List String := ["=", "|"]

/-- The first of some constructors is marked by an equals sign and the others by a bar, so each by
what its index says. -/
theorem Definition.mapIdx_mark {α β : Type} (f : String → α → β) (first : α) (others : List α) :
    f "=" first :: others.map (f "|") =
      (first :: others).mapIdx fun i c => f (if i = 0 then "=" else "|") c := by
  rw [List.mapIdx_cons, if_pos rfl]
  refine congrArg (f "=" first :: ·) (List.ext_getElem? fun i => ?_)
  rw [List.getElem?_map, List.getElem?_mapIdx, if_neg (Nat.succ_ne_zero i)]

/-- What is below the header of a union: one block for each constructor, behind a mark. -/
theorem Definition.body_union (constructors : List (Constructor String)) :
    ∃ blocks, (Definition.union constructors).body = Doc.vcat blocks ∧
      ∀ block ∈ blocks, ∃ c ∈ constructors, ∃ mark ∈ marks, block = c.alternative mark := by
  rcases constructors with _ | ⟨first, others⟩
  · exact ⟨[], rfl, fun _ h => absurd h List.not_mem_nil⟩
  · refine ⟨_, rfl, List.forall_mem_cons.mpr ⟨?_, List.forall_mem_map.mpr fun c hc => ?_⟩⟩
    · exact ⟨first, List.mem_cons_self, "=", by decide, rfl⟩
    · exact ⟨c, List.mem_cons_of_mem _ hc, "|", by decide, rfl⟩

section Characters

variable {p : Char → Prop}

theorem Declaration.only_header {α : Type} {d : Declaration α} (hown : ∀ c ∈ ownCharacters, p c)
    (h : ∀ name ∈ d.name :: d.vars, ∀ c ∈ name.toList, c ≠ '\n' → p c) : d.header.Only p := by
  obtain ⟨hkeyword, hclosing⟩ := List.forall_mem_cons.mp d.definition.subset_ownCharacters
  refine Doc.only_hsep (hown ' ' (by decide)) fun block hblock => ?_
  obtain ⟨word, hword, rfl⟩ := List.mem_map.mp hblock
  refine Doc.only_ofText fun c hc hnewline => ?_
  rcases List.mem_append.mp hword with hword | hword
  · rcases List.mem_cons.mp hword with rfl | hname
    · exact hown c (hkeyword hc)
    · exact h word hname c hc hnewline
  · exact hown c (hclosing word hword hc)

theorem Constructor.only_alternative {mark : String} {c : Constructor String} (hblank : p ' ')
    (hmark : ∀ x ∈ mark.toList, p x)
    (h : ∀ text ∈ c.name :: c.args, ∀ x ∈ text.toList, x ≠ '\n' → p x) :
    (c.alternative mark).Only p := by
  refine (Doc.only_ofText fun x hx _ => hmark x hx).beside hblank ?_ .blank
  refine Doc.only_hsep hblank fun block hblock => ?_
  rw [← List.map_cons, List.mem_map] at hblock
  obtain ⟨text, htext, rfl⟩ := hblock
  exact Doc.only_ofText (h text htext)

theorem Definition.only_body {d : Definition String}
    (hown : ∀ c ∈ Declaration.ownCharacters, p c)
    (hnames : ∀ name ∈ d.names, ∀ c ∈ name.toList, c ≠ '\n' → p c)
    (htypes : ∀ q ∈ d.types, ∀ c ∈ q.2.toList, c ≠ '\n' → p c) : d.body.Only p := by
  have hmarks : ∀ mark ∈ marks, mark.toList ⊆ Declaration.ownCharacters := by decide
  rcases d with text | constructors
  · exact Doc.only_ofText (htypes _ (List.mem_singleton_self _))
  obtain ⟨blocks, hbody, hblocks⟩ := body_union constructors
  rw [hbody]
  refine Doc.only_vcat fun block hblock => ?_
  obtain ⟨c, hc, mark, hmark, rfl⟩ := hblocks block hblock
  refine Constructor.only_alternative (hown ' ' (by decide))
    (fun x hx => hown x (hmarks mark hmark hx)) ?_
  refine List.forall_mem_cons.mpr ⟨hnames _ (List.mem_map_of_mem hc), fun arg harg => ?_⟩
  exact htypes _ (Definition.mem_types_of_arg hc harg)

/-- The characters on the lines of a declaration are those of its names and texts, or the layout's
own. -/
theorem Declaration.only_doc {d : Declaration String} (hown : ∀ c ∈ ownCharacters, p c)
    (hnames : ∀ name ∈ d.names, ∀ c ∈ name.toList, c ≠ '\n' → p c)
    (htypes : ∀ q ∈ d.definition.types, ∀ c ∈ q.2.toList, c ≠ '\n' → p c) (n : Nat) :
    (d.doc n).Only p := by
  obtain ⟨hheader, hbody⟩ := List.forall_mem_append.mp hnames
  exact (only_header hown hheader).hang (hown ' ' (by decide))
    (Definition.only_body hown hbody htypes) n

theorem Declaration.lines_ne_nil (d : Declaration String) (n : Nat) : (d.doc n).lines ≠ [] := by
  have hheader : d.header.lines ≠ [] := Doc.hsep_ne_nil (Doc.lines_ofText_ne_nil _) _
  rw [doc, Doc.lines_hang]
  exact List.append_ne_nil_of_left_ne_nil hheader _

/-- The lines of a declaration are found again in its text. -/
theorem Declaration.ofText_text (d : Declaration String) (n : Nat) :
    Line.ofText (d.text n) = (d.doc n).lines := by
  have hown : ∀ c ∈ ownCharacters, c ≠ '\n' := by
    rintro _ hc rfl
    exact absurd hc (by decide)
  refine Doc.ofText_render (lines_ne_nil d n) ?_
  exact only_doc hown (fun _ _ _ _ hc => hc) (fun _ _ _ _ hc => hc) n

end Characters

/-- No line of a declaration has an end inside if types have their lines end in newlines only, and
names have a single line. -/
theorem Declaration.unbroken_doc {d : Declaration String}
    (hnames : ∀ name ∈ d.names, LineEnd.Unbroken name.toList)
    (htypes : ∀ q ∈ d.definition.types, ∀ c ∈ q.2.toList, LineEnd.isEnd c = true → c = '\n')
    (n : Nat) : ∀ line ∈ (d.doc n).lines, LineEnd.Unbroken line.toList := by
  have hown : LineEnd.Unbroken ownCharacters := by decide
  refine only_doc hown (fun name hname c hc _ => hnames name hname c hc) ?_ n
  intro q hq c hc hnewline
  rw [← Bool.not_eq_true]
  exact fun hend => hnewline (htypes q hq c hc hend)

/-! ## The last line -/

theorem Declaration.closed_header {α : Type} {d : Declaration α} (h : d.HasHeaderRow) :
    d.header.Closed := by
  rw [header_eq h]
  exact Doc.closed_singleton (row_ne_empty _ _ _)

theorem Constructor.closed_alternative {mark : String} {c : Constructor String}
    (hmark : '\n' ∉ mark.toList) (hne : mark ≠ "") (hname : '\n' ∉ c.name.toList)
    (hargs : ∀ arg ∈ c.args, (Doc.ofText arg).Closed) : (c.alternative mark).Closed := by
  rw [alternative, Doc.ofText_eq hmark]
  refine (Doc.closed_singleton hne).beside (List.cons_ne_nil _ _) (Doc.closedBelow_hsep ?_)
  refine List.forall_mem_cons.mpr ⟨?_, List.forall_mem_map.mpr fun arg harg => ?_⟩
  · rw [Doc.ofText_eq hname]
    exact Doc.closed_empty.closedBelow
  · exact (hargs arg harg).closedBelow

theorem Definition.closed_body {d : Definition String}
    (hnames : ∀ name ∈ d.names, '\n' ∉ name.toList)
    (htypes : ∀ q ∈ d.types, (Doc.ofText q.2).Closed) : d.body.Closed := by
  have hmarks : ∀ mark ∈ marks, '\n' ∉ mark.toList ∧ mark ≠ "" := by decide
  rcases d with text | constructors
  · exact htypes (.standalone, text) (List.mem_singleton_self _)
  obtain ⟨blocks, hbody, hblocks⟩ := body_union constructors
  rw [hbody]
  refine Doc.closed_vcat fun block hblock => ?_
  obtain ⟨c, hc, mark, hmark, rfl⟩ := hblocks block hblock
  obtain ⟨hnewline, hne⟩ := hmarks mark hmark
  refine Constructor.closed_alternative hnewline hne (hnames _ (List.mem_map_of_mem hc)) ?_
  exact fun arg harg => htypes (.argument, arg) (Definition.mem_types_of_arg hc harg)

/-- A declaration does not end in an empty line, if the names have one line and the texts do not end
in an empty one either. -/
theorem Declaration.closed_doc {d : Declaration String}
    (hnames : ∀ name ∈ d.names, '\n' ∉ name.toList)
    (htypes : ∀ q ∈ d.definition.types, (Doc.ofText q.2).Closed) (n : Nat) : (d.doc n).Closed := by
  obtain ⟨-, hbody⟩ := List.forall_mem_append.mp hnames
  exact (closed_header (hasHeaderRow_of_names hnames)).hang (Definition.closed_body hbody htypes) n

end SyntaxReports
