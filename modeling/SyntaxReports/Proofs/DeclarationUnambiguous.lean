import Mathlib.Data.List.Forall2
import SyntaxReports.Failure.Basic
import SyntaxReports.Proofs.DeclarationLines
import SyntaxReports.Proofs.Words

/-!
# Unambiguous declarations: what is declared is found again in the text

Two declarations with the same text declare the same, as far as the texts of their types tell
(`Declaration.text_inj`). The names must be words without brackets and other than the equals sign,
and the texts of arguments must be words (`Words.IsWord`), since nothing else keeps them apart in a
row.

The text gives the lines, and they give the rest. The header is a row of words and tells whether a
synonym or a union is declared: a synonym has `type` and `alias` in front where a union has only
`type`, and it ends in an equals sign, which a union named `alias` does not. Each line below is a row
of words in a union, and in a synonym a line of its type.
-/

namespace SyntaxReports

/-! ## Declarations that can be read off their lines -/

/-- A name that can stand in a row: it has no blanks, newlines and brackets, and is not the sign
that ends the header of a synonym. -/
def IsRowName (name : String) : Prop :=
  name ≠ "=" ∧ ∀ c ∈ name.toList, c ∉ [' ', '\n', '(', ')', '{', '}']

instance (name : String) : Decidable (IsRowName name) :=
  @instDecidableAnd _ _ inferInstance (List.decidableBAll _ _)

/-- A text that can stand in a row: it is a word of one line. -/
def IsRowText (text : String) : Prop := '\n' ∉ text.toList ∧ Words.IsWord text.toList

instance (text : String) : Decidable (IsRowText text) := inferInstanceAs (Decidable (_ ∧ _))

theorem IsRowName.isRowText {name : String} (h : IsRowName name) : IsRowText name := by
  refine ⟨fun hnewline => h.2 _ hnewline (by simp), Words.isWord_of_forall fun c hc => ?_⟩
  have hbreak := h.2 c hc
  simp only [List.mem_cons, List.not_mem_nil, or_false, not_or] at hbreak
  obtain ⟨hblank, -, hbrackets⟩ := hbreak
  exact ⟨hblank, hbrackets⟩

/-! ## The header -/

namespace Declaration

variable {α : Type}

/-- The words of the header behind the first one, which is `type`. -/
def headerRest (d : Declaration α) : List String :=
  match d.definition with
  | .synonym _ => "alias" :: d.name :: d.vars ++ ["="]
  | .union _ => d.name :: d.vars

/-- The two words before the name of a synonym are two words of the row. -/
theorem row_headerWords (d : Declaration α) :
    " ".intercalate d.headerWords = " ".intercalate ("type" :: d.headerRest) := by
  obtain ⟨name, vars, _ | _⟩ := d
  · have htype : "type alias" = "type" ++ " " ++ "alias" := rfl
    simp only [headerWords, headerRest, Definition.keyword, Definition.closing, List.cons_append,
      String.intercalate_cons_cons, htype, String.append_assoc]
  · simp only [headerWords, headerRest, Definition.keyword, Definition.closing, List.append_nil]

theorem isRowText_headerRest {d : Declaration α} (h : ∀ name ∈ d.name :: d.vars, IsRowName name) :
    ∀ word ∈ d.headerRest, IsRowText word := by
  intro word hword
  rw [headerRest] at hword
  split at hword
  · rcases List.mem_cons.mp hword with rfl | hword
    · decide
    · rcases List.mem_append.mp hword with hname | hclosing
      · exact (h word hname).isRowText
      · rw [List.mem_singleton.mp hclosing]
        decide
  · exact (h word hword).isRowText

/-- The words of the header tell the name, the variables, and what kind of type is declared. -/
theorem headerRest_inj {d e : Declaration α} (hd : ∀ name ∈ d.name :: d.vars, IsRowName name)
    (he : ∀ name ∈ e.name :: e.vars, IsRowName name) (h : d.headerRest = e.headerRest) :
    d.name = e.name ∧ d.vars = e.vars ∧ d.definition.keyword = e.definition.keyword := by
  -- a synonym has an equals sign where a union has its last variable
  have hdvars : "=" ∉ d.vars := fun hmem => (hd "=" (List.mem_cons_of_mem _ hmem)).1 rfl
  have hevars : "=" ∉ e.vars := fun hmem => (he "=" (List.mem_cons_of_mem _ hmem)).1 rfl
  obtain ⟨name, vars, _ | _⟩ := d <;> obtain ⟨name', vars', _ | _⟩ := e
  · obtain ⟨rfl, hvars⟩ := List.cons.inj (List.cons.inj h).2
    exact ⟨rfl, List.append_cancel_right hvars, rfl⟩
  · obtain ⟨-, rfl⟩ := List.cons.inj h
    simp at hevars
  · obtain ⟨-, rfl⟩ := List.cons.inj h
    simp at hdvars
  · obtain ⟨rfl, rfl⟩ := List.cons.inj h
    exact ⟨rfl, rfl, rfl⟩

end Declaration

/-! ## The lines below -/

/-- The name and the arguments can stand in a row. -/
def Constructor.Legible (c : Constructor String) : Prop :=
  ∀ text ∈ c.name :: c.args, IsRowText text

theorem Constructor.Legible.isRow {c : Constructor String} (h : c.Legible) : c.IsRow :=
  fun text htext => (h text htext).1

theorem Constructor.row_inj {mark : String} (hmark : Words.IsWord mark.toList)
    {c c' : Constructor String} (hc : c.Legible) (hc' : c'.Legible)
    (h : c.row mark = c'.row mark) : c = c' := by
  obtain ⟨name, args⟩ := c
  obtain ⟨name', args'⟩ := c'
  obtain ⟨-, hwords⟩ := Words.row_inj
    (List.forall_mem_cons.mpr ⟨hmark, fun word hword => (hc word hword).2⟩)
    (List.forall_mem_cons.mpr ⟨hmark, fun word hword => (hc' word hword).2⟩) h
  obtain ⟨rfl, rfl⟩ := List.cons.inj hwords
  rfl

theorem Constructor.map_row_inj {mark : String} (hmark : Words.IsWord mark.toList)
    {constructors constructors' : List (Constructor String)}
    (hlegible : ∀ c ∈ constructors, c.Legible) (hlegible' : ∀ c ∈ constructors', c.Legible)
    (h : constructors.map (row mark) = constructors'.map (row mark)) :
    constructors = constructors' := by
  induction constructors generalizing constructors' with
  | nil => exact (List.map_eq_nil_iff.mp h.symm).symm
  | cons c constructors ih =>
    cases constructors' with
    | nil => cases h
    | cons c' constructors' =>
      obtain ⟨hc, hconstructors⟩ := List.forall_mem_cons.mp hlegible
      obtain ⟨hc', hconstructors'⟩ := List.forall_mem_cons.mp hlegible'
      obtain ⟨hrow, hrows⟩ := List.cons.inj h
      rw [Constructor.row_inj hmark hc hc' hrow, ih hconstructors hconstructors' hrows]

/-- All constructors are legible. Nothing is asked of the text of a synonym. -/
def Definition.Legible : Definition String → Prop
  | .synonym _ => True
  | .union constructors => ∀ c ∈ constructors, c.Legible

theorem Definition.Legible.hasRows {d : Definition String} (h : d.Legible) : d.HasRows := by
  cases d with
  | synonym => trivial
  | union => exact fun c hc => (h c hc).isRow

/-- The lines below the header tell what is declared, once it is known of which kind it is. -/
theorem Definition.rows_inj {d e : Definition String} (hd : d.Legible) (he : e.Legible)
    (hkeyword : d.keyword = e.keyword) (h : d.rows = e.rows) : d = e := by
  rcases d with text | _ | ⟨first, others⟩ <;> rcases e with text' | _ | ⟨first', others'⟩
  case synonym.synonym => rw [Line.ofText_inj h]
  case union.nil.union.nil => rfl
  case union.cons.union.cons =>
    obtain ⟨hfirst, hothers⟩ := List.forall_mem_cons.mp hd
    obtain ⟨hfirst', hothers'⟩ := List.forall_mem_cons.mp he
    obtain ⟨hrow, hrows⟩ := List.cons.inj h
    rw [Constructor.row_inj (by decide) hfirst hfirst' hrow,
      Constructor.map_row_inj (by decide) hothers hothers' hrows]
  case union.nil.union.cons => cases h
  case union.cons.union.nil => cases h
  all_goals simp [keyword] at hkeyword

/-! ## The declaration -/

namespace Declaration

/-- The declaration can be read off its lines. -/
structure Legible (d : Declaration String) : Prop where
  /-- the name and the variables can stand in the header -/
  header : ∀ name ∈ d.name :: d.vars, IsRowName name
  /-- the constructors can stand below -/
  definition : d.definition.Legible

namespace Legible

variable {d : Declaration String}

theorem hasHeaderRow (h : d.Legible) : d.HasHeaderRow :=
  fun name hname => (h.header name hname).isRowText.1

/-- The lines of a legible declaration. -/
theorem lines_eq (h : d.Legible) (indent : Nat) :
    (d.doc indent).lines =
      " ".intercalate ("type" :: d.headerRest) :: d.definition.rows.map (Line.shift indent) := by
  rw [lines_doc h.hasHeaderRow h.definition.hasRows, row_headerWords]

end Legible

/-- **A declaration is found again in its text**, if names and arguments can stand in rows. -/
theorem text_inj {d e : Declaration String} (hd : d.Legible) (he : e.Legible) {indent : Nat}
    (h : d.text indent = e.text indent) : d = e := by
  have hlines : (d.doc indent).lines = (e.doc indent).lines := by
    rw [← ofText_text, h, ofText_text]
  -- the header first: only with the kind of declaration known can the rows below be read
  rw [hd.lines_eq, he.lines_eq] at hlines
  obtain ⟨hheader, hbody⟩ := List.cons.inj hlines
  obtain ⟨-, hwords⟩ := Words.row_inj
    (List.forall_mem_cons.mpr ⟨by decide, fun word hword =>
      (isRowText_headerRest hd.header word hword).2⟩)
    (List.forall_mem_cons.mpr ⟨by decide, fun word hword =>
      (isRowText_headerRest he.header word hword).2⟩) hheader
  obtain ⟨hname, hvars, hkeyword⟩ := headerRest_inj hd.header he.header hwords
  have hrows : d.definition.rows = e.definition.rows :=
    (List.map_inj_right fun _ _ => Line.shift_inj).mp hbody
  have hdefinition : d.definition = e.definition :=
    Definition.rows_inj hd.definition he.definition hkeyword hrows
  cases d
  cases e
  rw [mk.injEq]
  exact ⟨hname, hvars, hdefinition⟩

end Declaration

/-! ## Declarations of types -/

/-- A declaration of types is legible where its names and the texts of its arguments are. -/
theorem Declaration.legible_map {texts : Position → TypeExpr → String}
    {d : Declaration TypeExpr} (hnames : ∀ name ∈ d.names, IsRowName name)
    (hargs : ∀ p ∈ d.definition.types, p.1 = .argument → IsRowText (texts p.1 p.2)) :
    (d.map texts).Legible := by
  obtain ⟨hheader, hconstructors⟩ := List.forall_mem_append.mp hnames
  refine ⟨hheader, ?_⟩
  obtain ⟨name, vars, type | constructors⟩ := d
  · trivial
  · intro c' hc'
    obtain ⟨c, hc, rfl⟩ := List.mem_map.mp hc'
    refine List.forall_mem_cons.mpr ⟨?_, List.forall_mem_map.mpr fun arg harg => ?_⟩
    · exact (hconstructors _ (List.mem_map_of_mem hc)).isRowText
    · exact hargs _ (Definition.mem_types_of_arg hc harg) rfl

/-- The definitions are of one kind and do not differ in the texts of their types: a synonym in its
text, a union in the number of its constructors, their names and the texts of their arguments. -/
def Definition.SameTexts (texts : Position → TypeExpr → String) :
    Definition TypeExpr → Definition TypeExpr → Prop
  | .synonym type, .synonym type' => texts .standalone type = texts .standalone type'
  | .union constructors, .union constructors' =>
    List.Forall₂ (fun c c' =>
      c.name = c'.name ∧ c.args.map (texts .argument) = c'.args.map (texts .argument))
      constructors constructors'
  | _, _ => False

theorem Constructor.map_eq_map_iff {f : TypeExpr → String} {c c' : Constructor TypeExpr} :
    c.map f = c'.map f ↔ c.name = c'.name ∧ c.args.map f = c'.args.map f := by
  rw [Constructor.map, Constructor.map, Constructor.mk.injEq]

theorem Definition.map_eq_map_iff {texts : Position → TypeExpr → String}
    {d e : Definition TypeExpr} : d.map texts = e.map texts ↔ d.SameTexts texts e := by
  rcases d with type | constructors <;> rcases e with type' | constructors'
  · rw [map, map, synonym.injEq, SameTexts]
  · refine iff_of_false (fun h => ?_) id
    cases h
  · refine iff_of_false (fun h => ?_) id
    cases h
  · rw [map, map, union.injEq, SameTexts, ← List.forall₂_eq_eq_eq, List.forall₂_map_left_iff,
      List.forall₂_map_right_iff]
    simp only [Constructor.map_eq_map_iff]

/-- **A completed declaration determines what is declared.** If the names and the texts of arguments
can stand in rows, the completed declarations of two types have the same text exactly if the types
have the same name, the same variables, and definitions that do not differ in their texts. The texts
of synonyms may be any, and so may the printer on other types. -/
theorem UnboundVars.print_completed_eq_iff {printer : TypePrinter (Except Fault)}
    {texts : Position → TypeExpr → String} {u v : UnboundVars}
    (hu : printer.Answers texts u.definition) (hv : printer.Answers texts v.definition)
    (hnames : ∀ name ∈ u.completed.names ++ v.completed.names, IsRowName name)
    (hargs : ∀ p ∈ u.definition.types ++ v.definition.types, p.1 = .argument →
      IsRowText (texts p.1 p.2)) (indent : Nat) :
    ∃ s t, u.completed.print printer indent = .ok s ∧ v.completed.print printer indent = .ok t ∧
      (s = t ↔ u.typeName = v.typeName ∧ u.all = v.all ∧
        u.definition.SameTexts texts v.definition) := by
  obtain ⟨hunames, hvnames⟩ := List.forall_mem_append.mp hnames
  have hulegible : (u.completed.map texts).Legible := Declaration.legible_map hunames
    fun p hp => hargs p (List.mem_append_left _ hp)
  have hvlegible : (v.completed.map texts).Legible := Declaration.legible_map hvnames
    fun p hp => hargs p (List.mem_append_right _ hp)
  refine ⟨_, _, hu.print_eq (d := u.completed) indent, hv.print_eq (d := v.completed) indent, ?_⟩
  rw [← Definition.map_eq_map_iff]
  constructor
  · intro h
    have hsame := Declaration.text_inj hulegible hvlegible h
    rw [Declaration.map, Declaration.map, Declaration.mk.injEq] at hsame
    exact hsame
  · rintro ⟨hname, hvars, hdefinition⟩
    have hsame : u.completed.map texts = v.completed.map texts := by
      rw [Declaration.map, Declaration.map, Declaration.mk.injEq]
      exact ⟨hname, hvars, hdefinition⟩
    rw [hsame]

/-- One argument of two words and two arguments of one word are told apart. -/
theorem UnboundVars.print_completed_ne :
    let u : UnboundVars :=
      ⟨"Tree", [], "a", [], .union [⟨"Leaf", []⟩, ⟨"Node", [.app (.con "List") [.var "a"]]⟩]⟩
    let v : UnboundVars :=
      ⟨"Tree", [], "a", [], .union [⟨"Leaf", []⟩, ⟨"Node", [.con "List", .var "a"]⟩]⟩
    ∃ s t, u.completed.print (m := Except Fault) .standard 4 = .ok s ∧
      v.completed.print (m := Except Fault) .standard 4 = .ok t ∧ s ≠ t := by
  intro u v
  have hu : TypePrinter.standard.Answers TypeExpr.text u.definition :=
    TypePrinter.standard_answers (by decide)
  have hv : TypePrinter.standard.Answers TypeExpr.text v.definition :=
    TypePrinter.standard_answers (by decide)
  obtain ⟨s, t, hs, ht, hiff⟩ := print_completed_eq_iff hu hv (by decide) (by decide) 4
  refine ⟨s, t, hs, ht, fun hst => ?_⟩
  obtain ⟨-, -, _ | ⟨-, _ | ⟨⟨-, hargs⟩, -⟩⟩⟩ := hiff.mp hst
  exact absurd hargs (by decide)

end SyntaxReports
