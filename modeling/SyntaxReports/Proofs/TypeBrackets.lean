import SyntaxReports.Proofs.Brackets
import SyntaxReports.Proofs.TypeNames

/-!
# Brackets in the text of a type

An argument stands in a row with other words and should not come apart at its blanks.
`TypeExpr.print_brackets` says why it does not: brackets are matched and nested in every text of a
type, and no blank of an argument stands outside of them. The names must not bring in blanks or
brackets of their own; there may be nothing to them otherwise.

For that an arrow and an application are put in parentheses as an argument. The position makes no
difference beyond that one pair, and for all other types it makes none. Applications without
arguments do not count (`TypeExpr.core`).
-/

namespace SyntaxReports.TypeExpr

open Brackets

/-- A name without blanks and brackets. -/
def IsWordName (name : String) : Prop := ∀ c ∈ name.toList, c ∉ [' ', '(', ')', '{', '}']

instance (name : String) : Decidable (IsWordName name) := List.decidableBAll _ _

theorem IsWordName.nested {name : String} (h : IsWordName name) : Nested name.toList := by
  apply nested_of_forall
  intro c hc hbracket
  exact h c hc (List.mem_cons_of_mem _ hbracket)

theorem IsWordName.isWord {name : String} (h : IsWordName name) : Words.IsWord name.toList := by
  apply Words.isWord_of_forall
  intro c hc
  simpa [not_or] using h c hc

/-! ## Shapes of a type -/

/-- The brackets in the text of the type are nested, and as an argument the type is a word. -/
structure IsBracketed (t : TypeExpr) : Prop where
  /-- brackets are nested at every position -/
  nested : ∀ position, Nested (t.text position).toList
  /-- no blank of an argument stands outside of them -/
  isWord : Words.IsWord (t.text .argument).toList

theorem isBracketed_name {t : TypeExpr} {name : String} (htext : ∀ position, t.text position = name)
    (hname : IsWordName name) : t.IsBracketed := by
  constructor
  · intro position
    rw [htext]
    exact hname.nested
  · rw [htext]
    exact hname.isWord

/-- A type with brackets of its own has them at every position. -/
theorem isBracketed_of_enclosed {t : TypeExpr}
    (h : ∀ position, Enclosed (t.text position).toList) : t.IsBracketed :=
  ⟨fun position => (h position).nested, (h .argument).isWord⟩

/-- A type that its position encloses has brackets where it needs them. -/
theorem isBracketed_of_enclose {t : TypeExpr}
    (htext : ∀ position, t.text position = position.enclose (t.text .standalone))
    (h : Nested (t.text .standalone).toList) : t.IsBracketed := by
  have hargument : Enclosed (t.text .argument).toList := by
    rw [htext]
    simpa [Position.enclose] using enclosed_parens h
  refine ⟨fun position => ?_, hargument.isWord⟩
  cases position with
  | standalone => exact h
  | argument => exact hargument.nested

theorem nested_fieldText {field : String × TypeExpr} (hname : IsWordName field.1)
    (h : field.2.IsBracketed) : Nested (fieldText field).toList := by
  have hcolon : Nested [' ', ':', ' '] := by decide
  rw [toList_fieldText]
  exact hname.nested.append (hcolon.append (h.nested .standalone))

theorem enclosed_tuple {items : List TypeExpr} (h : ∀ item ∈ items, item.IsBracketed)
    (position : Position) : Enclosed (text position (.tuple items)).toList := by
  have hblank : Nested [' '] := by decide
  cases items with
  | nil =>
    rw [toList_text_unit]
    exact enclosed_parens nested_nil
  | cons item items =>
    have hitems : Nested ([',', ' '].intercalate
        ((item :: items).map fun t => (t.text .standalone).toList)) :=
      Nested.intercalate (by decide)
        (List.forall_mem_map.mpr fun t ht => (h t ht).nested .standalone)
    rw [toList_text_tuple]
    simpa using enclosed_parens (hblank.append (hitems.append hblank))

theorem enclosed_record {fields : List (String × TypeExpr)} {extension : Option String}
    (hrow : ∀ row ∈ extension, Nested row.toList)
    (h : ∀ field ∈ fields, Nested (fieldText field).toList) (position : Position) :
    Enclosed (text position (.record fields extension)).toList := by
  have hblank : Nested [' '] := by decide
  have hbar : Nested [' ', '|', ' '] := by decide
  have hfields : Nested ([',', ' '].intercalate (fields.map fun f => (fieldText f).toList)) :=
    Nested.intercalate (by decide) (List.forall_mem_map.mpr h)
  rcases fields with _ | ⟨field, fields⟩ <;> rcases extension with _ | row
  · rw [toList_text_emptyRecord]
    exact enclosed_braces nested_nil
  · rw [toList_text_row]
    simpa using enclosed_braces (hblank.append ((hrow row rfl).append hblank))
  · rw [toList_text_record]
    simpa using enclosed_braces (hblank.append (hfields.append hblank))
  · rw [toList_text_extended]
    simpa using enclosed_braces
      (hblank.append ((hrow row rfl).append (hbar.append (hfields.append hblank))))

/-- Names without blanks and brackets leave all brackets to the printer, which nests them. -/
theorem isBracketed {t : TypeExpr} (h : ∀ name ∈ t.names, IsWordName name) : t.IsBracketed := by
  induction t with
  | var name => exact isBracketed_name (fun _ => rfl) (h name List.mem_cons_self)
  | con name => exact isBracketed_name (fun _ => rfl) (h name List.mem_cons_self)
  | foreign value => exact ⟨fun _ => nested_nil, rfl⟩
  | app head args ihhead ihargs =>
    rw [names_app, List.forall_mem_flatMap] at h
    obtain ⟨hhead, hargs⟩ := List.forall_mem_cons.mp h
    cases args with
    | nil => exact ⟨(ihhead hhead).nested, (ihhead hhead).isWord⟩
    | cons arg args =>
      have hwords : ∀ t ∈ head :: arg :: args, t.IsBracketed :=
        List.forall_mem_cons.mpr ⟨ihhead hhead, fun t ht => ihargs t ht (hargs t ht)⟩
      apply isBracketed_of_enclose fun position => text_app position head arg args
      rw [toList_text_app]
      exact Nested.intercalate (by decide)
        (List.forall_mem_map.mpr fun t ht => (hwords t ht).nested .argument)
  | arrow arg result iharg ihresult =>
    rw [names_arrow] at h
    obtain ⟨harg, hresult⟩ := List.forall_mem_append.mp h
    have harrow : Nested [' ', '-', '>', ' '] := by decide
    apply isBracketed_of_enclose fun position => text_arrow position arg result
    rw [toList_text_arrow]
    exact ((iharg harg).nested _).append (harrow.append ((ihresult hresult).nested .standalone))
  | tuple items ih =>
    rw [names_tuple, List.forall_mem_flatMap] at h
    exact isBracketed_of_enclosed (enclosed_tuple fun item hitem => ih item hitem (h item hitem))
  | record fields extension ih =>
    rw [names_record, List.forall_mem_append, List.forall_mem_flatMap] at h
    obtain ⟨hrow, hfields⟩ := h
    apply isBracketed_of_enclosed
    apply enclosed_record
    · intro row hmem
      exact (hrow row (by simpa using hmem)).nested
    · intro field hfield
      obtain ⟨hname, htype⟩ := List.forall_mem_cons.mp (hfields field hfield)
      exact nested_fieldText hname (ih field hfield htype)

/-! ## Arguments -/

/-- The type without the applications around it that have no arguments. -/
def core : TypeExpr → TypeExpr
  | .app head [] => core head
  | type => type

/-- The type is an application or an arrow. -/
def isCompound : TypeExpr → Bool
  | .app _ _ => true
  | .arrow _ _ => true
  | _ => false

/-- As an argument, a type has parentheses around it if it is compound, and nothing else changes. -/
theorem text_argument (t : TypeExpr) :
    t.text .argument =
      if t.core.isCompound then "(" ++ t.text .standalone ++ ")" else t.text .standalone := by
  induction t with
  | app head args ih _ =>
    cases args with
    | nil => exact ih
    | cons arg args => exact text_app .argument head arg args
  | arrow arg result => exact text_arrow .argument arg result
  | _ => rfl

/-- **Brackets hold a text together.** In the text of a type at either position they are matched and
nested. In the text of an argument all blanks are inside of them. It is the text of the type on its
own, in parentheses if an arrow or an application with arguments is at its core. -/
theorem print_brackets {t : TypeExpr} (hnames : ∀ name ∈ t.names, IsWordName name) :
    ∃ alone argument,
      t.print .standalone = refuseFirst t.foreigns alone ∧
      t.print .argument = refuseFirst t.foreigns argument ∧
      Nested alone.toList ∧ Nested argument.toList ∧ Words.IsWord argument.toList ∧
      argument = if t.core.isCompound then "(" ++ alone ++ ")" else alone := by
  have hbracketed := isBracketed hnames
  exact ⟨t.text .standalone, t.text .argument, print_eq _ t, print_eq _ t, hbracketed.nested _,
    hbracketed.nested _, hbracketed.isWord, text_argument t⟩

/-- An arrow in two empty applications, with a record, a tuple and a name of no characters in it. -/
theorem print_brackets_wrapped :
    let t := TypeExpr.app (.app (.arrow
      (.arrow (.tuple [.var "a", .con ""]) (.record [("x", .var "a")] (some "r")))
      (.app (.con "F") [.tuple [], .app (.var "b") []])) []) []
    let alone := "(( a,  ) -> { r | x : a }) -> F () b"
    t.print .standalone = .ok alone ∧ t.print .argument = .ok ("(" ++ alone ++ ")") ∧
      Nested alone.toList ∧ Words.IsWord ("(" ++ alone ++ ")").toList := by
  intro t alone
  have hnames : ∀ name ∈ t.names, IsWordName name := by decide
  obtain ⟨_, _, halone, hargument, hnested, -, hword, -⟩ := print_brackets hnames
  obtain rfl := Except.ok.inj (show Except.ok alone = _ from halone)
  obtain rfl := Except.ok.inj (show Except.ok ("(" ++ alone ++ ")") = _ from hargument)
  exact ⟨halone, hargument, hnested, hword⟩

end SyntaxReports.TypeExpr
