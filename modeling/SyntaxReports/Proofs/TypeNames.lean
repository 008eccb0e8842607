import Mathlib.Data.List.Basic
import SyntaxReports.Proofs.TypeText

/-!
# The names in a text: every one of them, once and in order

A printer puts the names of a type in a row and sets brackets, arrows, commas, colons, bars and
blanks between them (`TypeExpr.ownCharacters`). What is left of the text without these characters is
its lettering. `TypeExpr.print_names` says that it is the lettering of the names, from left to right,
so that no name is lost, doubled or moved past another one. Nothing is asked of the names: they may
be empty, occur several times, and hold the printer's own characters.

An application without arguments shows the names of its head, which are all the names it has.
-/

namespace SyntaxReports.TypeExpr

/-! ## Names -/

mutual

/-- The names in a type, from left to right: a head before its arguments, a row variable before the
fields of its record, and each field before its type. -/
def names : TypeExpr → List String
  | .var name => [name]
  | .con name => [name]
  | .app head args => names head ++ namesAll args
  | .arrow arg result => names arg ++ names result
  | .tuple items => namesAll items
  | .record fields extension => extension.toList ++ namesFields fields
  | .foreign _ => []

/-- The names in several types. -/
def namesAll : List TypeExpr → List String
  | [] => []
  | type :: types => names type ++ namesAll types

/-- The names in the fields of a record. -/
def namesFields : List (String × TypeExpr) → List String
  | [] => []
  | (name, type) :: fields => name :: (names type ++ namesFields fields)

end

/-- The names in a field: its own, then those of its type. -/
def fieldNames (field : String × TypeExpr) : List String := field.1 :: field.2.names

theorem namesAll_eq (types : List TypeExpr) : namesAll types = types.flatMap names := by
  induction types with
  | nil => rfl
  | cons type types ih => rw [namesAll, ih, List.flatMap_cons]

theorem namesFields_eq (fields : List (String × TypeExpr)) :
    namesFields fields = fields.flatMap fieldNames := by
  induction fields with
  | nil => rfl
  | cons field fields ih => rw [namesFields, ih, List.flatMap_cons, fieldNames, List.cons_append]

@[simp] theorem names_app (head : TypeExpr) (args : List TypeExpr) :
    (TypeExpr.app head args).names = (head :: args).flatMap names := by
  rw [names, namesAll_eq, List.flatMap_cons]

@[simp] theorem names_arrow (arg result : TypeExpr) :
    (TypeExpr.arrow arg result).names = arg.names ++ result.names := by
  rw [names]

@[simp] theorem names_tuple (items : List TypeExpr) :
    (TypeExpr.tuple items).names = items.flatMap names := by
  rw [names, namesAll_eq]

@[simp] theorem names_record (fields : List (String × TypeExpr)) (extension : Option String) :
    (TypeExpr.record fields extension).names =
      extension.toList ++ fields.flatMap fieldNames := by
  rw [names, namesFields_eq]

/-! ## Lettering -/

/-- The characters that the printer brings in itself. -/
def ownCharacters : List Char := [' ', '(', ')', '{', '}', ',', ':', '|', '-', '>']

/-- The characters of a text but for those that the printer brings in, in their order. -/
def lettering (cs : List Char) : List Char := cs.filter (· ∉ ownCharacters)

@[simp] theorem lettering_nil : lettering [] = [] := rfl

@[simp] theorem lettering_append (cs ds : List Char) :
    lettering (cs ++ ds) = lettering cs ++ lettering ds :=
  List.filter_append ..

/-- What the printer brings in leaves no trace. -/
@[simp] theorem lettering_cons {c : Char} (hc : c ∈ ownCharacters) (cs : List Char) :
    lettering (c :: cs) = lettering cs :=
  List.filter_cons_of_neg (by simpa using hc)

theorem mem_lettering {c : Char} (hc : c ∉ ownCharacters) {cs : List Char} :
    c ∈ lettering cs ↔ c ∈ cs := by
  simp [lettering, hc]

/-- Separators of the printer's own are not seen between pieces. -/
theorem lettering_intercalate {sep : List Char} (hsep : lettering sep = [])
    (pieces : List (List Char)) :
    lettering (sep.intercalate pieces) = pieces.flatMap lettering := by
  induction pieces with
  | nil => rfl
  | cons piece pieces ih =>
    cases pieces with
    | nil => simp
    | cons next pieces =>
      rw [List.intercalate_cons_cons, lettering_append, lettering_append, hsep, List.append_nil, ih,
        List.flatMap_cons (x := piece)]

/-- Pieces that show their names, with separators between them, show all of the names. -/
theorem lettering_row {α : Type} (sep : List Char) (hsep : lettering sep = [])
    {write : α → List Char} {inside : α → List String} {xs : List α}
    (h : ∀ x ∈ xs, lettering (write x) = (inside x).flatMap (lettering ·.toList)) :
    lettering (sep.intercalate (xs.map write)) =
      (xs.flatMap inside).flatMap (lettering ·.toList) := by
  rw [lettering_intercalate hsep, List.flatMap_map, List.flatMap_congr h, List.flatMap_assoc]

theorem lettering_enclose (position : Position) (text : String) :
    lettering (position.enclose text).toList = lettering text.toList := by
  cases position with
  | standalone => rfl
  | argument => simp (disch := decide) [Position.enclose]

theorem lettering_fieldText {field : String × TypeExpr}
    (h : lettering (field.2.text .standalone).toList =
      field.2.names.flatMap (lettering ·.toList)) :
    lettering (fieldText field).toList = (fieldNames field).flatMap (lettering ·.toList) := by
  rw [toList_fieldText, fieldNames, List.flatMap_cons, ← h]
  simp (disch := decide)

/-! ## Texts -/

/-- The lettering of a text is that of the names in the type. -/
theorem lettering_text (position : Position) (t : TypeExpr) :
    lettering (t.text position).toList = t.names.flatMap (lettering ·.toList) := by
  induction t generalizing position with
  | var name => simp [text, names]
  | con name => simp [text, names]
  | foreign value => rfl
  | app head args ihhead ihargs =>
    cases args with
    | nil => rw [text, ihhead, names_app, List.flatMap_singleton]
    | cons arg args =>
      have hwords : ∀ t ∈ head :: arg :: args,
          lettering (t.text .argument).toList = t.names.flatMap (lettering ·.toList) :=
        List.forall_mem_cons.mpr ⟨ihhead .argument, fun t ht => ihargs t ht .argument⟩
      rw [text_app, lettering_enclose, toList_text_app, names_app]
      exact lettering_row [' '] (by decide) hwords
  | arrow arg result iharg ihresult =>
    rw [text_arrow, lettering_enclose, toList_text_arrow, names_arrow, List.flatMap_append,
      ← iharg arg.leftOfArrow, ← ihresult .standalone]
    simp (disch := decide)
  | tuple items ih =>
    rw [names_tuple]
    cases items with
    | nil => simp (disch := decide) [toList_text_unit]
    | cons item items =>
      rw [toList_text_tuple, ← lettering_row [',', ' '] (by decide)
        fun t ht => ih t ht .standalone]
      simp (disch := decide)
  | record fields extension ih =>
    rw [names_record, List.flatMap_append]
    cases fields with
    | nil => cases extension <;> simp (disch := decide) [toList_text_emptyRecord, toList_text_row]
    | cons field fields =>
      rw [← lettering_row [',', ' '] (by decide)
        fun f hf => lettering_fieldText (ih f hf .standalone)]
      cases extension <;> simp (disch := decide) [toList_text_record, toList_text_extended]

/-- **A text shows the names of its type**, each of them once and in order, if the printer's own
characters are taken out of both. So a text has a newline if and only if one of the names has. Where
there is something foreign in the type, the printer refuses with the first of that and nothing is
shown. -/
theorem print_names (position : Position) (t : TypeExpr) :
    ∃ text, t.print position = refuseFirst t.foreigns text ∧
      lettering text.toList = lettering (String.join t.names).toList ∧
      ('\n' ∈ text.toList ↔ ∃ name ∈ t.names, '\n' ∈ name.toList) := by
  have hshown : lettering (t.text position).toList = lettering (String.join t.names).toList := by
    rw [lettering_text, String.toList_join, lettering, List.filter_flatMap]
    rfl
  have hnewline : '\n' ∉ ownCharacters := by decide
  refine ⟨t.text position, print_eq position t, hshown, ?_⟩
  rw [← mem_lettering hnewline, hshown, mem_lettering hnewline, String.toList_join]
  simp only [List.mem_flatMap]

/-- A row variable comes before the fields, in the text and among the names. -/
example :
    let t := TypeExpr.app (.con "F") [.record [("x", .var "a"), ("y", .con "")] (some "r")]
    t.print .standalone = .ok "F { r | x : a, y :  }" ∧ t.names = ["F", "r", "x", "a", "y", ""] :=
  ⟨rfl, rfl⟩

end SyntaxReports.TypeExpr
