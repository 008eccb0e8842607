import SyntaxReports.TypeExpr.Print

/-!
# The text of a type: what the standard printer answers

`TypeExpr.print` does two things at once: it puts a text together, and it looks out for foreign
values, of which the first one ends it. Here they are taken apart. `TypeExpr.text` is the text
alone, `TypeExpr.foreigns` are the foreign values in the order they are met, and
`TypeExpr.print_eq` puts the printer together again: it answers the text where there are no foreign
values, and otherwise it refuses with the first.

A property that concerns every type inside a type is stated over `TypeExpr.parts`, and
`TypeExpr.induct` is the induction that types need: lists of types, and fields with a type, are
inside types, and each of their members comes with its hypothesis.
-/

namespace SyntaxReports

namespace TypeExpr

/-- Induction over types, where every member of a list of types has its hypothesis. -/
@[elab_as_elim, induction_eliminator]
theorem induct {motive : TypeExpr → Prop}
    (var : ∀ name, motive (.var name))
    (con : ∀ name, motive (.con name))
    (app : ∀ head args, motive head → (∀ arg ∈ args, motive arg) → motive (.app head args))
    (arrow : ∀ arg result, motive arg → motive result → motive (.arrow arg result))
    (tuple : ∀ items, (∀ item ∈ items, motive item) → motive (.tuple items))
    (record : ∀ fields extension, (∀ field ∈ fields, motive field.2) →
      motive (.record fields extension))
    (foreign : ∀ value, motive (.foreign value)) (t : TypeExpr) : motive t := by
  refine @TypeExpr.rec motive (fun ts => ∀ t ∈ ts, motive t)
    (fun fields => ∀ field ∈ fields, motive field.2) (fun field => motive field.2)
    var con app arrow tuple record foreign ?nil ?cons ?noField ?consField (fun _ _ h => h) t
  case nil => exact fun _ h => absurd h List.not_mem_nil
  case noField => exact fun _ h => absurd h List.not_mem_nil
  case cons =>
    intro head tail hhead htail t ht
    rcases List.mem_cons.mp ht with rfl | ht
    · exact hhead
    · exact htail t ht
  case consField =>
    intro head tail hhead htail field hfield
    rcases List.mem_cons.mp hfield with rfl | hfield
    · exact hhead
    · exact htail field hfield

/-! ## What is inside a type -/

mutual

/-- The type itself and all types inside it, in the order they begin in the text. -/
def parts : TypeExpr → List TypeExpr
  | .var name => [.var name]
  | .con name => [.con name]
  | .app head args => .app head args :: (parts head ++ partsAll args)
  | .arrow arg result => .arrow arg result :: (parts arg ++ parts result)
  | .tuple items => .tuple items :: partsAll items
  | .record fields extension => .record fields extension :: partsFields fields
  | .foreign value => [.foreign value]

/-- The parts of several types. -/
def partsAll : List TypeExpr → List TypeExpr
  | [] => []
  | type :: types => parts type ++ partsAll types

/-- The parts of the types of a record's fields. -/
def partsFields : List (String × TypeExpr) → List TypeExpr
  | [] => []
  | (_, type) :: fields => parts type ++ partsFields fields

end

attribute [local simp] parts

theorem partsAll_eq (types : List TypeExpr) : partsAll types = types.flatMap parts := by
  induction types with
  | nil => rfl
  | cons type types ih => rw [partsAll, ih, List.flatMap_cons]

theorem partsFields_eq (fields : List (String × TypeExpr)) :
    partsFields fields = fields.flatMap fun field => parts field.2 := by
  induction fields with
  | nil => rfl
  | cons field fields ih => rw [partsFields, ih, List.flatMap_cons]

/-- A property of every part of a type. -/
def Everywhere (p : TypeExpr → Prop) (t : TypeExpr) : Prop := ∀ part ∈ t.parts, p part

section Everywhere

variable {p : TypeExpr → Prop}

theorem everywhere_app {head : TypeExpr} {args : List TypeExpr} :
    (TypeExpr.app head args).Everywhere p ↔
      p (.app head args) ∧ head.Everywhere p ∧ ∀ arg ∈ args, arg.Everywhere p := by
  simp only [Everywhere, parts, partsAll_eq, List.forall_mem_cons, List.forall_mem_append,
    List.forall_mem_flatMap]

theorem everywhere_arrow {arg result : TypeExpr} :
    (TypeExpr.arrow arg result).Everywhere p ↔
      p (.arrow arg result) ∧ arg.Everywhere p ∧ result.Everywhere p := by
  simp only [Everywhere, parts, List.forall_mem_cons, List.forall_mem_append]

theorem everywhere_tuple {items : List TypeExpr} :
    (TypeExpr.tuple items).Everywhere p ↔
      p (.tuple items) ∧ ∀ item ∈ items, item.Everywhere p := by
  simp only [Everywhere, parts, partsAll_eq, List.forall_mem_cons, List.forall_mem_flatMap]

theorem everywhere_record {fields : List (String × TypeExpr)} {extension : Option String} :
    (TypeExpr.record fields extension).Everywhere p ↔
      p (.record fields extension) ∧ ∀ field ∈ fields, field.2.Everywhere p := by
  simp only [Everywhere, parts, partsFields_eq, List.forall_mem_cons, List.forall_mem_flatMap]

/-- What holds of every part holds of the type. -/
theorem Everywhere.self {t : TypeExpr} (h : t.Everywhere p) : p t := by
  apply h
  cases t <;> simp

end Everywhere

/-- The foreign value that a type is, if it is one. -/
def foreign? : TypeExpr → Option Foreign
  | .foreign value => some value
  | _ => none

/-- The foreign values in a type, from left to right. -/
def foreigns (t : TypeExpr) : List Foreign := t.parts.filterMap foreign?

theorem filterMap_partsAll (types : List TypeExpr) :
    (partsAll types).filterMap foreign? = types.flatMap foreigns := by
  rw [partsAll_eq, List.filterMap_flatMap]
  rfl

theorem filterMap_partsFields (fields : List (String × TypeExpr)) :
    (partsFields fields).filterMap foreign? = fields.flatMap fun field => foreigns field.2 := by
  rw [partsFields_eq, List.filterMap_flatMap]
  rfl

@[simp] theorem foreigns_var (name : String) : (TypeExpr.var name).foreigns = [] := rfl

@[simp] theorem foreigns_con (name : String) : (TypeExpr.con name).foreigns = [] := rfl

@[simp] theorem foreigns_foreign (value : Foreign) :
    (TypeExpr.foreign value).foreigns = [value] := rfl

@[simp] theorem foreigns_app (head : TypeExpr) (args : List TypeExpr) :
    (TypeExpr.app head args).foreigns = head.foreigns ++ args.flatMap foreigns := by
  rw [← filterMap_partsAll, foreigns, parts, List.filterMap_cons_none rfl, List.filterMap_append]
  rfl

@[simp] theorem foreigns_arrow (arg result : TypeExpr) :
    (TypeExpr.arrow arg result).foreigns = arg.foreigns ++ result.foreigns := by
  rw [foreigns, parts, List.filterMap_cons_none rfl, List.filterMap_append]
  rfl

@[simp] theorem foreigns_tuple (items : List TypeExpr) :
    (TypeExpr.tuple items).foreigns = items.flatMap foreigns := by
  rw [← filterMap_partsAll, foreigns, parts, List.filterMap_cons_none rfl]

@[simp] theorem foreigns_record (fields : List (String × TypeExpr)) (extension : Option String) :
    (TypeExpr.record fields extension).foreigns =
      fields.flatMap fun field => foreigns field.2 := by
  rw [← filterMap_partsFields, foreigns, parts, List.filterMap_cons_none rfl]

/-! ## The text alone -/

mutual

/-- The text of a type at a position. A foreign value has none. -/
def text : Position → TypeExpr → String
  | _, .var name => name
  | _, .con name => name
  | position, .app head [] => text position head
  | position, .app head (arg :: args) =>
    position.enclose (" ".intercalate (text .argument head :: textAll .argument (arg :: args)))
  | position, .arrow arg result =>
    position.enclose (text arg.leftOfArrow arg ++ " -> " ++ text .standalone result)
  | _, .tuple items =>
    match commaSeparated (textAll .standalone items) with
    | none => "()"
    | some items => "( " ++ items ++ " )"
  | _, .record fields extension => braces (commaSeparated (textFields fields)) extension
  | _, .foreign _ => ""

/-- The texts of several types, all at one position. -/
def textAll : Position → List TypeExpr → List String
  | _, [] => []
  | position, type :: types => text position type :: textAll position types

/-- The texts of a record's fields. -/
def textFields : List (String × TypeExpr) → List String
  | [] => []
  | (name, type) :: fields => (name ++ " : " ++ text .standalone type) :: textFields fields

end

attribute [local simp] text

theorem textAll_eq (position : Position) (types : List TypeExpr) :
    textAll position types = types.map (text position) := by
  induction types with
  | nil => rfl
  | cons type types ih => rw [textAll, ih, List.map_cons]

/-- The text of a record's field: the name, a colon with a blank on either side, the type. -/
def fieldText (field : String × TypeExpr) : String :=
  field.1 ++ " : " ++ text .standalone field.2

theorem textFields_eq (fields : List (String × TypeExpr)) :
    textFields fields = fields.map fieldText := by
  induction fields with
  | nil => rfl
  | cons field fields ih => rw [textFields, ih, List.map_cons, fieldText]

/-! ### Compound types

A compound type at a position is the type on its own, in parentheses if the position needs them. -/

theorem text_app (position : Position) (head arg : TypeExpr) (args : List TypeExpr) :
    text position (.app head (arg :: args)) =
      position.enclose (text .standalone (.app head (arg :: args))) := rfl

theorem text_arrow (position : Position) (arg result : TypeExpr) :
    text position (.arrow arg result) =
      position.enclose (text .standalone (.arrow arg result)) := rfl

/-! ### Types of one shape

Two types of one shape have the same text if the types inside them have the same texts. -/

theorem text_app_congr {head head' : TypeExpr} {args args' : List TypeExpr} (hne : args ≠ [])
    (hhead : head.text .argument = head'.text .argument)
    (hargs : args.map (text .argument) = args'.map (text .argument)) (position : Position) :
    (TypeExpr.app head args).text position = (TypeExpr.app head' args').text position := by
  obtain ⟨arg, args, rfl⟩ := List.exists_cons_of_ne_nil hne
  cases args' with
  | nil => simp at hargs
  | cons arg' args' => rw [text, text, textAll_eq, textAll_eq, hhead, hargs]

theorem text_arrow_congr {arg arg' result result' : TypeExpr}
    (harg : arg.text arg.leftOfArrow = arg'.text arg'.leftOfArrow)
    (hresult : result.text .standalone = result'.text .standalone) (position : Position) :
    (TypeExpr.arrow arg result).text position = (TypeExpr.arrow arg' result').text position := by
  rw [text, text, harg, hresult]

theorem text_tuple_congr {items items' : List TypeExpr}
    (h : items.map (text .standalone) = items'.map (text .standalone)) (position : Position) :
    (TypeExpr.tuple items).text position = (TypeExpr.tuple items').text position := by
  rw [text, text, textAll_eq, textAll_eq, h]

theorem text_record_congr {fields fields' : List (String × TypeExpr)}
    (h : fields.map fieldText = fields'.map fieldText) (extension : Option String)
    (position : Position) :
    (TypeExpr.record fields extension).text position =
      (TypeExpr.record fields' extension).text position := by
  rw [text, text, textFields_eq, textFields_eq, h]

/-! ## Text and foreign values make the printer -/

/-- An answer, or a refusal with the first of the foreign values if there are any. -/
def refuseFirst {α : Type} (foreigns : List Foreign) (answer : α) : Except Fault α :=
  match foreigns with
  | [] => .ok answer
  | value :: _ => .error value.fault

/-- Two steps that look out for foreign values are one step that looks out for those of both, the
first step's values first. -/
theorem refuseFirst_bind {α β : Type} {first second : List Foreign} {answer : α}
    {step : α → Except Fault β} {result : β} (h : step answer = refuseFirst second result) :
    (refuseFirst first answer >>= step) = refuseFirst (first ++ second) result := by
  cases first with
  | nil => exact h
  | cons value first => rfl

/-- A last step that always answers adds no foreign values. -/
theorem refuseFirst_pure {α β : Type} (foreigns : List Foreign) (answer : α) (step : α → β) :
    (refuseFirst foreigns answer >>= fun a => pure (step a)) =
      refuseFirst foreigns (step answer) := by
  cases foreigns with
  | nil => rfl
  | cons value foreigns => rfl

/-- Printing a list of types, when each of them prints as it should. -/
theorem printAll_eq {position : Position} {types : List TypeExpr}
    (h : ∀ type ∈ types, type.print position = refuseFirst type.foreigns (type.text position)) :
    printAll position types = refuseFirst (types.flatMap foreigns) (types.map (text position)) := by
  induction types with
  | nil => rfl
  | cons type types ih =>
    obtain ⟨htype, htypes⟩ := List.forall_mem_cons.mp h
    rw [printAll, htype, List.flatMap_cons, List.map_cons]
    refine refuseFirst_bind ?_
    rw [ih htypes, refuseFirst_pure]

/-- Printing the fields of a record, when each of their types prints as it should. -/
theorem printFields_eq {fields : List (String × TypeExpr)}
    (h : ∀ field ∈ fields,
      field.2.print .standalone = refuseFirst field.2.foreigns (field.2.text .standalone)) :
    printFields fields =
      refuseFirst (fields.flatMap fun field => foreigns field.2) (fields.map fieldText) := by
  induction fields with
  | nil => rfl
  | cons field fields ih =>
    obtain ⟨hfield, hfields⟩ := List.forall_mem_cons.mp h
    rw [printFields, hfield, List.flatMap_cons, List.map_cons]
    refine refuseFirst_bind ?_
    rw [ih hfields, refuseFirst_pure, fieldText]

/-- The printer answers the text of a type, unless there is something foreign in it; then it
refuses with the leftmost of that. -/
theorem print_eq (position : Position) (t : TypeExpr) :
    t.print position = refuseFirst t.foreigns (t.text position) := by
  induction t generalizing position with
  | var name => rfl
  | con name => rfl
  | foreign value => rfl
  | app head args ihhead ihargs =>
    cases args with
    | nil =>
      rw [print, text, ihhead, foreigns_app, List.flatMap_nil, List.append_nil]
    | cons arg args =>
      obtain ⟨iharg, ihargs⟩ := List.forall_mem_cons.mp ihargs
      rw [print, ihhead, iharg, printAll_eq fun arg h => ihargs arg h .argument, foreigns_app]
      refine refuseFirst_bind ?_
      rw [List.flatMap_cons]
      refine refuseFirst_bind ?_
      rw [refuseFirst_pure, text, textAll_eq, List.map_cons]
  | arrow arg result iharg ihresult =>
    rw [print, iharg, ihresult, foreigns_arrow]
    refine refuseFirst_bind ?_
    rw [refuseFirst_pure, text]
  | tuple items ih =>
    rw [print, printAll_eq fun item h => ih item h .standalone, refuseFirst_pure, foreigns_tuple,
      ← textAll_eq]
    rfl
  | record fields extension ih =>
    rw [print, printFields_eq fun field h => ih field h .standalone, refuseFirst_pure,
      foreigns_record, text, textFields_eq]

/-- A type without anything foreign in it has its text for an answer. -/
theorem print_eq_ok {t : TypeExpr} (h : t.foreigns = []) (position : Position) :
    t.print position = .ok (t.text position) := by
  rw [print_eq, h]
  rfl

/-! ## The characters of a text

One lemma for each shape of a type. Lists are joined as `List.intercalate` joins them, and brackets
and marks stand as the characters they are. -/

/-- An application with arguments: its head and its arguments are words with blanks between. -/
theorem toList_text_app (head arg : TypeExpr) (args : List TypeExpr) :
    (text .standalone (.app head (arg :: args))).toList =
      [' '].intercalate ((head :: arg :: args).map fun t => (t.text .argument).toList) := by
  rw [text, textAll_eq, Position.enclose, String.toList_intercalate]
  simp [Function.comp_def]

theorem toList_text_arrow (arg result : TypeExpr) :
    (text .standalone (.arrow arg result)).toList =
      (text arg.leftOfArrow arg).toList ++
        ' ' :: '-' :: '>' :: ' ' :: (text .standalone result).toList := by
  rw [text, Position.enclose]
  simp

/-- As an argument, an application has parentheses around it. -/
theorem toList_text_app_argument (head arg : TypeExpr) (args : List TypeExpr) :
    (text .argument (.app head (arg :: args))).toList =
      '(' :: ((text .standalone (.app head (arg :: args))).toList ++ [')']) := by
  simp [Position.enclose]

/-- As an argument, a function type has parentheses around it. -/
theorem toList_text_arrow_argument (arg result : TypeExpr) :
    (text .argument (.arrow arg result)).toList =
      '(' :: ((text .standalone (.arrow arg result)).toList ++ [')']) := by
  simp [Position.enclose]

theorem toList_text_unit (position : Position) :
    (text position (.tuple [])).toList = ['(', ')'] := by
  simp [textAll, commaSeparated]

theorem toList_text_tuple (position : Position) (item : TypeExpr) (items : List TypeExpr) :
    (text position (.tuple (item :: items))).toList =
      '(' :: ' ' :: ([',', ' '].intercalate
        ((item :: items).map fun t => (t.text .standalone).toList) ++ [' ', ')']) := by
  simp [textAll_eq, commaSeparated, String.toList_intercalate, Function.comp_def]

theorem toList_fieldText (field : String × TypeExpr) :
    (fieldText field).toList =
      field.1.toList ++ ' ' :: ':' :: ' ' :: (field.2.text .standalone).toList := by
  simp [fieldText]

theorem toList_text_emptyRecord (position : Position) :
    (text position (.record [] none)).toList = ['{', '}'] := by
  simp [textFields, commaSeparated, braces]

theorem toList_text_row (position : Position) (row : String) :
    (text position (.record [] (some row))).toList =
      '{' :: ' ' :: (row.toList ++ [' ', '}']) := by
  simp [textFields, commaSeparated, braces]

theorem toList_text_record (position : Position) (field : String × TypeExpr)
    (fields : List (String × TypeExpr)) :
    (text position (.record (field :: fields) none)).toList =
      '{' :: ' ' :: ([',', ' '].intercalate
        ((field :: fields).map fun f => (fieldText f).toList) ++ [' ', '}']) := by
  simp [textFields_eq, commaSeparated, braces, String.toList_intercalate, Function.comp_def]

theorem toList_text_extended (position : Position) (field : String × TypeExpr)
    (fields : List (String × TypeExpr)) (row : String) :
    (text position (.record (field :: fields) (some row))).toList =
      '{' :: ' ' :: (row.toList ++ ' ' :: '|' :: ' ' :: ([',', ' '].intercalate
        ((field :: fields).map fun f => (fieldText f).toList) ++ [' ', '}'])) := by
  simp [textFields_eq, commaSeparated, braces, String.toList_intercalate, Function.comp_def]

end TypeExpr

end SyntaxReports
