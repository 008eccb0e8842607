import Mathlib.Data.List.Basic
import SyntaxReports.Proofs.TypeText

/-!
# Empty applications: where they are seen through

An application without arguments is printed like its head, so it should make no difference whether
it is there. `TypeExpr.strip` removes all of them from a type, and the question is whether the text
stays the same.

It does, with one exception. To the left of an arrow an arrow is put in parentheses, but an arrow
inside an empty application is not recognized there (`TypeExpr.Disguised`), and without the
parentheses the text is that of another type. `TypeExpr.length_text_strip` counts: each disguised
arrow to the left of an arrow costs the text exactly one pair of parentheses.
`TypeExpr.print_strip_iff` concludes that the printer sees through the empty applications of a type
if and only if it has no such place.
-/

namespace SyntaxReports

namespace TypeExpr

mutual

/-- The type with every empty application replaced by its head. -/
def strip : TypeExpr → TypeExpr
  | .var name => .var name
  | .con name => .con name
  | .app head [] => strip head
  | .app head (arg :: args) => .app (strip head) (stripAll (arg :: args))
  | .arrow arg result => .arrow (strip arg) (strip result)
  | .tuple items => .tuple (stripAll items)
  | .record fields extension => .record (stripFields fields) extension
  | .foreign value => .foreign value

/-- Several types, stripped. -/
def stripAll : List TypeExpr → List TypeExpr
  | [] => []
  | type :: types => strip type :: stripAll types

/-- The fields of a record, their types stripped. -/
def stripFields : List (String × TypeExpr) → List (String × TypeExpr)
  | [] => []
  | (name, type) :: fields => (name, strip type) :: stripFields fields

end

theorem stripAll_eq (types : List TypeExpr) : stripAll types = types.map strip := by
  induction types with
  | nil => rfl
  | cons type types ih => rw [stripAll, ih, List.map_cons]

/-- A field, its type stripped. -/
def stripField (field : String × TypeExpr) : String × TypeExpr := (field.1, strip field.2)

theorem stripFields_eq (fields : List (String × TypeExpr)) :
    stripFields fields = fields.map stripField := by
  induction fields with
  | nil => rfl
  | cons field fields ih => rw [stripFields, ih, List.map_cons, stripField]

/-- Stripping takes no foreign values away and adds none. -/
theorem foreigns_strip (t : TypeExpr) : t.strip.foreigns = t.foreigns := by
  induction t with
  | var name => rfl
  | con name => rfl
  | foreign value => rfl
  | app head args ihhead ihargs =>
    cases args with
    | nil => rw [strip, ihhead, foreigns_app, List.flatMap_nil, List.append_nil]
    | cons arg args =>
      rw [strip, stripAll_eq, foreigns_app, foreigns_app, ihhead, List.flatMap_map,
        List.flatMap_congr ihargs]
  | arrow arg result iharg ihresult =>
    rw [strip, foreigns_arrow, foreigns_arrow, iharg, ihresult]
  | tuple items ih =>
    rw [strip, stripAll_eq, foreigns_tuple, foreigns_tuple, List.flatMap_map,
      List.flatMap_congr ih]
  | record fields extension ih =>
    rw [strip, stripFields_eq, foreigns_record, foreigns_record, List.flatMap_map]
    exact List.flatMap_congr ih

/-! ## Disguised arrows -/

/-- An arrow with nothing around it but empty applications, one of them at least. -/
def Disguised : TypeExpr → Bool
  | .app head [] => head.leftOfArrow = .argument || Disguised head
  | _ => false

/-- Stripping a disguised arrow brings the arrow to light, and nothing else changes what the left
of an arrow asks for. -/
theorem leftOfArrow_strip (t : TypeExpr) :
    t.strip.leftOfArrow = if t.Disguised then .argument else t.leftOfArrow := by
  induction t with
  | app head args ih _ =>
    cases args with
    | nil =>
      rw [strip, ih, Disguised]
      cases head.leftOfArrow <;> cases head.Disguised <;> rfl
    | cons arg args =>
      rw [strip]
      rfl
  | _ => rfl

/-- Only an arrow is put in parentheses to the left of an arrow. -/
theorem exists_arrow_of_leftOfArrow {t : TypeExpr} (h : t.leftOfArrow = .argument) :
    ∃ arg result, t = .arrow arg result := by
  cases t with
  | arrow arg result => exact ⟨arg, result, rfl⟩
  | _ => cases h

/-- A disguised arrow is not put in parentheses. -/
theorem leftOfArrow_of_disguised {t : TypeExpr} (h : t.Disguised = true) :
    t.leftOfArrow = .standalone := by
  cases t with
  | app head args => rfl
  | _ => cases h

/-- A function type whose argument is a disguised arrow. -/
def losesParentheses : TypeExpr → Bool
  | .arrow arg _ => arg.Disguised
  | _ => false

/-- How many of those there are in a type. -/
def lostParentheses (t : TypeExpr) : Nat := t.parts.countP losesParentheses

@[simp] theorem lostParentheses_app (head : TypeExpr) (args : List TypeExpr) :
    (TypeExpr.app head args).lostParentheses =
      ((head :: args).flatMap parts).countP losesParentheses := by
  rw [lostParentheses, parts, partsAll_eq, List.countP_cons_of_neg (by simp [losesParentheses]),
    List.flatMap_cons]

@[simp] theorem lostParentheses_arrow (arg result : TypeExpr) :
    (TypeExpr.arrow arg result).lostParentheses =
      arg.lostParentheses + result.lostParentheses + if arg.Disguised then 1 else 0 := by
  rw [lostParentheses, parts, List.countP_cons, List.countP_append]
  rfl

@[simp] theorem lostParentheses_tuple (items : List TypeExpr) :
    (TypeExpr.tuple items).lostParentheses =
      (items.flatMap parts).countP losesParentheses := by
  rw [lostParentheses, parts, partsAll_eq, List.countP_cons_of_neg (by simp [losesParentheses])]

@[simp] theorem lostParentheses_record (fields : List (String × TypeExpr))
    (extension : Option String) :
    (TypeExpr.record fields extension).lostParentheses =
      (fields.flatMap fun field => parts field.2).countP losesParentheses := by
  rw [lostParentheses, parts, partsFields_eq,
    List.countP_cons_of_neg (by simp [losesParentheses])]

/-! ## Counting parentheses -/

/-- Joining adds up: if each item of the one list is longer than the item of the other by two for
each of its marked parts, then so is the whole. -/
theorem length_intercalate_add {α β : Type} (sep : List Char) {write write' : α → List Char}
    {inside : α → List β} {marked : β → Bool} (xs : List α)
    (h : ∀ x ∈ xs, (write' x).length = (write x).length + 2 * (inside x).countP marked) :
    (sep.intercalate (xs.map write')).length =
      (sep.intercalate (xs.map write)).length + 2 * (xs.flatMap inside).countP marked := by
  induction xs with
  | nil => rfl
  | cons x xs ih =>
    obtain ⟨hx, hxs⟩ := List.forall_mem_cons.mp h
    have htail := ih hxs
    cases xs with
    | nil => simpa using hx
    | cons y ys =>
      simp only [List.map_cons, List.intercalate_cons_cons, List.length_append,
        List.flatMap_cons, List.countP_append] at htail ⊢
      omega

/-- To the left of an arrow, a disguised arrow is two characters short of what it is stripped. -/
theorem length_left_strip {t : TypeExpr}
    (h : ∀ position, (t.strip.text position).toList.length =
      (t.text position).toList.length + 2 * t.lostParentheses) :
    (t.strip.text t.strip.leftOfArrow).toList.length =
      (t.text t.leftOfArrow).toList.length + 2 * t.lostParentheses +
        if t.Disguised then 2 else 0 := by
  have hleft := leftOfArrow_strip t
  by_cases hd : t.Disguised = true
  · rw [if_pos hd] at hleft
    obtain ⟨arg, result, harrow⟩ := exists_arrow_of_leftOfArrow hleft
    have hparens : (t.strip.text .argument).toList.length =
        (t.strip.text .standalone).toList.length + 2 := by
      rw [harrow, toList_text_arrow_argument]
      simp
    rw [hleft, if_pos hd, leftOfArrow_of_disguised hd, hparens, h]
  · rw [if_neg hd] at hleft
    rw [hleft, if_neg hd, h, Nat.add_zero]

/-- Every lost pair of parentheses makes the difference of two characters, and nothing else makes
one. -/
theorem length_text_strip (position : Position) (t : TypeExpr) :
    (t.strip.text position).toList.length =
      (t.text position).toList.length + 2 * t.lostParentheses := by
  induction t generalizing position with
  | var name => rfl
  | con name => rfl
  | foreign value => rfl
  | app head args ihhead ihargs =>
    cases args with
    | nil =>
      rw [strip, text, ihhead, lostParentheses_app, List.flatMap_singleton]
      rfl
    | cons arg args =>
      have hwords : ([' '].intercalate ((head :: arg :: args).map fun t =>
          (t.strip.text .argument).toList)).length = _ :=
        length_intercalate_add _ (head :: arg :: args) (List.forall_mem_cons.mpr
          ⟨ihhead .argument, fun t ht => ihargs t ht .argument⟩)
      rw [strip, stripAll_eq, lostParentheses_app]
      cases position with
      | standalone =>
        rw [List.map_cons, toList_text_app, toList_text_app]
        simp only [List.map_cons, List.map_map, Function.comp_def] at hwords ⊢
        exact hwords
      | argument =>
        rw [List.map_cons, toList_text_app_argument, toList_text_app_argument, toList_text_app,
          toList_text_app]
        simp only [List.length_cons, List.length_append, List.map_cons, List.map_map,
          Function.comp_def] at hwords ⊢
        omega
  | arrow arg result iharg ihresult =>
    have hstandalone : (text .standalone (strip (.arrow arg result))).toList.length =
        (text .standalone (.arrow arg result)).toList.length +
          2 * (TypeExpr.arrow arg result).lostParentheses := by
      -- only the left side can lose parentheses of its own
      have hleft := length_left_strip iharg
      have hright := ihresult .standalone
      rw [strip, toList_text_arrow, toList_text_arrow, lostParentheses_arrow]
      simp only [List.length_append, List.length_cons]
      split at hleft <;> simp_all <;> omega
    cases position with
    | standalone => exact hstandalone
    | argument =>
      rw [strip] at hstandalone ⊢
      rw [toList_text_arrow_argument, toList_text_arrow_argument, List.length_cons,
        List.length_cons, List.length_append, List.length_append, hstandalone]
      omega
  | tuple items ih =>
    rw [strip, stripAll_eq, lostParentheses_tuple]
    cases items with
    | nil => rfl
    | cons item items =>
      have hitems : ([',', ' '].intercalate ((item :: items).map fun t =>
          (t.strip.text .standalone).toList)).length = _ :=
        length_intercalate_add _ (item :: items) fun t ht => ih t ht .standalone
      rw [List.map_cons, toList_text_tuple, toList_text_tuple]
      simp only [List.length_cons, List.length_append, List.map_cons, List.map_map,
        Function.comp_def] at hitems ⊢
      omega
  | record fields extension ih =>
    rw [strip, stripFields_eq, lostParentheses_record]
    cases fields with
    | nil => cases extension <;> rfl
    | cons field fields =>
      have hfield : ∀ f ∈ field :: fields, (fieldText (stripField f)).toList.length =
          (fieldText f).toList.length + 2 * (parts f.2).countP losesParentheses := by
        intro f hf
        have htype := ih f hf .standalone
        rw [lostParentheses] at htype
        simp only [toList_fieldText, stripField, List.length_append, List.length_cons, htype]
        omega
      have hfields := length_intercalate_add [',', ' '] (field :: fields) hfield
      cases extension with
      | none =>
        rw [List.map_cons, toList_text_record, toList_text_record]
        simp only [List.length_cons, List.length_append, List.map_cons, List.map_map,
          Function.comp_def] at hfields ⊢
        omega
      | some row =>
        rw [List.map_cons, toList_text_extended, toList_text_extended]
        simp only [List.length_cons, List.length_append, List.map_cons, List.map_map,
          Function.comp_def] at hfields ⊢
        omega

/-! ## Seeing through -/

/-- Where no parentheses are lost, the text is that of the stripped type. -/
theorem text_strip {t : TypeExpr} (h : t.Everywhere fun part => part.losesParentheses = false)
    (position : Position) : t.strip.text position = t.text position := by
  induction t generalizing position with
  | var name => rfl
  | con name => rfl
  | foreign value => rfl
  | app head args ihhead ihargs =>
    obtain ⟨-, hhead, hargs⟩ := everywhere_app.mp h
    cases args with
    | nil => rw [strip, text, ihhead hhead]
    | cons arg args =>
      rw [strip, stripAll_eq]
      refine text_app_congr (by simp) (ihhead hhead .argument) ?_ position
      rw [List.map_map]
      exact List.map_congr_left fun arg harg => ihargs arg harg (hargs arg harg) .argument
  | arrow arg result iharg ihresult =>
    obtain ⟨hnode, harg, hresult⟩ := everywhere_arrow.mp h
    have hdisguised : arg.Disguised = false := hnode
    have hleft : arg.strip.leftOfArrow = arg.leftOfArrow := by
      rw [leftOfArrow_strip, hdisguised]
      rfl
    rw [strip]
    refine text_arrow_congr ?_ (ihresult hresult .standalone) position
    rw [hleft, iharg harg]
  | tuple items ih =>
    obtain ⟨-, hitems⟩ := everywhere_tuple.mp h
    rw [strip, stripAll_eq]
    refine text_tuple_congr ?_ position
    rw [List.map_map]
    exact List.map_congr_left fun item hitem => ih item hitem (hitems item hitem) .standalone
  | record fields extension ih =>
    obtain ⟨-, hfields⟩ := everywhere_record.mp h
    rw [strip, stripFields_eq]
    refine text_record_congr ?_ extension position
    rw [List.map_map]
    refine List.map_congr_left fun field hfield => ?_
    simp only [Function.comp_apply, stripField, fieldText, ih field hfield (hfields field hfield)]

/-- The text of a type is that of the stripped type exactly where no parentheses are lost. -/
theorem text_strip_iff (position : Position) (t : TypeExpr) :
    t.strip.text position = t.text position ↔
      t.Everywhere fun part => part.losesParentheses = false := by
  refine ⟨fun h => ?_, fun h => text_strip h position⟩
  have hlength := length_text_strip position t
  rw [h] at hlength
  -- equal texts are equally long, so no parentheses can have been lost
  have hzero : t.lostParentheses = 0 := by omega
  intro part hpart
  simpa using List.countP_eq_zero.mp hzero part hpart

/-- **Empty applications**: the printer answers for a type what it answers for the stripped type,
unless somewhere to the left of an arrow there is an arrow in empty applications. Then it answers
something else, or refuses both types for the foreign value that they have in common. -/
theorem print_strip_iff (position : Position) (t : TypeExpr) :
    t.print position = t.strip.print position ↔
      t.foreigns ≠ [] ∨
        ∀ arg result, TypeExpr.arrow arg result ∈ t.parts → arg.Disguised = false := by
  have heverywhere : (t.Everywhere fun part => part.losesParentheses = false) ↔
      ∀ arg result, TypeExpr.arrow arg result ∈ t.parts → arg.Disguised = false := by
    constructor
    · intro h arg result hmem
      exact h _ hmem
    · intro h part hpart
      cases part with
      | arrow arg result => exact h arg result hpart
      | _ => rfl
  rw [print_eq, print_eq, foreigns_strip, ← heverywhere, ← text_strip_iff position]
  rcases hforeigns : t.foreigns with _ | ⟨value, foreigns⟩
  · simp only [refuseFirst, Except.ok.injEq, ne_eq, not_true_eq_false, false_or]
    exact eq_comm
  · simp [refuseFirst]

/-- A function of a function, the inner one in an empty application: the text is that of a function
of two arguments. -/
theorem print_strip_ne :
    let t := TypeExpr.arrow (.app (.arrow (.var "a") (.var "b")) []) (.var "c")
    t.print .standalone = .ok "a -> b -> c" ∧ t.strip.print .standalone = .ok "(a -> b) -> c" ∧
      t.print .standalone ≠ t.strip.print .standalone := by
  refine ⟨rfl, rfl, fun h => ?_⟩
  have htext : "a -> b -> c" = "(a -> b) -> c" := Except.ok.inj h
  exact absurd htext (by decide)

end TypeExpr

end SyntaxReports
