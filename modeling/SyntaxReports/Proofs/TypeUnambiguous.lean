import SyntaxReports.Proofs.TypeReader

/-!
# Unambiguity: no two types have one text

Every legible type is found again in its text, up to what a text cannot show: whether a name is that
of a variable or of a type. Hence two legible types with the same text are the same up to that.

The proof goes through the type once. For each shape it shows three things in turn: how the type is
read as a word (`ReadsWord`), how it is read to the left of an arrow (`ReadsLeft`), and how it is
read on its own (`ReadsType`). What follows in the text is arbitrary up to its first characters,
which is what makes the statements compose.
-/

namespace SyntaxReports

open TypeReader

namespace TypeExpr

/-! ## What a text shows of a type -/

mutual

/-- A type as far as its text shows it: a variable looks like the named type of its name. -/
def shown : TypeExpr → TypeExpr
  | .var name => .con name
  | .con name => .con name
  | .app head args => .app (shown head) (shownAll args)
  | .arrow arg result => .arrow (shown arg) (shown result)
  | .tuple items => .tuple (shownAll items)
  | .record fields extension => .record (shownFields fields) extension
  | .foreign value => .foreign value

/-- Several types as far as their texts show them. -/
def shownAll : List TypeExpr → List TypeExpr
  | [] => []
  | type :: types => shown type :: shownAll types

/-- The fields of a record as far as their texts show them. -/
def shownFields : List (String × TypeExpr) → List (String × TypeExpr)
  | [] => []
  | (name, type) :: fields => (name, shown type) :: shownFields fields

end

theorem shownAll_eq (types : List TypeExpr) : shownAll types = types.map shown := by
  induction types with
  | nil => rfl
  | cons type types ih => rw [shownAll, ih, List.map_cons]

/-- A field as far as its text shows it. -/
def shownField (field : String × TypeExpr) : String × TypeExpr := (field.1, shown field.2)

theorem shownFields_eq (fields : List (String × TypeExpr)) :
    shownFields fields = fields.map shownField := by
  induction fields with
  | nil => rfl
  | cons field fields ih => rw [shownFields, ih, List.map_cons, shownField]

/-- A text shows no more of a type than `shown` keeps. -/
@[simp] theorem text_shown (position : Position) (t : TypeExpr) :
    t.shown.text position = t.text position := by
  induction t generalizing position with
  | var name => rfl
  | con name => rfl
  | foreign value => rfl
  | app head args ihhead ihargs =>
    rw [shown, shownAll_eq]
    cases args with
    | nil => exact ihhead position
    | cons arg args =>
      refine text_app_congr (by simp) (ihhead .argument) ?_ position
      rw [List.map_map]
      exact List.map_congr_left fun arg harg => ihargs arg harg .argument
  | arrow arg result iharg ihresult =>
    have hleft : arg.shown.leftOfArrow = arg.leftOfArrow := by
      cases arg <;> rfl
    rw [shown]
    refine text_arrow_congr ?_ (ihresult .standalone) position
    rw [hleft, iharg]
  | tuple items ih =>
    rw [shown, shownAll_eq]
    refine text_tuple_congr ?_ position
    rw [List.map_map]
    exact List.map_congr_left fun item hitem => ih item hitem .standalone
  | record fields extension ih =>
    rw [shown, shownFields_eq]
    refine text_record_congr ?_ extension position
    rw [List.map_map]
    refine List.map_congr_left fun field hfield => ?_
    simp only [Function.comp_apply, shownField, fieldText, ih field hfield]

/-! ## Types that can be read -/

/-- What a type has to be like for its text to be read, leaving aside the types inside it. -/
def LegibleNode : TypeExpr → Prop
  | .var name => PlainName name
  | .con name => PlainName name
  | .app _ args => args ≠ []
  | .arrow _ _ => True
  | .tuple _ => True
  | .record fields extension =>
    (∀ field ∈ fields, PlainName field.1) ∧ ∀ row ∈ extension, PlainName row
  | .foreign _ => False

instance : DecidablePred LegibleNode
  | .var name => inferInstanceAs (Decidable (PlainName name))
  | .con name => inferInstanceAs (Decidable (PlainName name))
  | .app _ args => inferInstanceAs (Decidable (args ≠ []))
  | .arrow _ _ => .isTrue trivial
  | .tuple _ => .isTrue trivial
  | .record fields extension => inferInstanceAs (Decidable
      ((∀ field ∈ fields, PlainName field.1) ∧ ∀ row ∈ extension, PlainName row))
  | .foreign _ => .isFalse id

/-- All names are plain, no application lacks arguments, and nothing is foreign. -/
def Legible (t : TypeExpr) : Prop := t.Everywhere LegibleNode

instance (t : TypeExpr) : Decidable t.Legible :=
  inferInstanceAs (Decidable (∀ part ∈ t.parts, LegibleNode part))

theorem Legible.foreigns_eq {t : TypeExpr} (h : t.Legible) : t.foreigns = [] := by
  refine List.filterMap_eq_nil_iff.mpr fun part hpart => ?_
  have hnode := h part hpart
  cases part <;> first | rfl | exact absurd hnode id

/-- The text of a legible type begins like a word. -/
theorem Legible.startsWord {t : TypeExpr} (h : t.Legible) (position : Position)
    {rest : List Char} (hrest : Delimited rest) :
    TypeReader.startsWord ((t.text position).toList ++ rest) = true := by
  induction t generalizing position rest with
  | var name => exact startsWord_append h.self hrest
  | con name => exact startsWord_append h.self hrest
  | foreign value => exact absurd h.self id
  | app head args ih _ =>
    obtain ⟨hargs, hhead, -⟩ := everywhere_app.mp h
    obtain ⟨arg, args, rfl⟩ := List.exists_cons_of_ne_nil hargs
    cases position with
    | argument =>
      rw [toList_text_app_argument]
      rfl
    | standalone =>
      rw [toList_text_app, List.map_cons, List.map_cons, List.intercalate_cons_cons,
        List.append_assoc, List.append_assoc]
      exact ih hhead .argument (delimited_cons rfl _)
  | arrow arg result ih _ =>
    obtain ⟨-, harg, -⟩ := everywhere_arrow.mp h
    cases position with
    | argument =>
      rw [toList_text_arrow_argument]
      rfl
    | standalone =>
      rw [toList_text_arrow, List.append_assoc]
      exact ih harg _ (delimited_cons rfl _)
  | tuple items =>
    cases items with
    | nil =>
      rw [toList_text_unit]
      rfl
    | cons item items =>
      rw [toList_text_tuple]
      rfl
  | record fields extension =>
    rcases fields with _ | ⟨field, fields⟩ <;> rcases extension with _ | row
    · rw [toList_text_emptyRecord]
      rfl
    · rw [toList_text_row]
      rfl
    · rw [toList_text_record]
      rfl
    · rw [toList_text_extended]
      rfl

/-! ## What it means to be read -/

/-- The type ends here: its last name is over, and neither another word nor an arrow follows. -/
structure Ends (cs : List Char) : Prop where
  /-- no name goes on -/
  delimited : Delimited cs
  /-- no argument follows -/
  afterGap : afterGap cs = none
  /-- no arrow follows -/
  afterArrow : afterArrow cs = none

/-- As an argument the type is read as a word. -/
def ReadsWord (t : TypeExpr) : Prop :=
  ∀ fuel rest, (t.text .argument).length ≤ fuel → Delimited rest →
    readWord fuel ((t.text .argument).toList ++ rest) = some (t.shown, rest)

/-- To the left of an arrow the type is read as words. -/
def ReadsLeft (t : TypeExpr) : Prop :=
  ∀ fuel rest, (t.text t.leftOfArrow).length ≤ fuel → Delimited rest → afterGap rest = none →
    readWords (readWord fuel) (fuel + 1) ((t.text t.leftOfArrow).toList ++ rest) =
      some (t.shown, rest)

/-- On its own the type is read as a type. -/
def ReadsType (t : TypeExpr) : Prop :=
  ∀ fuel rest, (t.text .standalone).length < fuel → Ends rest →
    readType fuel ((t.text .standalone).toList ++ rest) = some (t.shown, rest)

/-- A single word is read as words. -/
theorem ReadsWord.readWords {t : TypeExpr} (h : ReadsWord t) {fuel : Nat} {rest : List Char}
    (hfuel : (t.text .argument).length ≤ fuel) (hrest : Delimited rest)
    (hgap : afterGap rest = none) :
    readWords (readWord fuel) (fuel + 1) ((t.text .argument).toList ++ rest) =
      some (t.shown, rest) := by
  rw [TypeReader.readWords, readMany, h fuel rest hfuel hrest]
  simp only [hgap]
  rfl

theorem ReadsWord.readsLeft {t : TypeExpr} (h : ReadsWord t)
    (htext : t.text t.leftOfArrow = t.text .argument) : ReadsLeft t := by
  intro fuel rest hfuel hrest hgap
  rw [htext] at hfuel ⊢
  exact h.readWords hfuel hrest hgap

/-- Words without an arrow behind them are a type. -/
theorem ReadsLeft.readsType {t : TypeExpr} (h : ReadsLeft t)
    (hleft : t.leftOfArrow = .standalone) : ReadsType t := by
  intro fuel rest hfuel hrest
  obtain ⟨fuel, rfl⟩ : ∃ n, fuel = n + 1 := ⟨fuel - 1, by omega⟩
  rw [ReadsLeft, hleft] at h
  rw [readType, h fuel rest (by omega) hrest.delimited hrest.afterGap]
  simp only [hrest.afterArrow]

/-- A type in parentheses is a word. -/
theorem ReadsType.readsWord {t : TypeExpr} (h : ReadsType t) (ht : t.Legible)
    (htext : (t.text .argument).toList = '(' :: ((t.text .standalone).toList ++ [')'])) :
    ReadsWord t := by
  intro fuel rest hfuel hrest
  have hclose : Delimited (')' :: rest) := delimited_cons rfl rest
  have hlen : (t.text .argument).length = (t.text .standalone).length + 2 := by
    rw [← String.length_toList, htext, ← String.length_toList]
    simp
  obtain ⟨fuel, rfl⟩ : ∃ n, fuel = n + 1 := ⟨fuel - 1, by omega⟩
  have hread := h fuel (')' :: rest) (by omega) ⟨hclose, rfl, rfl⟩
  -- behind the parenthesis a word begins, so this is neither the unit nor a tuple
  obtain ⟨c, tail, hcons, hblank, hparen, -⟩ :=
    exists_cons_of_startsWord (ht.startsWord .standalone hclose)
  rw [htext, List.cons_append, List.append_assoc, List.singleton_append, hcons,
    readWord_paren fuel tail hblank hparen, ← hcons, hread]
  rfl

/-! ## Every legible type is read -/

/-- A name is read as a word. -/
theorem readWord_plainName {name : String} (hname : PlainName name) {fuel : Nat}
    {rest : List Char} (hfuel : name.length ≤ fuel) (hrest : Delimited rest) :
    readWord fuel (name.toList ++ rest) = some (.con name, rest) := by
  have hne : name.toList ≠ [] := by simpa using hname.ne_empty
  have hlen : 0 < name.length := by
    rw [← String.length_toList]
    exact List.length_pos_iff.mpr hne
  obtain ⟨fuel, rfl⟩ : ∃ n, fuel = n + 1 := ⟨fuel - 1, by omega⟩
  obtain ⟨c, cs, hcs⟩ := List.exists_cons_of_ne_nil hne
  have hc : isNameChar c = true := hname.isNameChar c (by simp [hcs])
  have hread := readName_append hname hrest
  rw [hcs, List.cons_append] at hread ⊢
  rw [readWord_name fuel _ hc, hread, if_neg hname.ne_empty]

/-- What follows an item of a tuple or a record, a comma or a closing bracket, ends its type. -/
theorem ends_comma (rest : List Char) : Ends (',' :: ' ' :: rest) :=
  ⟨delimited_cons rfl _, rfl, rfl⟩

theorem ends_paren (rest : List Char) : Ends (' ' :: ')' :: rest) :=
  ⟨delimited_cons rfl _, rfl, rfl⟩

theorem ends_brace (rest : List Char) : Ends (' ' :: '}' :: rest) :=
  ⟨delimited_cons rfl _, rfl, rfl⟩

/-- The items of a tuple are read one by one. -/
theorem readMany_items {items : List TypeExpr} (hne : items ≠ [])
    (h : ∀ item ∈ items, ReadsType item) {fuel : Nat} (rest : List Char)
    (hfuel : ([',', ' '].intercalate
      (items.map fun t => (t.text .standalone).toList)).length < fuel) :
    readMany afterComma (readType fuel) (fuel + 1) ([',', ' '].intercalate
        (items.map fun t => (t.text .standalone).toList) ++ ' ' :: ')' :: rest) =
      some (items.map shown, ' ' :: ')' :: rest) := by
  refine readMany_intercalate (fuel - 1) (List.cons_ne_nil _ _) ends_comma hne ?_
    (fun _ _ _ _ => rfl) (by omega) (ends_paren rest) rfl (by omega)
  intro item hitem rest hsize hrest
  rw [String.length_toList] at hsize
  exact h item hitem fuel rest (by omega) hrest

/-- The fields of a record are read one by one. -/
theorem readMany_fields {fields : List (String × TypeExpr)} (hne : fields ≠ [])
    (hname : ∀ field ∈ fields, PlainName field.1) (h : ∀ field ∈ fields, ReadsType field.2)
    {fuel : Nat} (rest : List Char)
    (hfuel : ([',', ' '].intercalate
      (fields.map fun field => (fieldText field).toList)).length < fuel) :
    readMany afterComma (readField (readType fuel)) (fuel + 1) ([',', ' '].intercalate
        (fields.map fun field => (fieldText field).toList) ++ ' ' :: '}' :: rest) =
      some (fields.map shownField, ' ' :: '}' :: rest) := by
  refine readMany_intercalate (fuel - 1) (List.cons_ne_nil _ _) ends_comma hne ?_
    (fun _ _ _ _ => rfl) (by omega) (ends_brace rest) rfl (by omega)
  intro field hfield rest hsize hrest
  rw [toList_fieldText] at hsize ⊢
  simp only [List.length_append, List.length_cons, String.length_toList] at hsize
  rw [List.append_assoc, readField, List.cons_append,
    readName_append (hname field hfield) (delimited_cons rfl _)]
  simp only [List.cons_append, h field hfield fuel rest (by omega) hrest]
  rfl

/-- The head and the arguments of an application are read one by one. -/
theorem readMany_words {words : List TypeExpr} (hne : words ≠ [])
    (h : ∀ t ∈ words, t.Legible ∧ ReadsWord t) {fuel : Nat} {rest : List Char}
    (hfuel : ([' '].intercalate (words.map fun t => (t.text .argument).toList)).length ≤ fuel)
    (hrest : Delimited rest) (hgap : afterGap rest = none) :
    readMany afterGap (readWord fuel) (fuel + 1)
        ([' '].intercalate (words.map fun t => (t.text .argument).toList) ++ rest) =
      some (words.map shown, rest) := by
  refine readMany_intercalate fuel (List.cons_ne_nil _ _) (delimited_cons rfl) hne ?item ?next
    hfuel hrest hgap (by omega)
  case item =>
    intro t ht rest hsize hrest
    rw [String.length_toList] at hsize
    exact (h t ht).2 fuel rest hsize hrest
  case next =>
    intro t ht rest hrest
    rw [List.singleton_append, afterGap, (h t ht).1.startsWord .argument hrest, if_pos rfl]

/-! ### The shapes of a type -/

theorem readsWord_var {name : String} (h : (TypeExpr.var name).Legible) :
    ReadsWord (.var name) :=
  fun _ _ hfuel hrest => readWord_plainName h.self hfuel hrest

theorem readsWord_con {name : String} (h : (TypeExpr.con name).Legible) :
    ReadsWord (.con name) :=
  fun _ _ hfuel hrest => readWord_plainName h.self hfuel hrest

theorem readsLeft_app {head arg : TypeExpr} {args : List TypeExpr}
    (h : ∀ t ∈ head :: arg :: args, t.Legible ∧ ReadsWord t) :
    ReadsLeft (.app head (arg :: args)) := by
  intro fuel rest hfuel hrest hgap
  rw [← String.length_toList] at hfuel
  simp only [leftOfArrow, toList_text_app] at hfuel ⊢
  rw [readWords, readMany_words (List.cons_ne_nil _ _) h hfuel hrest hgap]
  simp only [List.map_cons, applied, shown, shownAll_eq]

theorem readsType_arrow {arg result : TypeExpr} (harg : ReadsLeft arg)
    (hresult : ReadsType result) : ReadsType (.arrow arg result) := by
  intro fuel rest hfuel hrest
  obtain ⟨fuel, rfl⟩ : ∃ n, fuel = n + 1 := ⟨fuel - 1, by omega⟩
  rw [← String.length_toList] at hfuel
  rw [toList_text_arrow] at hfuel ⊢
  simp only [List.length_append, List.length_cons, String.length_toList] at hfuel
  rw [List.append_assoc, List.cons_append, readType,
    harg fuel _ (by omega) (delimited_cons rfl _) rfl]
  simp only [List.cons_append, afterArrow, hresult fuel rest (by omega) hrest, shown]

theorem readsWord_tuple {items : List TypeExpr} (h : ∀ item ∈ items, ReadsType item) :
    ReadsWord (.tuple items) := by
  intro fuel rest hfuel _
  rw [← String.length_toList] at hfuel
  cases items with
  | nil =>
    rw [toList_text_unit] at hfuel ⊢
    simp only [List.length_cons] at hfuel
    obtain ⟨fuel, rfl⟩ : ∃ n, fuel = n + 1 := ⟨fuel - 1, by omega⟩
    rfl
  | cons item items =>
    rw [toList_text_tuple] at hfuel ⊢
    simp only [List.length_cons, List.length_append] at hfuel
    obtain ⟨fuel, rfl⟩ : ∃ n, fuel = n + 1 := ⟨fuel - 1, by omega⟩
    have hread := readMany_items (List.cons_ne_nil item items) h rest (by omega : _ < fuel)
    rw [List.cons_append, List.cons_append, List.append_assoc, readWord, List.cons_append,
      List.cons_append, List.nil_append, hread]
    simp only [shown, shownAll_eq]

/-- Behind the brace and the row variable, if there is one, the rest of a record is read. -/
theorem readFields_append {fields : List (String × TypeExpr)} (hne : fields ≠ [])
    (hname : ∀ field ∈ fields, PlainName field.1) (h : ∀ field ∈ fields, ReadsType field.2)
    {fuel : Nat} (extension : Option String) (rest : List Char)
    (hfuel : ([',', ' '].intercalate
      (fields.map fun field => (fieldText field).toList)).length < fuel) :
    readFields (readType fuel) (fuel + 1) extension ([',', ' '].intercalate
        (fields.map fun field => (fieldText field).toList) ++ ' ' :: '}' :: rest) =
      some (shown (.record fields extension), rest) := by
  rw [readFields, readMany_fields hne hname h rest hfuel]
  simp only [shown, shownFields_eq]

/-- A record without a row variable begins with the name of its first field, and the colon behind
that tells that it is one. -/
theorem readName_fields {field : String × TypeExpr} (hname : PlainName field.1)
    (fields : List (String × TypeExpr)) (rest : List Char) :
    ∃ tail, readName ([',', ' '].intercalate ((field :: fields).map fun f => (fieldText f).toList) ++
      ' ' :: '}' :: rest) = (field.1, ' ' :: ':' :: ' ' :: tail) := by
  obtain ⟨tail, -, htail⟩ := intercalate_cons_append [',', ' '] (fun f => (fieldText f).toList)
    ends_comma field fields (ends_brace rest)
  rw [htail, toList_fieldText, List.append_assoc, List.cons_append,
    readName_append hname (delimited_cons rfl _)]
  exact ⟨_, rfl⟩

theorem readsWord_record {fields : List (String × TypeExpr)} {extension : Option String}
    (hnode : LegibleNode (.record fields extension))
    (h : ∀ field ∈ fields, ReadsType field.2) : ReadsWord (.record fields extension) := by
  intro fuel rest hfuel _
  obtain ⟨hname, hrow⟩ := hnode
  rw [← String.length_toList] at hfuel
  rcases fields with _ | ⟨field, fields⟩ <;> rcases extension with _ | row
  · rw [toList_text_emptyRecord] at hfuel ⊢
    simp only [List.length_cons] at hfuel
    obtain ⟨fuel, rfl⟩ : ∃ n, fuel = n + 1 := ⟨fuel - 1, by omega⟩
    rfl
  · rw [toList_text_row] at hfuel ⊢
    simp only [List.length_cons] at hfuel
    obtain ⟨fuel, rfl⟩ : ∃ n, fuel = n + 1 := ⟨fuel - 1, by omega⟩
    rw [List.cons_append, List.cons_append, List.append_assoc, readWord, readRecord,
      List.cons_append, readName_append (hrow row rfl) (delimited_cons rfl _)]
    rfl
  · rw [toList_text_record] at hfuel ⊢
    simp only [List.length_cons, List.length_append] at hfuel
    obtain ⟨fuel, rfl⟩ : ∃ n, fuel = n + 1 := ⟨fuel - 1, by omega⟩
    have hread := readFields_append (List.cons_ne_nil field fields) hname h none rest
      (by omega : _ < fuel)
    obtain ⟨tail, htail⟩ := readName_fields (hname field List.mem_cons_self) fields rest
    rw [List.cons_append, List.cons_append, List.append_assoc, readWord, readRecord,
      List.cons_append, List.cons_append, List.nil_append, htail]
    exact hread
  · rw [toList_text_extended] at hfuel ⊢
    simp only [List.length_cons, List.length_append] at hfuel
    obtain ⟨fuel, rfl⟩ : ∃ n, fuel = n + 1 := ⟨fuel - 1, by omega⟩
    have hread := readFields_append (List.cons_ne_nil field fields) hname h (some row) rest
      (by omega : _ < fuel)
    rw [List.cons_append, List.cons_append, List.append_assoc, readWord, readRecord,
      List.cons_append, readName_append (hrow row rfl) (delimited_cons rfl _)]
    rw [List.cons_append, List.cons_append, List.append_assoc, List.cons_append,
      List.cons_append, List.nil_append]
    exact hread

/-- Every legible type is read, wherever it stands. -/
theorem Legible.reads {t : TypeExpr} (h : t.Legible) :
    ReadsWord t ∧ ReadsLeft t ∧ ReadsType t := by
  induction t with
  | var name =>
    have hword := readsWord_var h
    have hleft := hword.readsLeft rfl
    exact ⟨hword, hleft, hleft.readsType rfl⟩
  | con name =>
    have hword := readsWord_con h
    have hleft := hword.readsLeft rfl
    exact ⟨hword, hleft, hleft.readsType rfl⟩
  | app head args ihhead ihargs =>
    -- words to the left of an arrow, hence a type, hence a word once it is in parentheses
    obtain ⟨hargs, hhead, hall⟩ := everywhere_app.mp h
    obtain ⟨arg, args, rfl⟩ := List.exists_cons_of_ne_nil hargs
    have hwords : ∀ t ∈ head :: arg :: args, t.Legible ∧ ReadsWord t :=
      List.forall_mem_cons.mpr ⟨⟨hhead, (ihhead hhead).1⟩,
        fun t ht => ⟨hall t ht, (ihargs t ht (hall t ht)).1⟩⟩
    have hleft := readsLeft_app hwords
    have htype := hleft.readsType rfl
    exact ⟨htype.readsWord h (toList_text_app_argument head arg args), hleft, htype⟩
  | arrow arg result iharg ihresult =>
    obtain ⟨-, harg, hresult⟩ := everywhere_arrow.mp h
    have htype := readsType_arrow (iharg harg).2.1 (ihresult hresult).2.2
    have hword := htype.readsWord h (toList_text_arrow_argument arg result)
    exact ⟨hword, hword.readsLeft rfl, htype⟩
  | tuple items ih =>
    obtain ⟨-, hitems⟩ := everywhere_tuple.mp h
    have hword := readsWord_tuple fun item hitem => (ih item hitem (hitems item hitem)).2.2
    have hleft := hword.readsLeft rfl
    exact ⟨hword, hleft, hleft.readsType rfl⟩
  | record fields extension ih =>
    obtain ⟨hnode, hfields⟩ := everywhere_record.mp h
    have hword := readsWord_record hnode fun field hfield =>
      (ih field hfield (hfields field hfield)).2.2
    have hleft := hword.readsLeft rfl
    exact ⟨hword, hleft, hleft.readsType rfl⟩
  | foreign value => exact absurd h.self id

/-! ## Unambiguity -/

/-- The text of a legible type is read as that type, at either position. -/
theorem Legible.read_text {t : TypeExpr} (h : t.Legible) (position : Position) :
    read (t.text position) = some t.shown := by
  have hends : Ends [] := ⟨fun _ hc => absurd hc (by simp), rfl, rfl⟩
  obtain ⟨hword, -, htype⟩ := h.reads
  cases position with
  | standalone =>
    have hread := htype ((t.text .standalone).length + 1) [] (by omega) hends
    rw [List.append_nil] at hread
    rw [read, hread]
  | argument =>
    have hread := hword.readWords (Nat.le_refl _) hends.delimited hends.afterGap
    rw [List.append_nil] at hread
    rw [read, readType, hread]
    rfl

/-- **Unambiguity**: the text of a legible type is read as that type, and two legible types have the
same text only if they are the same but for variables that stand where the other has a type of that
name. -/
theorem print_unambiguous {t u : TypeExpr} (ht : t.Legible) (hu : u.Legible)
    (position : Position) :
    (∃ text, t.print position = .ok text ∧ read text = some t.shown) ∧
      (t.print position = u.print position ↔ t.shown = u.shown) := by
  have hprint := print_eq_ok ht.foreigns_eq position
  have hread := ht.read_text position
  refine ⟨⟨t.text position, hprint, hread⟩, ?_, ?_⟩
  · intro h
    rw [hprint, print_eq_ok hu.foreigns_eq position] at h
    have htext : t.text position = u.text position := Except.ok.inj h
    rw [htext, hu.read_text position] at hread
    exact (Option.some.inj hread).symm
  · intro h
    rw [hprint, print_eq_ok hu.foreigns_eq position, ← text_shown position t, h, text_shown]

/-- Two types with the same text: brackets of all sorts inside each other, and names that the text
does not show to be those of variables. -/
theorem print_unambiguous_nested :
    let left := TypeExpr.arrow
      (.arrow (.tuple [.var "a"]) (.app (.app (.con "F") [.var "a"]) [.tuple []]))
      (.record [("x", .arrow (.var "a") (.con "Int")), ("y", .record [] none)] (some "r"))
    let right := TypeExpr.arrow
      (.arrow (.tuple [.con "a"]) (.app (.app (.var "F") [.con "a"]) [.tuple []]))
      (.record [("x", .arrow (.con "a") (.var "Int")), ("y", .record [] none)] (some "r"))
    left.Legible ∧ right.Legible ∧ left.print .argument = right.print .argument ∧
      left.shown = right.shown := by
  intro left right
  have hleft : left.Legible := by decide
  have hright : right.Legible := by decide
  have hprint : left.print .argument = right.print .argument := rfl
  exact ⟨hleft, hright, hprint, (print_unambiguous hleft hright .argument).2.mp hprint⟩

end TypeExpr

end SyntaxReports
