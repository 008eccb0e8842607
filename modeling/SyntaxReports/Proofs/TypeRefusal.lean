import SyntaxReports.Proofs.TypeText

/-!
# Refused types: the leftmost foreign value

A foreign value may stand in the place of a type anywhere: as the head of an application or one of its
arguments, on either side of an arrow, among the items of a tuple or the fields of a record, at any
depth, and as the type that is to be printed itself. `TypeExpr.print_refused` says that each of these
is a reason to refuse a type, that there are no others, and that of several foreign values the
leftmost is named.

A place inside a type is given by the way down to it (`TypeExpr.partAt?`): the numbers of the children
that it goes through. Of two places, the one where the way parts to an earlier child is to the left of
the other (`TypeExpr.LeftOf`).
-/

namespace SyntaxReports.TypeExpr

/-! ## Places -/

/-- The types right inside a type, from left to right. -/
def children : TypeExpr → List TypeExpr
  | .app head args => head :: args
  | .arrow arg result => [arg, result]
  | .tuple items => items
  | .record fields _ => fields.map Prod.snd
  | _ => []

/-- What stands at a place inside a type, if there is such a place. -/
def partAt? : List Nat → TypeExpr → Option TypeExpr
  | [], t => some t
  | i :: path, t => t.children[i]?.bind (partAt? path)

/-- The one place is to the left of the other: where they part, it goes to an earlier child. -/
def LeftOf : List Nat → List Nat → Prop
  | i :: path, j :: path' => i < j ∨ i = j ∧ LeftOf path path'
  | _, _ => False

/-- The value stands in the type in the place of a type, and everything else that is foreign stands to
the right of it. -/
structure IsLeftmost (t : TypeExpr) (path : List Nat) (value : Foreign) : Prop where
  /-- the value is found there -/
  found : t.partAt? path = some (.foreign value)
  /-- and nothing foreign is found to the left -/
  leftOf : ∀ path' value', t.partAt? path' = some (.foreign value') →
    path' = path ∨ LeftOf path path'

theorem LeftOf.asymm {path path' : List Nat} (h : LeftOf path path') : ¬ LeftOf path' path := by
  induction path generalizing path' with
  | nil => cases h
  | cons i path ih =>
    cases path' with
    | nil => cases h
    | cons j path' =>
      intro hback
      rcases h with hlt | ⟨rfl, hleft⟩
      · rcases hback with hgt | ⟨rfl, -⟩
        · exact Nat.lt_asymm hlt hgt
        · exact Nat.lt_irrefl _ hlt
      · rcases hback with hlt | ⟨-, hright⟩
        · exact Nat.lt_irrefl _ hlt
        · exact ih hleft hright

/-- There is only one leftmost value. -/
theorem IsLeftmost.unique {t : TypeExpr} {path path' : List Nat} {value value' : Foreign}
    (h : t.IsLeftmost path value) (h' : t.IsLeftmost path' value') : value = value' := by
  have hpath : path' = path := by
    rcases h.leftOf path' value' h'.found with heq | hleft
    · exact heq
    · rcases h'.leftOf path value h.found with heq | hright
      · exact heq.symm
      · exact absurd hright hleft.asymm
  have hfound := h'.found
  rw [hpath, h.found] at hfound
  injection hfound with hfound
  injection hfound

/-- Induction over types, from the children to the type. -/
theorem induct_children {motive : TypeExpr → Prop}
    (h : ∀ t : TypeExpr, (∀ child ∈ t.children, motive child) → motive t) (t : TypeExpr) :
    motive t := by
  induction t with
  | var name => exact h _ (List.forall_mem_nil _)
  | con name => exact h _ (List.forall_mem_nil _)
  | foreign value => exact h _ (List.forall_mem_nil _)
  | app head args ihhead ihargs => exact h _ (List.forall_mem_cons.mpr ⟨ihhead, ihargs⟩)
  | arrow arg result iharg ihresult =>
    exact h _ (List.forall_mem_cons.mpr ⟨iharg, List.forall_mem_singleton.mpr ihresult⟩)
  | tuple items ih => exact h _ ih
  | record fields extension ih => exact h _ (List.forall_mem_map.mpr ih)

/-! ## The foreign values, by their places -/

/-- A type that is not foreign itself has the foreign values of its children, from left to right. -/
theorem foreigns_eq (t : TypeExpr) :
    t.foreigns = t.foreign?.toList ++ t.children.flatMap foreigns := by
  cases t with
  | record fields extension =>
    rw [foreigns_record, children, List.flatMap_map]
    rfl
  | _ => simp [foreign?, children]

theorem mem_foreigns_of_partAt {path : List Nat} {t : TypeExpr} {value : Foreign}
    (h : t.partAt? path = some (.foreign value)) : value ∈ t.foreigns := by
  induction path generalizing t with
  | nil =>
    obtain rfl := Option.some.inj h
    exact List.mem_singleton_self value
  | cons i path ih =>
    obtain ⟨child, hchild, hpart⟩ := Option.bind_eq_some_iff.mp h
    rw [foreigns_eq]
    refine List.mem_append_right _ (List.mem_flatMap.mpr ⟨child, ?_, ih hpart⟩)
    exact List.mem_of_getElem? hchild

/-- In a value that is foreign itself, there is nothing else. -/
theorem isLeftmost_foreign (value : Foreign) : (TypeExpr.foreign value).IsLeftmost [] value := by
  refine ⟨rfl, fun path' value' hfound => ?_⟩
  cases path' with
  | nil => exact .inl rfl
  | cons j path' => cases hfound

/-- The leftmost value of the first child that has any is the leftmost of the type. -/
theorem IsLeftmost.of_child {t child : TypeExpr} {before after : List TypeExpr} {path : List Nat}
    {value : Foreign} (ht : t.foreign? = none) (hchildren : t.children = before ++ child :: after)
    (hbefore : ∀ c ∈ before, c.foreigns = []) (h : child.IsLeftmost path value) :
    t.IsLeftmost (before.length :: path) value := by
  have hchild : t.children[before.length]? = some child := by
    rw [hchildren, List.getElem?_append_right (Nat.le_refl _), Nat.sub_self,
      List.getElem?_cons_zero]
  refine ⟨?_, fun path' value' hfound => ?_⟩
  · rw [partAt?, hchild, Option.bind_some, h.found]
  cases path' with
  | nil =>
    obtain rfl := Option.some.inj hfound
    cases ht
  | cons j path' =>
    obtain ⟨other, hother, hpart⟩ := Option.bind_eq_some_iff.mp hfound
    rcases Nat.lt_trichotomy j before.length with hj | rfl | hj
    · -- the children before have nothing foreign in them
      rw [hchildren, List.getElem?_append_left hj] at hother
      have hmem := mem_foreigns_of_partAt hpart
      rw [hbefore other (List.mem_of_getElem? hother)] at hmem
      cases hmem
    · obtain rfl := Option.some.inj (hchild.symm.trans hother)
      rcases h.leftOf path' value' hpart with rfl | hleft
      · exact .inl rfl
      · exact .inr (.inr ⟨rfl, hleft⟩)
    · exact .inr (.inl hj)

theorem foreign?_eq_none {t : TypeExpr} (h : ∀ own, t ≠ .foreign own) : t.foreign? = none := by
  cases t with
  | foreign own => exact absurd rfl (h own)
  | _ => rfl

/-- The first foreign value of a type is that of the first child that has any. -/
theorem exists_first_child {t : TypeExpr} {value : Foreign} {values : List Foreign}
    (ht : t.foreign? = none) (h : t.foreigns = value :: values) :
    ∃ before child after others, t.children = before ++ child :: after ∧
      (∀ c ∈ before, c.foreigns = []) ∧ child.foreigns = value :: others := by
  rw [foreigns_eq, ht, Option.toList_none, List.nil_append, List.flatMap_def] at h
  obtain ⟨empties, others, _, hsplit, hempties, -⟩ := List.flatten_eq_cons_iff.mp h
  obtain ⟨before, rest, hchildren, rfl, hrest⟩ := List.map_eq_append_iff.mp hsplit
  obtain ⟨child, after, rfl, hchild, -⟩ := List.map_eq_cons_iff.mp hrest
  exact ⟨before, child, after, others, hchildren,
    fun c hc => hempties _ (List.mem_map_of_mem hc), hchild⟩

/-- The first of the foreign values is the leftmost one. -/
theorem exists_isLeftmost {t : TypeExpr} {value : Foreign} {values : List Foreign}
    (h : t.foreigns = value :: values) : ∃ path, t.IsLeftmost path value := by
  induction t using induct_children generalizing value values with
  | h t ih =>
    by_cases ht : ∃ own, t = .foreign own
    · obtain ⟨own, rfl⟩ := ht
      obtain ⟨rfl, -⟩ := List.cons.inj h
      exact ⟨[], isLeftmost_foreign own⟩
    · have hnone : t.foreign? = none := foreign?_eq_none fun own hown => ht ⟨own, hown⟩
      obtain ⟨before, child, after, others, hchildren, hbefore, hchild⟩ := exists_first_child hnone h
      have hmem : child ∈ t.children := by
        rw [hchildren]
        exact List.mem_append_right _ List.mem_cons_self
      obtain ⟨path, hleftmost⟩ := ih child hmem hchild
      exact ⟨_, hleftmost.of_child hnone hchildren hbefore⟩

/-- There is nothing foreign in a type if none of its places has anything foreign. -/
theorem foreigns_eq_nil_iff {t : TypeExpr} :
    t.foreigns = [] ↔ ∀ path value, t.partAt? path ≠ some (.foreign value) := by
  constructor
  · intro h path value hfound
    have hmem := mem_foreigns_of_partAt hfound
    rw [h] at hmem
    cases hmem
  · intro h
    cases hforeigns : t.foreigns with
    | nil => rfl
    | cons value values =>
      obtain ⟨path, hleftmost⟩ := exists_isLeftmost hforeigns
      exact absurd hleftmost.found (h path value)

/-! ## Printing -/

theorem print_eq_error_iff {position : Position} {t : TypeExpr} {fault : Fault} :
    t.print position = .error fault ↔
      ∃ path value, t.IsLeftmost path value ∧ fault = value.fault := by
  rw [print_eq]
  constructor
  · intro h
    cases hforeigns : t.foreigns with
    | nil =>
      rw [hforeigns] at h
      cases h
    | cons value values =>
      rw [hforeigns] at h
      obtain ⟨path, hleftmost⟩ := exists_isLeftmost hforeigns
      exact ⟨path, value, hleftmost, (Except.error.inj h).symm⟩
  · rintro ⟨path, value, hleftmost, rfl⟩
    cases hforeigns : t.foreigns with
    | nil => exact absurd hleftmost.found (foreigns_eq_nil_iff.mp hforeigns path value)
    | cons first values =>
      obtain ⟨path', hfirst⟩ := exists_isLeftmost hforeigns
      rw [hleftmost.unique hfirst]
      rfl

theorem exists_print_eq_ok_iff {position : Position} {t : TypeExpr} :
    (∃ text, t.print position = .ok text) ↔
      ∀ path value, t.partAt? path ≠ some (.foreign value) := by
  rw [← foreigns_eq_nil_iff, print_eq]
  cases t.foreigns with
  | nil => exact iff_of_true ⟨_, rfl⟩ rfl
  | cons value values => exact iff_of_false nofun (List.cons_ne_nil _ _)

/-- An application without arguments is looked into, and an argument before the result. -/
example :
    let t := TypeExpr.arrow (.app (.tuple [.var "a", .foreign (.int 1)]) []) (.foreign .null)
    t.print .argument = .error (.unrecognized (.int 1)) ∧
      t.partAt? [0, 0, 1] = some (.foreign (.int 1)) ∧ t.partAt? [1] = some (.foreign .null) :=
  ⟨rfl, rfl, rfl⟩

end SyntaxReports.TypeExpr
