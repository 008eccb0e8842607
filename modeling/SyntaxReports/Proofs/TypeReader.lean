import SyntaxReports.Proofs.TypeText

/-!
# Reading types: the text of a type tells which it is

`TypeExpr.read` takes the text of a type apart again. What it finds is the type as far as a text can
show it (`TypeExpr.shown`): a variable and a constant of one name look the same.

The reader works on characters. `readWord` reads what can be the head or an argument of an
application, `readType` a whole type, and `readMany` anything that is repeated with something in
between. Where a word ends can be seen from the next character (`Delimited`); a type ends where
neither another word nor an arrow follows (`Ends`).

Not every type can be read back. `TypeExpr.Legible` says of which names it consists, and leaves out
applications without arguments, which look like their heads.
-/

namespace SyntaxReports

/-! ## The reader -/

namespace TypeReader

/-- Whether a character may stand in a name: it is none of those that structure a text. -/
def isNameChar (c : Char) : Bool :=
  !([' ', '(', ')', '{', '}', ','].contains c)

/-- The longest name that the characters begin with, and what follows it. -/
def readName (cs : List Char) : String × List Char :=
  (String.ofList (cs.takeWhile isNameChar), cs.dropWhile isNameChar)

/-- Whether a word begins here. An arrow is none. -/
def startsWord : List Char → Bool
  | [] => false
  | c :: cs => c = '(' || c = '{' || isNameChar c && (c :: cs).takeWhile isNameChar != ['-', '>']

/-- What follows the blank before another word. -/
def afterGap : List Char → Option (List Char)
  | ' ' :: cs => if startsWord cs then some cs else none
  | _ => none

/-- What follows an arrow. -/
def afterArrow : List Char → Option (List Char)
  | ' ' :: '-' :: '>' :: ' ' :: cs => some cs
  | _ => none

/-- What follows a comma. -/
def afterComma : List Char → Option (List Char)
  | ',' :: ' ' :: cs => some cs
  | _ => none

/-- One item or more, with a separator between each two. -/
def readMany {α : Type} (next : List Char → Option (List Char))
    (item : List Char → Option (α × List Char)) : Nat → List Char → Option (List α × List Char)
  | 0, _ => none
  | fuel + 1, cs =>
    match item cs with
    | none => none
    | some (x, cs) =>
      match next cs with
      | none => some ([x], cs)
      | some cs =>
        match readMany next item fuel cs with
        | none => none
        | some (xs, cs) => some (x :: xs, cs)

/-- The type that several words are: a single one stands for itself. -/
def applied (head : TypeExpr) : List TypeExpr → TypeExpr
  | [] => head
  | arg :: args => .app head (arg :: args)

/-- Words as far as they go, as one type. -/
def readWords (word : List Char → Option (TypeExpr × List Char)) (fuel : Nat) (cs : List Char) :
    Option (TypeExpr × List Char) :=
  match readMany afterGap word fuel cs with
  | some (head :: args, cs) => some (applied head args, cs)
  | _ => none

/-- A field: its name, and behind a colon its type. -/
def readField (type : List Char → Option (TypeExpr × List Char)) (cs : List Char) :
    Option ((String × TypeExpr) × List Char) :=
  match readName cs with
  | (name, ' ' :: ':' :: ' ' :: cs) =>
    match type cs with
    | none => none
    | some (t, cs) => some ((name, t), cs)
  | _ => none

/-- The fields of a record, to its closing brace. -/
def readFields (type : List Char → Option (TypeExpr × List Char)) (fuel : Nat)
    (extension : Option String) (cs : List Char) : Option (TypeExpr × List Char) :=
  match readMany afterComma (readField type) fuel cs with
  | some (fields, ' ' :: '}' :: cs) => some (.record fields extension, cs)
  | _ => none

/-- A record behind its opening brace. The mark after the first name tells what the name is: a row
variable alone, a row variable with fields, or the name of the first field. -/
def readRecord (type : List Char → Option (TypeExpr × List Char)) (fuel : Nat) (cs : List Char) :
    Option (TypeExpr × List Char) :=
  match readName cs with
  | (name, ' ' :: '}' :: cs) => some (.record [] (some name), cs)
  | (name, ' ' :: '|' :: ' ' :: cs) => readFields type fuel (some name) cs
  | _ => readFields type fuel none cs

mutual

/-- A word: a name, or anything in brackets. -/
def readWord : Nat → List Char → Option (TypeExpr × List Char)
  | 0, _ => none
  | _ + 1, '(' :: ')' :: cs => some (.tuple [], cs)
  | fuel + 1, '(' :: ' ' :: cs =>
    match readMany afterComma (readType fuel) (fuel + 1) cs with
    | some (items, ' ' :: ')' :: cs) => some (.tuple items, cs)
    | _ => none
  | fuel + 1, '(' :: cs =>
    match readType fuel cs with
    | some (t, ')' :: cs) => some (t, cs)
    | _ => none
  | _ + 1, '{' :: '}' :: cs => some (.record [] none, cs)
  | fuel + 1, '{' :: ' ' :: cs => readRecord (readType fuel) (fuel + 1) cs
  | _ + 1, cs => if (readName cs).1 = "" then none else some (.con (readName cs).1, (readName cs).2)

/-- A type: words, and if an arrow follows, the type behind it. -/
def readType : Nat → List Char → Option (TypeExpr × List Char)
  | 0, _ => none
  | fuel + 1, cs =>
    match readWords (readWord fuel) (fuel + 1) cs with
    | none => none
    | some (left, cs) =>
      match afterArrow cs with
      | none => some (left, cs)
      | some cs =>
        match readType fuel cs with
        | none => none
        | some (right, cs) => some (.arrow left right, cs)

end

/-- Behind an opening parenthesis, anything but a blank or a closing one begins a type. -/
theorem readWord_paren (fuel : Nat) {c : Char} (cs : List Char) (hblank : c ≠ ' ')
    (hclose : c ≠ ')') :
    readWord (fuel + 1) ('(' :: c :: cs) =
      match readType fuel (c :: cs) with
      | some (t, ')' :: cs) => some (t, cs)
      | _ => none := by
  rw [readWord]
  · intro cs' heq
    exact hclose (List.cons.inj heq).1
  · intro cs' heq
    exact hblank (List.cons.inj heq).1

/-- What begins with a character of names is a name. -/
theorem readWord_name (fuel : Nat) {c : Char} (cs : List Char) (hc : isNameChar c = true) :
    readWord (fuel + 1) (c :: cs) =
      if (readName (c :: cs)).1 = "" then none
      else some (.con (readName (c :: cs)).1, (readName (c :: cs)).2) := by
  have hparen : c ≠ '(' := by
    rintro rfl
    exact absurd hc (by decide)
  have hbrace : c ≠ '{' := by
    rintro rfl
    exact absurd hc (by decide)
  rw [readWord]
  all_goals
    intros
    simp_all

/-! ## Names -/

/-- A name that can be told from what is around it. -/
structure PlainName (name : String) : Prop where
  /-- there is something of it -/
  ne_empty : name ≠ ""
  /-- nothing in it structures a text -/
  isNameChar : ∀ c ∈ name.toList, isNameChar c = true
  /-- it is no mark of its own -/
  ne_mark : name ≠ "->" ∧ name ≠ ":" ∧ name ≠ "|"

instance (name : String) : Decidable (PlainName name) :=
  decidable_of_iff
    (name ≠ "" ∧ name.toList.all TypeReader.isNameChar = true ∧
      name ≠ "->" ∧ name ≠ ":" ∧ name ≠ "|")
    ⟨fun ⟨h₁, h₂, h₃⟩ => ⟨h₁, List.all_eq_true.mp h₂, h₃⟩,
      fun ⟨h₁, h₂, h₃⟩ => ⟨h₁, List.all_eq_true.mpr h₂, h₃⟩⟩

/-- No name goes on here. -/
def Delimited (cs : List Char) : Prop := ∀ c ∈ cs.head?, isNameChar c = false

theorem delimited_cons {c : Char} (h : isNameChar c = false) (cs : List Char) :
    Delimited (c :: cs) := by
  intro d hd
  obtain rfl : c = d := by simpa using hd
  exact h

theorem takeWhile_append {name rest : List Char} (hname : ∀ c ∈ name, isNameChar c = true)
    (hrest : Delimited rest) : (name ++ rest).takeWhile isNameChar = name := by
  rw [List.takeWhile_append_of_pos hname]
  cases rest with
  | nil => simp
  | cons c rest =>
    have hc : isNameChar c = false := hrest c rfl
    simp [hc]

theorem dropWhile_append {name rest : List Char} (hname : ∀ c ∈ name, isNameChar c = true)
    (hrest : Delimited rest) : (name ++ rest).dropWhile isNameChar = rest := by
  rw [List.dropWhile_append_of_pos hname]
  cases rest with
  | nil => rfl
  | cons c rest =>
    have hc : isNameChar c = false := hrest c rfl
    simp [hc]

/-- A name is read as far as it goes. -/
theorem readName_append {name : String} {rest : List Char} (hname : PlainName name)
    (hrest : Delimited rest) : readName (name.toList ++ rest) = (name, rest) := by
  rw [readName, takeWhile_append hname.isNameChar hrest, dropWhile_append hname.isNameChar hrest,
    String.ofList_toList]

/-- A name is a word. -/
theorem startsWord_append {name : String} {rest : List Char} (hname : PlainName name)
    (hrest : Delimited rest) : startsWord (name.toList ++ rest) = true := by
  have htake := takeWhile_append hname.isNameChar hrest
  have hne : name.toList ≠ [] := by simpa using hname.ne_empty
  obtain ⟨c, cs, hcs⟩ := List.exists_cons_of_ne_nil hne
  have hc : isNameChar c = true := hname.isNameChar c (by simp [hcs])
  have hmark : name.toList ≠ ['-', '>'] := fun h => hname.ne_mark.1 (String.toList_inj.mp h)
  rw [hcs] at htake hmark
  rw [hcs, List.cons_append, startsWord, ← List.cons_append, htake]
  simp [hc, hmark]

/-- A word does not begin with a blank or a closing bracket. -/
theorem exists_cons_of_startsWord {cs : List Char} (h : startsWord cs = true) :
    ∃ c tail, cs = c :: tail ∧ c ≠ ' ' ∧ c ≠ ')' ∧ c ≠ '}' := by
  cases cs with
  | nil => simp [startsWord] at h
  | cons c tail =>
    refine ⟨c, tail, rfl, ?_, ?_, ?_⟩ <;>
    · rintro rfl
      simp [startsWord, isNameChar] at h

/-! ## Repetitions -/

/-- What a joined list begins with: its first item, and then something that may follow an item. -/
theorem intercalate_cons_append {α : Type} (sep : List Char) (write : α → List Char)
    {After : List Char → Prop} (hafter : ∀ rest, After (sep ++ rest)) (x : α) (xs : List α)
    {rest : List Char} (hrest : After rest) :
    ∃ tail, After tail ∧ sep.intercalate ((x :: xs).map write) ++ rest = write x ++ tail := by
  cases xs with
  | nil => exact ⟨rest, hrest, by simp⟩
  | cons y ys =>
    refine ⟨sep ++ (sep.intercalate ((y :: ys).map write) ++ rest), hafter _, ?_⟩
    simp only [List.map_cons, List.intercalate_cons_cons, List.append_assoc]

/-- What is joined by a separator is read item by item, if each item is read where the separator or
the end follows it. `After` says of what follows an item that it does not belong to it; `size` is
how long an item may be, which bounds the fuel that reading one takes. -/
theorem readMany_intercalate {α β : Type} {next : List Char → Option (List Char)}
    {item : List Char → Option (β × List Char)} {sep : List Char} {write : α → List Char}
    {value : α → β} {After : List Char → Prop} (size : Nat) (hsep : sep ≠ [])
    (hafter : ∀ rest, After (sep ++ rest)) {xs : List α} (hxs : xs ≠ [])
    (hitem : ∀ x ∈ xs, ∀ rest, (write x).length ≤ size → After rest →
      item (write x ++ rest) = some (value x, rest))
    (hnext : ∀ x ∈ xs, ∀ rest, After rest →
      next (sep ++ (write x ++ rest)) = some (write x ++ rest))
    (hsize : (sep.intercalate (xs.map write)).length ≤ size)
    {rest : List Char} (hrest : After rest) (hend : next rest = none)
    {fuel : Nat} (hfuel : (sep.intercalate (xs.map write)).length < fuel) :
    readMany next item fuel (sep.intercalate (xs.map write) ++ rest) =
      some (xs.map value, rest) := by
  induction xs generalizing fuel with
  | nil => exact absurd rfl hxs
  | cons x xs ih =>
    obtain ⟨fuel, rfl⟩ : ∃ n, fuel = n + 1 := ⟨fuel - 1, by omega⟩
    obtain ⟨hx, hitem⟩ := List.forall_mem_cons.mp hitem
    obtain ⟨-, hnext⟩ := List.forall_mem_cons.mp hnext
    cases xs with
    | nil =>
      simp only [List.map_cons, List.map_nil, List.intercalate_singleton] at hsize ⊢
      rw [readMany, hx rest hsize hrest]
      simp only [hend]
    | cons y ys =>
      have hlen : 0 < sep.length := List.length_pos_iff.mpr hsep
      obtain ⟨tail, htail, heq⟩ := intercalate_cons_append sep write hafter y ys hrest
      have hy := hnext y List.mem_cons_self tail htail
      rw [← heq] at hy
      simp only [List.map_cons, List.intercalate_cons_cons, List.length_append] at hsize hfuel
      have htl := ih (List.cons_ne_nil y ys) hitem hnext (by simp only [List.map_cons]; omega)
        (by simp only [List.map_cons]; omega : _ < fuel)
      rw [List.map_cons, List.map_cons, List.intercalate_cons_cons, ← List.map_cons,
        List.append_assoc, List.append_assoc, readMany, hx _ (by omega) (hafter _)]
      simp only [hy, htl]
      rfl

end TypeReader

/-- The type that a text is, if it is one from end to end. -/
def TypeExpr.read (text : String) : Option TypeExpr :=
  match TypeReader.readType (text.length + 1) text.toList with
  | some (t, []) => some t
  | _ => none

end SyntaxReports
