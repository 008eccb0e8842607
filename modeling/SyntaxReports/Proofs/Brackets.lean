import SyntaxReports.Proofs.Words

/-!
# Brackets: matched and nested

There are two sorts of brackets, parentheses and braces. They are nested in a text if each of them is
closed by one of its sort, and those opened later are closed earlier (`Brackets.Nested`). Texts that
are nested can be put behind each other, in a row, and into brackets.

`Words.IsWord` counts brackets of both sorts together, and refuses a blank outside of all. A nested
text with brackets around it is a word for that reason (`Brackets.Enclosed.isWord`).
-/

namespace SyntaxReports.Brackets

/-- The closing brackets that are awaited behind a character, the innermost first: `none` for a
bracket that closes nothing, and for one that closes a bracket of the other sort. -/
def step (awaited : List Char) (c : Char) : Option (List Char) :=
  if c = '(' then some (')' :: awaited)
  else if c = '{' then some ('}' :: awaited)
  else if c = ')' ∨ c = '}' then if awaited.head? = some c then some awaited.tail else none
  else some awaited

/-- The closing brackets that are awaited behind a text. -/
def scan (awaited : List Char) (cs : List Char) : Option (List Char) := cs.foldlM step awaited

/-- Every bracket is closed by one of its sort, and those opened later are closed earlier. -/
def Nested (cs : List Char) : Prop := scan [] cs = some []

instance (cs : List Char) : Decidable (Nested cs) :=
  inferInstanceAs (Decidable (scan [] cs = some []))

/-- The character is no bracket. -/
def IsPlain (c : Char) : Prop := c ∉ ['(', ')', '{', '}']

theorem scan_append (awaited cs ds : List Char) :
    scan awaited (cs ++ ds) = scan awaited cs >>= fun behind => scan behind ds :=
  List.foldlM_append ..

section

variable {σ τ : Type} {next : σ → Char → Option σ} {next' : τ → Char → Option τ}

/-- Two readers stay together over a text if they do at every character. -/
theorem foldlM_along (view : σ → τ)
    (hnext : ∀ {s t c}, next s c = some t → next' (view s) c = some (view t)) {s t : σ}
    {cs : List Char} (h : cs.foldlM next s = some t) :
    cs.foldlM next' (view s) = some (view t) := by
  induction cs generalizing s with
  | nil =>
    obtain rfl : s = t := Option.some.inj h
    rfl
  | cons c cs ih =>
    rw [List.foldlM_cons, Option.bind_eq_bind, Option.bind_eq_some_iff] at h
    obtain ⟨between, hc, hcs⟩ := h
    rw [List.foldlM_cons, hnext hc]
    exact ih hcs

/-- A reader comes back over a text with brackets around it if the text changes nothing inside of
them. -/
theorem foldlM_enclosed {s inner : σ} {opening closing : Char} {inside : List Char}
    (hopening : next s opening = some inner) (hinside : inside.foldlM next inner = some inner)
    (hclosing : next inner closing = some s) :
    (opening :: (inside ++ [closing])).foldlM next s = some s := by
  rw [List.foldlM_cons, hopening, Option.bind_eq_bind, Option.bind_some, List.foldlM_append, hinside,
    Option.bind_eq_bind, Option.bind_some, List.foldlM_cons, hclosing]
  rfl

end

/-- What is awaited further out changes nothing, as it is not reached. -/
theorem step_outer {awaited behind : List Char} {c : Char} (h : step awaited c = some behind)
    (outer : List Char) : step (awaited ++ outer) c = some (behind ++ outer) := by
  cases awaited <;> grind [step]

/-- A nested text can stand inside any brackets and leaves them open. -/
theorem Nested.scan_eq {cs : List Char} (h : Nested cs) (awaited : List Char) :
    scan awaited cs = some awaited :=
  foldlM_along (· ++ awaited) (fun hstep => step_outer hstep awaited) h

theorem nested_nil : Nested [] := rfl

theorem nested_of_forall {cs : List Char} (h : ∀ c ∈ cs, IsPlain c) : Nested cs := by
  induction cs with
  | nil => exact nested_nil
  | cons c cs ih =>
    obtain ⟨hc, hcs⟩ := List.forall_mem_cons.mp h
    have hstep : step [] c = some [] := by
      simp only [IsPlain, List.mem_cons, List.not_mem_nil, or_false, not_or] at hc
      simp [step, hc]
    rw [Nested, scan, List.foldlM_cons, hstep]
    exact ih hcs

theorem Nested.append {cs ds : List Char} (hcs : Nested cs) (hds : Nested ds) :
    Nested (cs ++ ds) := by
  rw [Nested, scan_append, hcs]
  exact hds

theorem Nested.intercalate {sep : List Char} (hsep : Nested sep) {pieces : List (List Char)}
    (h : ∀ piece ∈ pieces, Nested piece) : Nested (sep.intercalate pieces) := by
  induction pieces with
  | nil => exact nested_nil
  | cons piece pieces ih =>
    obtain ⟨hpiece, hpieces⟩ := List.forall_mem_cons.mp h
    cases pieces with
    | nil => rwa [List.intercalate_singleton]
    | cons next pieces =>
      rw [List.intercalate_cons_cons]
      exact (hpiece.append hsep).append (ih hpieces)

/-! ## Words -/

/-- Inside of brackets a blank is no matter, so as long as brackets match, the depth goes up and down
with the brackets that are awaited. -/
theorem depth_step {awaited behind : List Char} {c : Char} (h : step awaited c = some behind) :
    Words.step (awaited.length + 1) c = some (behind.length + 1) := by
  cases awaited <;> grind [step, Words.step]

theorem depth_scan {awaited behind cs : List Char} (h : scan awaited cs = some behind) :
    Words.scan (awaited.length + 1) cs = some (behind.length + 1) :=
  foldlM_along (fun awaited : List Char => awaited.length + 1) depth_step h

/-- The two sorts of brackets. -/
def sorts : List (Char × Char) := [('(', ')'), ('{', '}')]

/-- A nested text with a pair of brackets around it. -/
def Enclosed (cs : List Char) : Prop :=
  ∃ sort ∈ sorts, ∃ inside, Nested inside ∧ cs = sort.1 :: (inside ++ [sort.2])

theorem enclosed_parens {inside : List Char} (h : Nested inside) :
    Enclosed ('(' :: (inside ++ [')'])) :=
  ⟨('(', ')'), by decide, inside, h, rfl⟩

theorem enclosed_braces {inside : List Char} (h : Nested inside) :
    Enclosed ('{' :: (inside ++ ['}'])) :=
  ⟨('{', '}'), by decide, inside, h, rfl⟩

theorem Enclosed.nested {cs : List Char} (h : Enclosed cs) : Nested cs := by
  have hsorts : ∀ sort ∈ sorts,
      step [] sort.1 = some [sort.2] ∧ step [sort.2] sort.2 = some [] := by decide
  obtain ⟨sort, hsort, inside, hinside, rfl⟩ := h
  obtain ⟨hopening, hclosing⟩ := hsorts sort hsort
  exact foldlM_enclosed hopening (hinside.scan_eq [sort.2]) hclosing

/-- Brackets around a nested text keep its blanks together. -/
theorem Enclosed.isWord {cs : List Char} (h : Enclosed cs) : Words.IsWord cs := by
  have hsorts : ∀ sort ∈ sorts,
      Words.step 0 sort.1 = some 1 ∧ Words.step 1 sort.2 = some 0 := by decide
  obtain ⟨sort, hsort, inside, hinside, rfl⟩ := h
  obtain ⟨hopening, hclosing⟩ := hsorts sort hsort
  exact foldlM_enclosed hopening (depth_scan hinside) hclosing

end SyntaxReports.Brackets
