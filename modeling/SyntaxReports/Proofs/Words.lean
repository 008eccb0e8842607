/-!
# Words: where a row can be cut

A row of several words has a blank between each two of them, and a word may have blanks of its own
if they stand inside brackets. `Words.scan` follows the depth of the brackets through a text;
`Words.IsWord` says that all brackets are closed again and that no blank stands outside of them.

Under that condition the blanks between words can be told from the others, so the words are found
again in their row (`Words.intercalate_inj`).

Parentheses and braces are counted together, so that a word need not close them in the order in
which they were opened.
-/

namespace SyntaxReports.Words

/-- The depth behind a character: `none` for a bracket that closes nothing, and for a blank outside
all brackets. -/
def step (depth : Nat) (c : Char) : Option Nat :=
  if c = '(' ∨ c = '{' then some (depth + 1)
  else if c = ')' ∨ c = '}' then if depth = 0 then none else some (depth - 1)
  else if c = ' ' ∧ depth = 0 then none
  else some depth

/-- The depth behind a text that begins at a depth. -/
def scan (depth : Nat) (cs : List Char) : Option Nat := cs.foldlM step depth

/-- The brackets of the text are balanced, and no blank stands outside of them. -/
def IsWord (cs : List Char) : Prop := scan 0 cs = some 0

instance (cs : List Char) : Decidable (IsWord cs) :=
  inferInstanceAs (Decidable (scan 0 cs = some 0))

/-- A text without blanks and brackets is a word. -/
theorem isWord_of_forall {cs : List Char}
    (h : ∀ c ∈ cs, c ≠ ' ' ∧ c ≠ '(' ∧ c ≠ ')' ∧ c ≠ '{' ∧ c ≠ '}') : IsWord cs := by
  induction cs with
  | nil => rfl
  | cons c cs ih =>
    obtain ⟨hc, hcs⟩ := List.forall_mem_cons.mp h
    have hstep : step 0 c = some 0 := by simp [step, hc]
    rw [IsWord, scan, List.foldlM_cons, hstep]
    exact ih hcs

/-- What may follow a word in its row: nothing, or a blank and more. -/
def Follows (cs : List Char) : Prop := cs = [] ∨ ∃ rest, cs = ' ' :: rest

/-- A word goes on only inside its brackets, so what follows a word in a row is no more of it. -/
theorem IsWord.eq_nil_of_follows {word more rest : List Char} (hword : IsWord word)
    (hlonger : IsWord (word ++ more)) (hfollows : Follows (more ++ rest)) : more = [] := by
  cases more with
  | nil => rfl
  | cons c more =>
    obtain hnil | ⟨tail, htail⟩ := hfollows
    · cases hnil
    · obtain ⟨rfl, -⟩ := List.cons.inj htail
      -- behind the word the depth is zero, and a blank is refused there
      have hdepth : word.foldlM step 0 = some 0 := hword
      rw [IsWord, scan, List.foldlM_append, hdepth] at hlonger
      simp [step] at hlonger

/-- Two words with something behind them that are the same together are the same. -/
theorem IsWord.append_inj {word word' rest rest' : List Char} (hword : IsWord word)
    (hword' : IsWord word') (hrest : Follows rest) (hrest' : Follows rest')
    (h : word ++ rest = word' ++ rest') : word = word' ∧ rest = rest' := by
  rcases List.append_eq_append_iff.mp h with ⟨more, rfl, rfl⟩ | ⟨more, rfl, rfl⟩
  · obtain rfl := hword.eq_nil_of_follows hword' hrest
    simp
  · obtain rfl := hword'.eq_nil_of_follows hword hrest'
    simp

/-- Words with a blank in front of each. -/
def trail (words : List (List Char)) : List Char := words.flatMap fun word => ' ' :: word

theorem follows_trail (words : List (List Char)) : Follows (trail words) := by
  cases words with
  | nil => exact .inl rfl
  | cons word words => exact .inr ⟨_, rfl⟩

theorem trail_inj {words words' : List (List Char)} (hwords : ∀ word ∈ words, IsWord word)
    (hwords' : ∀ word ∈ words', IsWord word) (h : trail words = trail words') :
    words = words' := by
  induction words generalizing words' with
  | nil =>
    cases words' with
    | nil => rfl
    | cons word' words' => cases h
  | cons word words ih =>
    cases words' with
    | nil => cases h
    | cons word' words' =>
      obtain ⟨hword, htl⟩ := List.forall_mem_cons.mp hwords
      obtain ⟨hword', htl'⟩ := List.forall_mem_cons.mp hwords'
      have hcons : word ++ trail words = word' ++ trail words' := (List.cons.inj h).2
      obtain ⟨rfl, htrail⟩ :=
        hword.append_inj hword' (follows_trail words) (follows_trail words') hcons
      rw [ih htl htl' htrail]

/-- A row is its first word with the others trailing behind it. -/
theorem intercalate_eq (word : List Char) (words : List (List Char)) :
    [' '].intercalate (word :: words) = word ++ trail words := by
  induction words generalizing word with
  | nil => simp [trail]
  | cons next words ih =>
    rw [List.intercalate_cons_cons, ih next, List.append_assoc]
    rfl

/-- **Words are found again in their row**: two rows of words are the same only if the words are. -/
theorem intercalate_inj {word word' : List Char} {words words' : List (List Char)}
    (hword : IsWord word) (hword' : IsWord word') (hwords : ∀ w ∈ words, IsWord w)
    (hwords' : ∀ w ∈ words', IsWord w)
    (h : [' '].intercalate (word :: words) = [' '].intercalate (word' :: words')) :
    word = word' ∧ words = words' := by
  rw [intercalate_eq, intercalate_eq] at h
  obtain ⟨hfirst, htrail⟩ :=
    hword.append_inj hword' (follows_trail words) (follows_trail words') h
  exact ⟨hfirst, trail_inj hwords hwords' htrail⟩

/-- The same for rows and words that are texts. -/
theorem row_inj {word word' : String} {words words' : List String}
    (hwords : ∀ w ∈ word :: words, IsWord w.toList)
    (hwords' : ∀ w ∈ word' :: words', IsWord w.toList)
    (h : " ".intercalate (word :: words) = " ".intercalate (word' :: words')) :
    word = word' ∧ words = words' := by
  obtain ⟨hword, hwords⟩ := List.forall_mem_cons.mp hwords
  obtain ⟨hword', hwords'⟩ := List.forall_mem_cons.mp hwords'
  have hchars := congrArg String.toList h
  rw [String.toList_intercalate, String.toList_intercalate] at hchars
  obtain ⟨hfirst, hothers⟩ := intercalate_inj hword hword' (List.forall_mem_map.mpr hwords)
    (List.forall_mem_map.mpr hwords') hchars
  exact ⟨String.toList_inj.mp hfirst,
    (List.map_inj_right fun _ _ => String.toList_inj.mp).mp hothers⟩

end SyntaxReports.Words
