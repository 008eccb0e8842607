import SyntaxReports.Proofs.ReportSuggestion

/-!
# Snippets: any text, cut and moved

The suggestion in a report is moved to the right as text, and the text may be any: a report can be
asked for with a suggestion that comes from elsewhere. `Report.body_pieces` says what becomes of it.
Each line is a piece of its own behind a newline, without padding where there is nothing on it, and
the lines are the text without its line ends. How many lines there are is counted without cutting:
by the characters that end lines, where a carriage return and the newline behind it count once
(`LineEnd.count`), and by whether something is left behind the last line end (`LineEnd.isOpen`).

If lines end in newlines only, the snippet is the block of lines that the layout makes of the text and
moves, but for a newline at the end, which is no line here and an empty one there.
-/

namespace SyntaxReports

namespace LineEnd

/-! ## Counting line ends -/

/-- The number of newlines right behind a carriage return. -/
def returnNewlines (cs : List Char) : Nat := (cs.zip cs.tail).count ('\r', '\n')

/-- The number of line ends: of the characters that end lines, but a carriage return and the newline
behind it are one. -/
def count (cs : List Char) : Nat := cs.countP isEnd - returnNewlines cs

/-- Whether there is something behind the last line end. -/
def isOpen (cs : List Char) : Bool := cs.getLast?.any (!isEnd ·)

theorem returnNewlines_cons (c : Char) (cs : List Char) :
    returnNewlines (c :: cs) =
      returnNewlines cs + if c = '\r' ∧ cs.head? = some '\n' then 1 else 0 := by
  cases cs with
  | nil => simp [returnNewlines]
  | cons d cs =>
    rw [returnNewlines, List.tail_cons, List.zip_cons_cons, List.count_cons, returnNewlines,
      List.tail_cons]
    simp

/-- A line end in front makes no difference to what comes last. -/
theorem isOpen_cons {c : Char} (hc : isEnd c = true) (cs : List Char) :
    isOpen (c :: cs) = isOpen cs := by
  cases cs with
  | nil => simp [isOpen, hc]
  | cons d cs => rw [isOpen, List.getLast?_cons_cons, isOpen]

theorem split_ne_nil {cs : List Char} (h : cs ≠ []) : split cs ≠ [] := by
  fun_induction split cs with
  | case1 => exact absurd rfl h
  | case2 c cs hreturn ih =>
    apply ih
    rintro rfl
    cases hreturn.2
  | case3 c cs hreturn hc ih => exact List.cons_ne_nil _ _
  | case4 c cs hreturn hc ih => cases split cs <;> exact List.cons_ne_nil _ _

/-! ## What cutting does -/

theorem isEnd_of_return {c : Char} {cs : List Char} (h : c = '\r' ∧ cs.head? = some '\n') :
    isEnd c = true := by
  rw [h.1]
  decide

theorem flatten_consFirst (c : Char) (lines : List (List Char)) :
    (consFirst c lines).flatten = c :: lines.flatten := by
  cases lines <;> rfl

theorem length_consFirst (c : Char) {lines : List (List Char)} (h : lines ≠ []) :
    (consFirst c lines).length = lines.length := by
  obtain ⟨line, lines, rfl⟩ := List.exists_cons_of_ne_nil h
  rfl

/-- Cutting takes out the line ends, and nothing else. -/
theorem flatten_split (cs : List Char) : (split cs).flatten = cs.filter (!isEnd ·) := by
  fun_induction split cs with
  | case1 => rfl
  | case2 c cs hreturn ih =>
    rw [ih, List.filter_cons_of_neg (by simp [isEnd_of_return hreturn])]
  | case3 c cs hreturn hc ih =>
    rw [List.flatten_cons, List.nil_append, ih, List.filter_cons_of_neg (by simp [hc])]
  | case4 c cs hreturn hc ih =>
    rw [flatten_consFirst, ih, List.filter_cons_of_pos (by simpa using hc)]

/-- There is a line for each line end, and one for what is behind the last of them. -/
theorem length_split_add (cs : List Char) :
    (split cs).length + returnNewlines cs = cs.countP isEnd + if isOpen cs then 1 else 0 := by
  fun_induction split cs with
  | case1 => simp [returnNewlines, isOpen]
  | case2 c cs hreturn ih =>
    have hc := isEnd_of_return hreturn
    rw [returnNewlines_cons, List.countP_cons, if_pos hreturn, if_pos hc,
      isOpen_cons hc]
    omega
  | case3 c cs hreturn hc ih =>
    rw [returnNewlines_cons, List.countP_cons, if_neg hreturn, if_pos hc, List.length_cons,
      isOpen_cons hc]
    omega
  | case4 c cs hreturn hc ih =>
    rw [returnNewlines_cons, List.countP_cons, if_neg hreturn, if_neg hc]
    cases cs with
    | nil => simp [split, consFirst, returnNewlines, isOpen, hc]
    | cons d cs =>
      -- `c` is on the line of `d`
      have hopen : isOpen (c :: d :: cs) = isOpen (d :: cs) := by
        rw [isOpen, List.getLast?_cons_cons, isOpen]
      rw [length_consFirst c (split_ne_nil (List.cons_ne_nil d cs)), hopen]
      omega

theorem returnNewlines_le (cs : List Char) : returnNewlines cs ≤ cs.countP isEnd := by
  induction cs with
  | nil => exact Nat.le_refl 0
  | cons c cs ih =>
    rw [returnNewlines_cons, List.countP_cons]
    refine Nat.add_le_add ih ?_
    split
    · rename_i hreturn
      exact Nat.le_of_eq (if_pos (isEnd_of_return hreturn)).symm
    · exact Nat.zero_le _

theorem length_split (cs : List Char) :
    (split cs).length = count cs + if isOpen cs then 1 else 0 := by
  have hadd := length_split_add cs
  have hle := returnNewlines_le cs
  rw [count]
  omega

/-! ## Texts of which the lines end in newlines -/

/-- The lines of such a text, cut at newlines, have no line ends. -/
theorem unbroken_ofText {text : String}
    (h : ∀ c ∈ text.toList, isEnd c = true → c = '\n') :
    ∀ line ∈ Line.ofText text, Unbroken line.toList := by
  refine Doc.only_ofText (p := fun c => isEnd c = false) fun c hc hne => ?_
  exact Bool.eq_false_iff.mpr fun hend => hne (h c hc hend)

end LineEnd

/-- The text without the newline at its end, if there is one. -/
def Line.chomp (text : String) : String :=
  if text.toList.getLast? = some '\n' then String.ofList text.toList.dropLast else text

/-- It does not matter how such a text is cut, once the newline at its end is taken off. -/
theorem LineEnd.lines_eq_ofText {text : String} (hne : text ≠ "")
    (h : ∀ c ∈ text.toList, isEnd c = true → c = '\n') :
    lines text = Line.ofText (Line.chomp text) := by
  rw [Line.chomp]
  split
  · rename_i hlast
    obtain ⟨front, hfront⟩ := List.getLast?_eq_some_iff.mp hlast
    have hdrop : String.ofList text.toList.dropLast = String.ofList front := by
      rw [hfront, List.dropLast_concat]
    have htext : text = Line.join (Line.ofText (String.ofList front) ++ [""]) := by
      rw [Line.join_append (Line.ofText_ne_nil _) (List.cons_ne_nil _ _), Line.join_ofText,
        Line.join_singleton, String.append_empty]
      apply String.toList_inj.mp
      rw [hfront, String.toList_append, String.toList_ofList]
      rfl
    have hlines : ∀ line ∈ Line.ofText (String.ofList front), Unbroken line.toList := by
      apply unbroken_ofText
      intro c hc
      rw [String.toList_ofList] at hc
      exact h c (by rw [hfront]; exact List.mem_append_left _ hc)
    have hcut := lines_join_concat_empty hlines
    rwa [← htext, ← hdrop] at hcut
  · rename_i hlast
    have hwhole : IsWholeLines text := ⟨hne, hlast, h⟩
    have hcut := lines_join (unbroken_ofText h) hwhole.closed
    rwa [Line.join_ofText] at hcut

namespace Report

/-- **A suggestion is cut into its lines, and each is a piece of the body**: a newline, and behind it
the line, moved to the right if there is something on it. The lines are the suggestion without its
line ends, and there are as many as there are line ends, and one for what is behind the last of them.
Where lines end in newlines only, the pieces are the block of the suggestion, moved. -/
theorem body_pieces (typeName first : String) (rest : List String) (text : String) (indent : Int) :
    ∃ (part : String) (lines : List String),
      (unboundVars typeName first rest text indent).body =
        unboundIntroduction typeName first ++ part ∧
      part = String.join (lines.map fun line =>
        "\n" ++ if line = "" then "" else Line.blanks indent.toNat ++ line) ∧
      (∀ line ∈ lines, LineEnd.Unbroken line.toList) ∧
      (String.join lines).toList = text.toList.filter (!LineEnd.isEnd ·) ∧
      lines.length = LineEnd.count text.toList + (if LineEnd.isOpen text.toList then 1 else 0) ∧
      (text ≠ "" → (∀ c ∈ text.toList, LineEnd.isEnd c = true → c = '\n') →
        part = "\n" ++ ((Doc.ofText (Line.chomp text)).nest indent.toNat).render) ∧
      (text = "" → part = "") := by
  refine ⟨snippet indent text, LineEnd.lines text, rfl, ?_, fun line => LineEnd.unbroken_of_mem_lines,
    ?_, ?_, fun hne hnewline => ?_, ?_⟩
  · rw [snippet, Line.shift_eq]
  · rw [LineEnd.lines, String.toList_join, List.flatMap_map, ← LineEnd.flatten_split]
    simp only [String.toList_ofList, List.flatMap_id']
  · rw [LineEnd.lines, List.length_map, LineEnd.length_split]
  · have hlines := LineEnd.lines_eq_ofText hne hnewline
    rw [snippet_eq (by rw [hlines]; exact Line.ofText_ne_nil _), hlines]
    rfl
  · rintro rfl
    rfl

/-- A line that is empty and a newline at the end. -/
theorem body_pieces_newlines :
    let text := "x\n\n y\n"
    text ≠ "" ∧ (∀ c ∈ text.toList, LineEnd.isEnd c = true → c = '\n') ∧
      (unboundVars "T" "a" [] text 2).body = unboundIntroduction "T" "a" ++ "\n  x\n\n   y" := by
  intro text
  have hne : text ≠ "" := by decide
  have hnewline : ∀ c ∈ text.toList, LineEnd.isEnd c = true → c = '\n' := by
    have hall : text.toList.all (fun c => !LineEnd.isEnd c || c == '\n') = true := by decide
    intro c hc hend
    simpa [hend] using List.all_eq_true.mp hall c hc
  obtain ⟨part, lines, hbody, -, -, -, -, hpart, -⟩ := body_pieces "T" "a" [] text 2
  have hchomp : Line.chomp text = "x\n\n y" := by decide
  refine ⟨hne, hnewline, ?_⟩
  rw [hbody, hpart hne hnewline, hchomp]
  exact congrArg _ (by decide)

/-- A carriage return ends a line, and so does a form feed; with a newline behind it, a carriage
return does not end another one. -/
example : snippet (-1) "a\r\n\x0c\r b" = "\na\n\n\n b" := by decide

end Report

end SyntaxReports
