import SyntaxReports.Text.Line
import SyntaxReports.Text.LineEnd

/-!
# Lines: cut, joined, moved and moved back

A text is determined by its lines (`Line.ofText_inj`), and a line moved to the right can be moved
back (`Line.outdent_shift`), so that neither cutting nor moving loses anything.

A text can also be cut wherever a line may end. That finds the same lines as cutting at newlines if
no line has an end inside and the last one is not empty (`LineEnd.lines_join`).
-/

namespace SyntaxReports

namespace Line

theorem mem_of_mem_splitOn {sep c : Char} {cs piece : List Char} (hpiece : piece ∈ cs.splitOn sep)
    (hc : c ∈ piece) : c ∈ cs ∧ c ≠ sep := by
  induction cs generalizing piece with
  | nil =>
    rw [List.splitOn_nil, List.mem_singleton] at hpiece
    rw [hpiece] at hc
    cases hc
  | cons d cs ih =>
    rw [List.splitOn_cons_eq_if_modifyHead] at hpiece
    split at hpiece
    · rcases List.mem_cons.mp hpiece with rfl | hpiece
      · cases hc
      · exact (ih hpiece hc).imp_left (List.mem_cons_of_mem _)
    · -- `d` goes in front of the first piece, and the other pieces are those of `cs`
      rename_i hd
      obtain ⟨first, others, hsplit⟩ := List.exists_cons_of_ne_nil (List.splitOn_ne_nil sep cs)
      rw [hsplit] at ih hpiece
      rcases List.mem_cons.mp hpiece with rfl | hpiece
      · rcases List.mem_cons.mp hc with rfl | hc
        · exact ⟨List.mem_cons_self, fun hsep => hd (beq_iff_eq.mpr hsep)⟩
        · exact (ih List.mem_cons_self hc).imp_left (List.mem_cons_of_mem _)
      · exact (ih (List.mem_cons_of_mem _ hpiece) hc).imp_left (List.mem_cons_of_mem _)

/-- What is on the lines of a text is in the text, and is no newline. -/
theorem mem_of_mem_ofText {text line : String} {c : Char} (hline : line ∈ ofText text)
    (hc : c ∈ line.toList) : c ∈ text.toList ∧ c ≠ '\n' := by
  obtain ⟨piece, hpiece, rfl⟩ := List.mem_map.mp hline
  rw [String.toList_ofList] at hc
  exact mem_of_mem_splitOn hpiece hc

/-- Cutting leaves one piece more than there are separators. -/
theorem length_splitOn (sep : Char) (cs : List Char) :
    (cs.splitOn sep).length = cs.count sep + 1 := by
  induction cs with
  | nil => rfl
  | cons c cs ih =>
    rw [List.splitOn_cons_eq_if_modifyHead]
    split
    · rename_i hsep
      rw [List.length_cons, ih, beq_iff_eq.mp hsep, List.count_cons_self]
    · rename_i hsep
      rw [List.length_modifyHead, ih, List.count_cons_of_ne fun h => hsep (beq_iff_eq.mpr h)]

/-- A text has one line more than it has newlines. -/
theorem length_ofText (text : String) : (ofText text).length = text.toList.count '\n' + 1 := by
  rw [ofText, List.length_map, length_splitOn]

@[simp] theorem join_singleton (line : String) : join [line] = line := by
  rw [join, String.intercalate_singleton]

theorem join_cons_cons (line next : String) (lines : List String) :
    join (line :: next :: lines) = line ++ "\n" ++ join (next :: lines) := by
  rw [join, String.intercalate_cons_cons, join]

/-- The text of some lines begins with the first of them. -/
theorem exists_join_cons (line : String) (lines : List String) :
    ∃ rest, join (line :: lines) = line ++ rest := by
  cases lines with
  | nil => exact ⟨"", by rw [join_singleton, String.append_empty]⟩
  | cons next lines =>
    exact ⟨"\n" ++ join (next :: lines), by rw [join_cons_cons, String.append_assoc]⟩

/-- Between the texts of some lines and of those behind them stands one newline. -/
theorem join_append {lines lines' : List String} (hne : lines ≠ []) (hne' : lines' ≠ []) :
    join (lines ++ lines') = join lines ++ "\n" ++ join lines' := by
  rw [join, String.intercalate_append_of_ne_nil hne hne', join, join]

/-- A newline in front of every line is one in front of their text. -/
theorem join_newlines {lines : List String} (hne : lines ≠ []) :
    String.join (lines.map ("\n" ++ ·)) = "\n" ++ join lines := by
  induction lines with
  | nil => exact absurd rfl hne
  | cons line lines ih =>
    rw [List.map_cons, String.join_cons]
    cases lines with
    | nil => rw [List.map_nil, String.join_nil, String.append_empty, join_singleton]
    | cons next lines =>
      rw [ih (List.cons_ne_nil _ _), join_cons_cons, String.append_assoc, String.append_assoc]

/-- A text is determined by its lines. -/
theorem ofText_inj {text text' : String} (h : ofText text = ofText text') : text = text' := by
  rw [← join_ofText text, h, join_ofText]

/-! ## Moving to the right and back -/

/-- Only an empty line is empty after it was moved. -/
theorem shift_eq_empty {n : Nat} {line : String} (h : shift n line = "") : line = "" := by
  rw [shift] at h
  split at h
  · exact h
  · exact (String.append_eq_empty_iff.mp h).2

theorem isEmpty_shift (n : Nat) (line : String) : (shift n line).isEmpty = line.isEmpty := by
  rw [Bool.eq_iff_iff, String.isEmpty_iff, String.isEmpty_iff]
  refine ⟨shift_eq_empty, ?_⟩
  rintro rfl
  exact shift_empty n

theorem shift_of_ne {line : String} (h : line ≠ "") (n : Nat) : shift n line = blanks n ++ line := by
  rw [shift, if_neg (by simpa using h)]

theorem shift_eq (n : Nat) :
    shift n = fun line => if line = "" then "" else blanks n ++ line := by
  funext line
  split
  · rename_i hempty
    rw [hempty, shift_empty]
  · rename_i hne
    exact shift_of_ne hne n

theorem blanks_append (m n : Nat) : blanks m ++ blanks n = blanks (m + n) := by
  apply String.toList_inj.mp
  rw [String.toList_append, toList_blanks, toList_blanks, toList_blanks, List.replicate_append_replicate]

/-- Moving a line twice is moving it once, by as much as both times together. -/
theorem shift_shift (m n : Nat) (line : String) : shift m (shift n line) = shift (m + n) line := by
  by_cases h : line = ""
  · rw [h, shift_empty, shift_empty, shift_empty]
  · have hmoved : shift n line ≠ "" := fun hempty => h (shift_eq_empty hempty)
    rw [shift_of_ne hmoved, shift_of_ne h, shift_of_ne h, ← String.append_assoc, blanks_append]

theorem length_shift {line : String} (h : line ≠ "") (n : Nat) :
    (shift n line).length = n + line.length := by
  rw [shift_of_ne h, String.length_append, length_blanks]

/-- What is put behind a line with something on it moves along. -/
theorem shift_append {line : String} (h : line ≠ "") (n : Nat) (rest : String) :
    shift n (line ++ rest) = shift n line ++ rest := by
  have hwhole : line ++ rest ≠ "" := fun hempty => h (String.append_eq_empty_iff.mp hempty).1
  rw [shift_of_ne hwhole, shift_of_ne h, String.append_assoc]

theorem mem_shift {n : Nat} {line : String} {c : Char} (h : c ∈ (shift n line).toList) :
    c = ' ' ∨ c ∈ line.toList := by
  rw [shift] at h
  split at h
  · exact .inr h
  · rw [String.toList_append, toList_blanks, List.mem_append] at h
    exact h.imp_left List.eq_of_mem_replicate

/-- A line moved `n` columns to the left, if there are as many blanks in front of it. -/
def outdent (n : Nat) (line : String) : String :=
  if (blanks n).toList.isPrefixOf line.toList then String.ofList (line.toList.drop n) else line

theorem outdent_blanks (n : Nat) (line : String) : outdent n (blanks n ++ line) = line := by
  rw [outdent, String.toList_append, if_pos (List.isPrefixOf_iff_prefix.mpr (List.prefix_append _ _)),
    toList_blanks, List.drop_left' List.length_replicate, String.ofList_toList]

theorem outdent_empty (n : Nat) : outdent n "" = "" := by
  rw [outdent, String.toList_empty, List.drop_nil, String.ofList_nil, ite_self]

/-- A line that was moved to the right is moved back. -/
@[simp] theorem outdent_shift (n : Nat) (line : String) : outdent n (shift n line) = line := by
  by_cases h : line = ""
  · rw [h, shift_empty, outdent_empty]
  · rw [shift_of_ne h, outdent_blanks]

theorem shift_inj {n : Nat} {line line' : String} (h : shift n line = shift n line') :
    line = line' := by
  rw [← outdent_shift n line, h, outdent_shift]

end Line

/-! ## Lines that end in any way -/

namespace LineEnd

/-- No line ends among these characters. -/
def Unbroken (cs : List Char) : Prop := ∀ c ∈ cs, isEnd c = false

instance (cs : List Char) : Decidable (Unbroken cs) := List.decidableBAll _ _

theorem unbroken_append {cs ds : List Char} : Unbroken (cs ++ ds) ↔ Unbroken cs ∧ Unbroken ds :=
  List.forall_mem_append

/-- The newline is one of the line ends. -/
theorem Unbroken.newline_not_mem {cs : List Char} (h : Unbroken cs) : '\n' ∉ cs :=
  fun hmem => absurd (h '\n' hmem) (by decide)

/-- Text behind another one brings in its own line ends only. -/
theorem unbroken_followed {text back : String} (hback : Unbroken back.toList) :
    Unbroken (text ++ back).toList ↔ Unbroken text.toList := by
  rw [String.toList_append, unbroken_append, and_iff_left hback]

/-- And so does text in front. -/
theorem unbroken_preceded {front text : String} (hfront : Unbroken front.toList) :
    Unbroken (front ++ text).toList ↔ Unbroken text.toList := by
  rw [String.toList_append, unbroken_append, and_iff_right hfront]

/-- Joining brings in the line ends of the separator, and no others. -/
theorem unbroken_intercalate {sep : List Char} (hsep : Unbroken sep) {pieces : List (List Char)} :
    Unbroken (sep.intercalate pieces) ↔ ∀ piece ∈ pieces, Unbroken piece := by
  induction pieces with
  | nil => exact iff_of_true (List.forall_mem_nil _) (List.forall_mem_nil _)
  | cons piece pieces ih =>
    cases pieces with
    | nil => rw [List.intercalate_singleton, List.forall_mem_singleton]
    | cons next pieces =>
      rw [List.intercalate_cons_cons, unbroken_append, unbroken_append, ih,
        and_iff_left hsep, List.forall_mem_cons (a := piece)]

theorem split_newline (rest : List Char) : split ('\n' :: rest) = [] :: split rest := by
  rw [split, if_neg (by simp), if_pos (by decide)]

theorem split_cons {c : Char} (hc : isEnd c = false) (rest : List Char) :
    split (c :: rest) = consFirst c (split rest) := by
  have hreturn : c ≠ '\r' := by
    rintro rfl
    exact absurd hc (by decide)
  rw [split, if_neg (fun h => hreturn h.1), if_neg (by rw [hc]; decide)]

/-- What is in front of a newline, if no line ends in it, is a line. -/
theorem split_append {line : List Char} (h : Unbroken line) (rest : List Char) :
    split (line ++ '\n' :: rest) = line :: split rest := by
  induction line with
  | nil => exact split_newline rest
  | cons c line ih =>
    obtain ⟨hc, hline⟩ := List.forall_mem_cons.mp h
    rw [List.cons_append, split_cons hc, ih hline, consFirst]

theorem split_eq_singleton {line : List Char} (h : Unbroken line)
    (hne : line ≠ []) : split line = [line] := by
  induction line with
  | nil => exact absurd rfl hne
  | cons c line ih =>
    obtain ⟨hc, hline⟩ := List.forall_mem_cons.mp h
    rw [split_cons hc]
    by_cases hnil : line = []
    · rw [hnil, split, consFirst]
    · rw [ih hline hnil, consFirst]

/-- In the text of some lines the first one ends at the newline behind it. -/
theorem lines_join_cons {line : String} (hline : Unbroken line.toList) {texts : List String}
    (hne : texts ≠ []) : lines (Line.join (line :: texts)) = line :: lines (Line.join texts) := by
  obtain ⟨next, texts, rfl⟩ := List.exists_cons_of_ne_nil hne
  have hnewline : "\n".toList = ['\n'] := rfl
  rw [Line.join_cons_cons, lines, String.toList_append, String.toList_append, hnewline,
    List.append_assoc, List.singleton_append, split_append hline, List.map_cons,
    String.ofList_toList]
  rfl

/-- Lines are found again in their text, whichever way lines may end, if no line ends before a
newline and there is something on the last one. -/
theorem lines_join {texts : List String} (h : ∀ line ∈ texts, Unbroken line.toList)
    (hlast : texts.getLast? ≠ some "") : lines (Line.join texts) = texts := by
  induction texts with
  | nil => rfl
  | cons line texts ih =>
    obtain ⟨hline, htexts⟩ := List.forall_mem_cons.mp h
    cases texts with
    | nil =>
      have hne : line.toList ≠ [] := fun hnil =>
        hlast (by rw [List.getLast?_singleton, String.toList_eq_nil_iff.mp hnil])
      rw [Line.join_singleton, lines, split_eq_singleton hline hne, List.map_singleton,
        String.ofList_toList]
    | cons next texts =>
      rw [lines_join_cons hline (List.cons_ne_nil _ _),
        ih htexts (by rwa [List.getLast?_cons_cons] at hlast)]

/-- If there is nothing on the last one, that is the only line that is not found. -/
theorem lines_join_concat_empty {texts : List String} (h : ∀ line ∈ texts, Unbroken line.toList) :
    lines (Line.join (texts ++ [""])) = texts := by
  induction texts with
  | nil => rfl
  | cons line texts ih =>
    obtain ⟨hline, htexts⟩ := List.forall_mem_cons.mp h
    rw [List.cons_append, lines_join_cons hline (List.concat_ne_nil _ _), ih htexts]

/-- So whichever way lines may end, no others are found than those that were joined. -/
theorem mem_of_mem_lines_join {texts : List String} (h : ∀ line ∈ texts, Unbroken line.toList)
    {line : String} (hline : line ∈ lines (Line.join texts)) : line ∈ texts := by
  by_cases hlast : texts.getLast? = some ""
  · obtain ⟨above, rfl⟩ := List.getLast?_eq_some_iff.mp hlast
    rw [lines_join_concat_empty (List.forall_mem_append.mp h).1] at hline
    exact List.mem_append_left _ hline
  · rwa [lines_join h hlast] at hline

theorem unbroken_consFirst {c : Char} (hc : isEnd c = false) {lines : List (List Char)}
    (h : ∀ line ∈ lines, Unbroken line) : ∀ line ∈ consFirst c lines, Unbroken line := by
  cases lines with
  | nil => exact List.forall_mem_singleton.mpr (List.forall_mem_singleton.mpr hc)
  | cons first others =>
    obtain ⟨hfirst, hothers⟩ := List.forall_mem_cons.mp h
    exact List.forall_mem_cons.mpr ⟨List.forall_mem_cons.mpr ⟨hc, hfirst⟩, hothers⟩

/-- No line ends inside of the lines that are found. -/
theorem unbroken_split (cs : List Char) : ∀ line ∈ split cs, Unbroken line := by
  fun_induction split cs with
  | case1 => exact List.forall_mem_nil _
  | case2 c cs hreturn ih => exact ih
  | case3 c cs hreturn hc ih => exact List.forall_mem_cons.mpr ⟨List.forall_mem_nil _, ih⟩
  | case4 c cs hreturn hc ih => exact unbroken_consFirst (Bool.eq_false_iff.mpr hc) ih

theorem unbroken_of_mem_lines {text line : String} (hline : line ∈ lines text) :
    Unbroken line.toList := by
  obtain ⟨piece, hpiece, rfl⟩ := List.mem_map.mp hline
  rw [String.toList_ofList]
  exact unbroken_split _ piece hpiece

end LineEnd

end SyntaxReports
