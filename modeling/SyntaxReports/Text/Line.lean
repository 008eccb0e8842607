/-!
# Lines: text cut at newlines

A text is a sequence of lines with a newline between each two of them, so there
is one line more than there are newlines, and never none. `Line.ofText` cuts a
text, `Line.join` puts it together again.

`Line.shift` moves a line to the right. An empty line stays empty, so that
indented text does not trail blanks.
-/

namespace SyntaxReports.Line

/-- The lines of a text. -/
def ofText (text : String) : List String :=
  (text.toList.splitOn '\n').map String.ofList

/-- The text of some lines: a newline between each two. -/
def join (lines : List String) : String :=
  "\n".intercalate lines

/-- So many blanks. -/
def blanks (n : Nat) : String :=
  String.ofList (List.replicate n ' ')

/-- A line moved `n` columns to the right, unless there is nothing on it. -/
def shift (n : Nat) (line : String) : String :=
  if line.isEmpty then line else blanks n ++ line

/-- A text has at least one line. -/
theorem ofText_ne_nil (text : String) : ofText text ≠ [] := by
  simp [ofText, List.splitOn]

/-- Cutting loses nothing. -/
@[simp] theorem join_ofText (text : String) : join (ofText text) = text := by
  apply String.toList_inj.mp
  simp [join, ofText, String.toList_intercalate, List.intercalate_splitOn, Function.comp_def]

/-- Lines that hold no newline are found again in their text. -/
theorem ofText_join {lines : List String} (hne : lines ≠ [])
    (hlines : ∀ line ∈ lines, '\n' ∉ line.toList) : ofText (join lines) = lines := by
  have hsplit : List.splitOn '\n' (['\n'].intercalate (lines.map String.toList)) =
      lines.map String.toList :=
    List.splitOn_intercalate '\n' (by simpa using hlines) (by simpa using hne)
  simp [ofText, join, String.toList_intercalate, hsplit, Function.comp_def]

@[simp] theorem toList_blanks (n : Nat) : (blanks n).toList = List.replicate n ' ' := by
  simp [blanks]

@[simp] theorem length_blanks (n : Nat) : (blanks n).length = n := by
  simp [blanks]

@[simp] theorem shift_empty (n : Nat) : shift n "" = "" := rfl

/-- Moving by nothing moves nothing. -/
@[simp] theorem shift_zero (line : String) : shift 0 line = line := by
  simp [shift, blanks]

end SyntaxReports.Line
