import SyntaxReports.Fault
import SyntaxReports.Text.Line

/-!
# Layout: blocks of lines that are put together

A `Doc` is a block of lines. Two blocks are put beside each other with
`Doc.beside`, which keeps the lines of the second aligned with its first one;
several are put in a row with `Doc.hsep` and on top of each other with
`Doc.vcat`; `Doc.nest` moves a block to the right. None of them ever pads an
empty line.

The empty block has no lines, which makes it the identity of `beside` and of
stacking, and sets it apart from the block of one empty line.

Indents are natural numbers. Where one comes from outside as an integer,
`Doc.checkIndent` turns it into one or refuses it.
-/

namespace SyntaxReports

/-- A block of lines. -/
structure Doc where
  /-- the lines, from the top -/
  lines : List String := []
  deriving Repr, DecidableEq

/-- Whether two blocks side by side are kept apart. -/
inductive Gap where
  /-- no blank between them -/
  | none
  /-- one blank between them -/
  | blank
  deriving Repr, DecidableEq

/-- The width of a gap in columns. -/
def Gap.width : Gap → Nat
  | .none => 0
  | .blank => 1

namespace Doc

/-- The block without lines. -/
def empty : Doc := ⟨[]⟩

/-- The block that a text is, line by line. It is never empty. -/
def ofText (text : String) : Doc := ⟨Line.ofText text⟩

/-- Whether there are no lines. -/
def isEmpty (d : Doc) : Bool := d.lines.isEmpty

/-- The last line; the empty block counts as having an empty one. -/
def lastLine (d : Doc) : String := d.lines.getLastD ""

/-- The number of columns that the last line takes. -/
def lastWidth (d : Doc) : Nat := d.lastLine.length

/-- The block as text. -/
def render (d : Doc) : String := Line.join d.lines

/-- The block `b` put behind the last line of `a`. The first line of `b`
continues that line after the gap, and the further lines of `b` are moved to
the column where its first line begins. -/
def beside (a b : Doc) (gap : Gap := .blank) : Doc :=
  match a.lines, b.lines with
  | [], _ => b
  | _, [] => a
  | _, first :: rest =>
    ⟨a.lines.dropLast ++ (a.lastLine ++ Line.blanks gap.width ++ first) ::
      rest.map (Line.shift (a.lastWidth + gap.width))⟩

/-- The block moved `n` columns to the right. -/
def nest (n : Nat) (d : Doc) : Doc := ⟨d.lines.map (Line.shift n)⟩

/-- Blocks in a row, a blank between each two. Empty blocks leave no trace. -/
def hsep (docs : List Doc) : Doc := docs.foldl (fun row d => row.beside d) empty

/-- Blocks on top of each other. -/
def vcat (docs : List Doc) : Doc := ⟨docs.flatMap lines⟩

/-- A body below a header, moved `n` columns to the right. -/
def hang (header : Doc) (n : Nat) (body : Doc) : Doc := vcat [header, body.nest n]

/-! ## Indents from outside -/

/-- An indent that may be below zero, which none of the operations takes. -/
def checkIndent : Int → Except Fault Nat
  | .ofNat n => pure n
  | .negSucc _ => throw .negativeIndent

/-- Moving to the right by an indent from outside; one below zero is refused
whatever the block is. -/
def nestBy (indent : Int) (d : Doc) : Except Fault Doc := do
  let n ← checkIndent indent
  pure (d.nest n)

/-- Hanging with an indent from outside. -/
def hangBy (header : Doc) (indent : Int) (body : Doc) : Except Fault Doc := do
  let n ← checkIndent indent
  pure (header.hang n body)

/-! ## What the operations do to the lines -/

@[simp] theorem lines_empty : empty.lines = [] := rfl

@[simp] theorem lines_ofText (text : String) : (ofText text).lines = Line.ofText text := rfl

@[simp] theorem lines_nest (n : Nat) (d : Doc) :
    (d.nest n).lines = d.lines.map (Line.shift n) := rfl

@[simp] theorem lines_vcat (docs : List Doc) : (vcat docs).lines = docs.flatMap lines := rfl

@[simp] theorem lines_hang (header : Doc) (n : Nat) (body : Doc) :
    (header.hang n body).lines = header.lines ++ body.lines.map (Line.shift n) := by
  simp [hang]

@[simp] theorem empty_beside (b : Doc) (gap : Gap) : empty.beside b gap = b := rfl

@[simp] theorem beside_empty (a : Doc) (gap : Gap) : a.beside empty gap = a := by
  obtain ⟨lines⟩ := a
  cases lines <;> rfl

/-- Beside, on blocks that both have lines: all but the last line of the first
stay as they are. -/
theorem lines_beside (above : List String) (last first : String) (rest : List String) (gap : Gap) :
    (beside ⟨above ++ [last]⟩ ⟨first :: rest⟩ gap).lines =
      above ++ (last ++ Line.blanks gap.width ++ first) ::
        rest.map (Line.shift (last.length + gap.width)) := by
  cases above <;>
    simp [beside, lastLine, lastWidth, List.dropLast_cons_of_ne_nil, List.getLast?_cons]

@[simp] theorem hsep_nil : hsep [] = empty := rfl

/-- A text is its block rendered. -/
@[simp] theorem render_ofText (text : String) : (ofText text).render = text :=
  Line.join_ofText text

end Doc

end SyntaxReports
