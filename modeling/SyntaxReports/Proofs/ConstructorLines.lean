import Mathlib.Algebra.GroupWithZero.Nat
import SyntaxReports.Proofs.DeclarationAlignment

/-!
# Blocks of declarations: constructors do not interfere

In the text of a union each constructor has a block of whole lines (`Constructor.lines`). The block is
a function of the constructor, the indent, and whether the constructor is the first of the union; so a
constructor more leaves the lines above as they are, and constructors behind the first one can change
places along with their blocks.

`Declaration.print_union_append` says so for every printer. One that fails or remembers is asked for
the further constructors after it was asked for those before them, as if the declaration had ended
there.
-/

namespace SyntaxReports

/-! ## Blocks -/

namespace Constructor

/-- The lines of a constructor in a union: behind an equals sign if it is the first, and behind a bar
if it is not. -/
def lines (n : Nat) (first : Bool) (c : Constructor String) : List String :=
  ((c.alternative (if first then "=" else "|")).nest n).lines

/-- The blocks of constructors that stand below each other. Only the one at the top may be the first
of the union. -/
def linesAll (n : Nat) : (first : Bool) → List (Constructor String) → List (List String)
  | _, [] => []
  | first, c :: constructors => c.lines n first :: linesAll n false constructors

theorem mark_mem_marks (first : Bool) : (if first then "=" else "|") ∈ Definition.marks := by
  cases first <;> decide

theorem linesAll_false (n : Nat) (constructors : List (Constructor String)) :
    linesAll n false constructors = constructors.map (lines n false) := by
  induction constructors with
  | nil => rfl
  | cons c constructors ih => rw [linesAll, ih, List.map_cons]

/-- What is above tells a constructor no more than whether it is the first. -/
theorem linesAll_append (n : Nat) (first : Bool) (above below : List (Constructor String)) :
    linesAll n first (above ++ below) =
      linesAll n first above ++ linesAll n (first && above.isEmpty) below := by
  cases above with
  | nil => simp [linesAll]
  | cons c above => simp [linesAll, linesAll_false]

theorem rowsBeside_eq (text : String) (texts : List String) :
    Line.rowsBeside (text :: texts) =
      (Line.ofText text).length + (texts.map fun t => (Line.ofText t).length - 1).sum := by
  have hfoldl : ∀ rows, texts.foldl (fun rows t => rows + ((Line.ofText t).length - 1)) rows =
      rows + (texts.map fun t => (Line.ofText t).length - 1).sum := by
    intro rows
    induction texts generalizing rows with
    | nil => rfl
    | cons t texts ih => rw [List.foldl_cons, ih, List.map_cons, List.sum_cons, Nat.add_assoc]
  have hpos : 0 < (Line.ofText text).length := List.length_pos_iff.mpr (Line.ofText_ne_nil text)
  rw [Line.rowsBeside, List.foldl_cons, hfoldl, Nat.add_sub_of_le hpos]

/-- A block has the lines of the name, and for each argument as many more as that has beyond its first
line. -/
theorem length_lines (n : Nat) (first : Bool) (c : Constructor String) :
    (c.lines n first).length =
      (Line.ofText c.name).length + (c.args.map fun arg => (Line.ofText arg).length - 1).sum := by
  obtain ⟨hmark, -⟩ := Definition.marks_single _ (mark_mem_marks first)
  rw [lines, Doc.lines_nest, List.length_map, ← rowsBeside_eq, ← height_alternative hmark]
  rfl

theorem lines_ne_nil (n : Nat) (first : Bool) (c : Constructor String) : c.lines n first ≠ [] := by
  have hpos : 0 < (Line.ofText c.name).length :=
    List.length_pos_iff.mpr (Line.ofText_ne_nil c.name)
  rw [← List.length_pos_iff, length_lines]
  omega

/-- Blocks are made of whole lines. -/
theorem newline_not_mem_lines (n : Nat) (first : Bool) (c : Constructor String) :
    ∀ line ∈ c.lines n first, '\n' ∉ line.toList := by
  obtain ⟨hmark, -⟩ := Definition.marks_single _ (mark_mem_marks first)
  have honly : (c.alternative (if first then "=" else "|")).Only (· ≠ '\n') :=
    only_alternative (by decide) (fun _ hx hnewline => hmark (hnewline ▸ hx)) fun _ _ _ _ hx => hx
  intro line hline hmem
  exact honly.nest (by decide) n line hline '\n' hmem rfl

theorem flatten_linesAll_ne_nil (n : Nat) (first : Bool) {constructors : List (Constructor String)}
    (h : constructors ≠ []) : (linesAll n first constructors).flatten ≠ [] := by
  obtain ⟨c, constructors, rfl⟩ := List.exists_cons_of_ne_nil h
  rw [linesAll, List.flatten_cons]
  exact List.append_ne_nil_of_left_ne_nil (lines_ne_nil n first c) _

end Constructor

/-! ## Unions -/

theorem Definition.lines_nest_body (n : Nat) (constructors : List (Constructor String)) :
    ((union constructors).body.nest n).lines = (Constructor.linesAll n true constructors).flatten := by
  cases constructors with
  | nil => rfl
  | cons first others =>
    have hothers : ∀ others : List (Constructor String),
        ((others.map (·.alternative "|")).flatMap Doc.lines).map (Line.shift n) =
          (others.map (Constructor.lines n false)).flatten := by
      intro others
      rw [List.flatMap_map, List.map_flatMap, List.flatMap_def]
      rfl
    rw [body, Doc.lines_nest, Doc.lines_vcat, List.flatMap_cons, List.map_append, hothers,
      Constructor.linesAll, Constructor.linesAll_false, List.flatten_cons]
    rfl

namespace Declaration

variable {name : String} {vars : List String}

/-- The lines of a union are those of its header and those of its blocks. -/
theorem lines_union (n : Nat) (constructors : List (Constructor String)) :
    (doc n ⟨name, vars, .union constructors⟩).lines =
      (doc n ⟨name, vars, .union []⟩).lines ++ (Constructor.linesAll n true constructors).flatten := by
  rw [doc, Doc.hang, Doc.lines_vcat, List.flatMap_cons, List.flatMap_singleton,
    Definition.lines_nest_body, doc, Doc.lines_hang]
  exact congrArg (· ++ _) (List.append_nil _).symm

/-- Further constructors add their blocks at the end. -/
theorem lines_union_append (n : Nat) (above below : List (Constructor String)) :
    (doc n ⟨name, vars, .union (above ++ below)⟩).lines =
      (doc n ⟨name, vars, .union above⟩).lines ++
        (Constructor.linesAll n above.isEmpty below).flatten := by
  rw [lines_union, Constructor.linesAll_append, List.flatten_append, ← List.append_assoc,
    ← lines_union, Bool.true_and]

/-- Further constructors go on with the text of a union on a line of their own. -/
theorem text_union_append (n : Nat) (above below : List (Constructor String)) :
    text n ⟨name, vars, .union (above ++ below)⟩ =
      if below.isEmpty then text n ⟨name, vars, .union above⟩
      else text n ⟨name, vars, .union above⟩ ++ "\n" ++
        Line.join (Constructor.linesAll n above.isEmpty below).flatten := by
  by_cases hbelow : below = []
  · rw [hbelow, List.append_nil, List.isEmpty_nil, if_pos rfl]
  · rw [if_neg (by rwa [List.isEmpty_iff]), text, Doc.render, lines_union_append,
      Line.join_append (lines_ne_nil _ n) (Constructor.flatten_linesAll_ne_nil n _ hbelow)]
    rfl

end Declaration

/-! ## Printing -/

theorem Definition.types_append {α : Type} (above below : List (Constructor α)) :
    (union (above ++ below)).types = (union above).types ++ (union below).types :=
  List.flatMap_append

theorem Constructor.isEmpty_fillAll {α β : Type} (constructors : List (Constructor α))
    (answers : List β) : (fillAll constructors answers).isEmpty = constructors.isEmpty := by
  cases constructors <;> rfl

/-- Answers to all calls for some constructors are filled in there, and what is left below. -/
theorem Constructor.fillAll_append_of_length {α β : Type} {above : List (Constructor α)}
    {own : List β} (hown : own.length = (Definition.union above).types.length)
    (below : List (Constructor α)) (others : List β) :
    fillAll (above ++ below) (own ++ others) = fillAll above own ++ fillAll below others := by
  induction above generalizing own with
  | nil =>
    obtain rfl : own = [] := List.length_eq_zero_iff.mp hown
    rfl
  | cons c above ih =>
    have hlength : own.length = c.args.length + (Definition.union above).types.length := by
      rw [hown, Definition.types, List.flatMap_cons, List.length_append, List.length_map]
      rfl
    have hdrop : (own.drop c.args.length).length = (Definition.union above).types.length := by
      rw [List.length_drop, hlength, Nat.add_sub_cancel_left]
    have hle : c.args.length ≤ own.length := by omega
    rw [List.cons_append, fillAll, fillAll, List.take_append_of_le_length hle,
      List.drop_append_of_le_length hle, ih hdrop, List.cons_append]

/-- The items of a list at some indices, in the order in which these come. -/
def rearranged {α : Type} (order : List Nat) (xs : List α) : List α :=
  order.filterMap fun i => xs[i]?

theorem map_rearranged {α β : Type} (f : α → β) (order : List Nat) (xs : List α) :
    (rearranged order xs).map f = rearranged order (xs.map f) := by
  simp [rearranged, List.map_filterMap]

theorem mem_of_mem_rearranged {α : Type} {order : List Nat} {xs : List α} {x : α}
    (h : x ∈ rearranged order xs) : x ∈ xs := by
  obtain ⟨i, -, hi⟩ := List.mem_filterMap.mp h
  exact List.mem_of_getElem? hi

namespace Declaration

variable {m : Type → Type} [Monad m] [LawfulMonad m] [MonadLiftT (Except Fault) m]
  [LawfulMonadLiftT (Except Fault) m] [MonadGenerator m] {printer : TypePrinter m}
  {name : String} {vars : List String}

/-- A union is printed by printing it without its last constructors, and going on with those. -/
theorem print_union_below (printer : TypePrinter m) (name : String) (vars : List String)
    (above below : List (Constructor TypeExpr)) (n : Nat) :
    print printer n ⟨name, vars, .union (above ++ below)⟩ = (do
      let text ← print printer n ⟨name, vars, .union above⟩
      let answers ← printer.asked.askAll (Definition.union below).types
      pure (if below.isEmpty then text else text ++ "\n" ++ Line.join
        (Constructor.linesAll n above.isEmpty (Constructor.fillAll below answers)).flatten)) := by
  rw [print_union, print_union, Definition.types_append, TypePrinter.askAll_append,
    map_eq_pure_bind, bind_assoc, bind_map_left]
  -- the answers for the constructors above are as many as their arguments
  refine mapM_bind_congr fun own hown => ?_
  rw [bind_assoc]
  refine bind_congr fun others => ?_
  rw [pure_bind, Constructor.fillAll_append_of_length hown, text_union_append,
    Constructor.isEmpty_fillAll, Constructor.isEmpty_fillAll]

variable [LawfulMonadGenerator m]

/-- Constructors behind the first may be taken in any order, and their lines are in that order. -/
theorem print_union_rearranged {texts : TypeExpr → String} {first : Constructor TypeExpr}
    {others : List (Constructor TypeExpr)}
    (htexts : ∀ c ∈ first :: others, ∀ arg ∈ c.args, printer .argument arg = pure (texts arg))
    (n : Nat) (order : List Nat) :
    ∃ text, print printer n ⟨name, vars, .union (first :: rearranged order others)⟩ = pure text ∧
      Line.ofText text = (doc n ⟨name, vars, .union []⟩).lines ++
        (first.map texts).lines n true ++
          (rearranged order (others.map fun c => (c.map texts).lines n false)).flatten := by
  have hpure : ∀ p ∈ (Definition.union (first :: rearranged order others)).types,
      printer p.1 p.2 = pure (texts p.2) := by
    intro p hp
    obtain ⟨c, hc, hmem⟩ := List.mem_flatMap.mp hp
    obtain ⟨arg, harg, rfl⟩ := List.mem_map.mp hmem
    refine htexts c ?_ arg harg
    rcases List.mem_cons.mp hc with rfl | hc
    · exact List.mem_cons_self
    · exact List.mem_cons_of_mem _ (mem_of_mem_rearranged hc)
  have hprint : print printer n ⟨name, vars, .union (first :: rearranged order others)⟩ =
      pure (text n (map (fun _ => texts)
        ⟨name, vars, .union (first :: rearranged order others)⟩)) :=
    print_eq_pure hpure n
  refine ⟨_, hprint, ?_⟩
  rw [ofText_text, map, Definition.map, lines_union, List.map_cons, Constructor.linesAll,
    Constructor.linesAll_false, List.flatten_cons, List.append_assoc, map_rearranged,
    map_rearranged, List.map_map]
  rfl

/-- **Constructors do not interfere.** A union with further constructors has the text that it has
without them; below, behind a newline, it has the lines of the further ones, which are made from each
of them alone but for the equals sign in front of the first of all. How many lines these are follows
from the lines of the name and of the printed arguments. So constructors behind the first one can be
taken in any order, and their lines come in that order. -/
theorem print_union_append (printer : TypePrinter m) (name : String) (vars : List String)
    (n : Nat) :
    (∀ above below, print printer n ⟨name, vars, .union (above ++ below)⟩ = do
      let text ← print printer n ⟨name, vars, .union above⟩
      let answers ← printer.asked.askAll (Definition.union below).types
      pure (if below.isEmpty then text else text ++ "\n" ++ Line.join
        (Constructor.linesAll n above.isEmpty (Constructor.fillAll below answers)).flatten)) ∧
      (∀ first (c : Constructor String),
        (∀ line ∈ c.lines n first, '\n' ∉ line.toList) ∧
        (c.lines n first).length = (Line.ofText c.name).length +
          (c.args.map fun arg => (Line.ofText arg).length - 1).sum) ∧
      ∀ (texts : TypeExpr → String) first others,
        (∀ c ∈ first :: others, ∀ arg ∈ c.args, printer .argument arg = pure (texts arg)) →
          ∃ head, ∀ order, ∃ text,
            print printer n ⟨name, vars, .union (first :: rearranged order others)⟩ = pure text ∧
            Line.ofText text = head ++
              (rearranged order (others.map fun c => (c.map texts).lines n false)).flatten := by
  refine ⟨fun above below => print_union_below printer name vars above below n,
    fun first c => ⟨c.newline_not_mem_lines n first, c.length_lines n first⟩, ?_⟩
  intro texts first others htexts
  exact ⟨_, fun order => print_union_rearranged htexts n order⟩

/-- Three constructors of which the second has an argument of three lines, one of them empty, and the
third a name of two; then the second and the third in the other order. -/
theorem print_union_append_swapped :
    let printer : TypePrinter (Except Fault) := fun _ _ => .ok "( a,\n\n  b )"
    let first : Constructor TypeExpr := ⟨"A", []⟩
    let others : List (Constructor TypeExpr) := [⟨"B", [.var "a"]⟩, ⟨"C\nD", []⟩]
    (∃ text, print printer 2 ⟨"T", [], .union ([first] ++ others)⟩ = .ok text ∧
      Line.ofText text =
        ["type T", "  = A", "  | B ( a,", "", "        b )", "  | C", "    D"]) ∧
    ∃ head, ∀ order, ∃ text,
      print printer 2 ⟨"T", [], .union (first :: rearranged order others)⟩ = .ok text ∧
      Line.ofText text = head ++
        (rearranged order [["  | B ( a,", "", "        b )"], ["  | C", "    D"]]).flatten := by
  intro printer first others
  obtain ⟨hbelow, -, hrearranged⟩ := print_union_append printer "T" [] 2
  refine ⟨⟨_, (hbelow [first] others).trans rfl, by decide⟩, ?_⟩
  exact hrearranged (fun _ => "( a,\n\n  b )") first others fun _ _ _ _ => rfl

end Declaration

end SyntaxReports
