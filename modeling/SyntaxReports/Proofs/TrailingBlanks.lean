import SyntaxReports.Proofs.ReportCalls
import SyntaxReports.Proofs.ReportSuggestion

/-!
# Trailing blanks: no line of a suggestion ends in one

The layout pads lines on the left and puts blanks between words, and both could leave a blank at the
end of a line. Padding does not, as it leaves empty lines alone. A blank between two blocks does not
if the second one begins with something (`Doc.Tidy`), since its first line goes on behind the blank.

So a report on unlisted variables has no trailing blanks, neither in its suggestion nor elsewhere, if
the names and the printed types have none (`UnboundVars.report_trim`). Types may have empty lines of
their own anywhere but at the top.
-/

namespace SyntaxReports

/-! ## Lines and blocks -/

namespace Line

/-- The line does not end in a blank. -/
def IsTrim (line : String) : Prop := line.toList.getLast? ≠ some ' '

instance (line : String) : Decidable (IsTrim line) :=
  inferInstanceAs (Decidable (line.toList.getLast? ≠ some ' '))

/-- What stands in front of something does not matter to where it ends. -/
theorem IsTrim.append {back : String} (hne : back ≠ "") (h : IsTrim back) (front : String) :
    IsTrim (front ++ back) := by
  rw [IsTrim, String.toList_append, List.getLast?_append]
  cases hlast : back.toList.getLast? with
  | none => exact absurd hlast (by simpa using hne)
  | some c => rwa [Option.some_or, ← hlast]

theorem IsTrim.shift {line : String} (h : IsTrim line) (n : Nat) : IsTrim (Line.shift n line) := by
  by_cases hempty : line = ""
  · rw [hempty, shift_empty]
    decide
  · rw [shift_of_ne hempty]
    exact h.append hempty _

end Line

namespace Doc

/-- No line of the block ends in a blank. -/
def IsTrim (d : Doc) : Prop := ∀ line ∈ d.lines, Line.IsTrim line

instance (d : Doc) : Decidable d.IsTrim := List.decidableBAll _ _

/-- No line of the block ends in a blank, and the first one is not empty. -/
structure Tidy (d : Doc) : Prop where
  /-- no line ends in a blank -/
  trim : d.IsTrim
  /-- the block does not begin with an empty line -/
  headed : d.lines.head? ≠ some ""

instance (d : Doc) : Decidable d.Tidy :=
  decidable_of_iff (d.IsTrim ∧ d.lines.head? ≠ some "")
    ⟨fun ⟨htrim, hheaded⟩ => ⟨htrim, hheaded⟩, fun h => ⟨h.trim, h.headed⟩⟩

section

variable {a b : Doc}

theorem isTrim_empty : empty.IsTrim := fun _ h => absurd h List.not_mem_nil

theorem tidy_empty : empty.Tidy := ⟨isTrim_empty, by simp⟩

theorem tidy_singleton {line : String} (hne : line ≠ "") (h : Line.IsTrim line) :
    Tidy ⟨[line]⟩ :=
  ⟨List.forall_mem_singleton.mpr h, by simpa using hne⟩

theorem IsTrim.nest (h : a.IsTrim) (n : Nat) : (a.nest n).IsTrim := by
  intro line hline
  obtain ⟨line, hmem, rfl⟩ := List.mem_map.mp hline
  exact (h line hmem).shift n

/-- The blank between two blocks has the first line of the second one behind it. -/
theorem IsTrim.beside (ha : a.IsTrim) (hb : b.Tidy) : (a.beside b).IsTrim := by
  rcases a.eq_empty_or_concat with rfl | ⟨above, last, rfl⟩
  · exact hb.trim
  rcases b.eq_empty_or_cons with rfl | ⟨first, rest, rfl⟩
  · rwa [beside_empty]
  obtain ⟨hfirst, hrest⟩ := List.forall_mem_cons.mp hb.trim
  have hne : first ≠ "" := by simpa using hb.headed
  intro line hline
  rw [lines_beside, List.mem_append, List.mem_cons, List.mem_map] at hline
  rcases hline with habove | rfl | ⟨line, hmem, rfl⟩
  · exact ha line (List.mem_append_left _ habove)
  · exact hfirst.append hne _
  · exact (hrest line hmem).shift _

theorem Tidy.beside (ha : a.Tidy) (hb : b.Tidy) : (a.beside b).Tidy := by
  refine ⟨ha.trim.beside hb, ?_⟩
  rcases a.eq_empty_or_concat with rfl | ⟨above, last, rfl⟩
  · exact hb.headed
  rcases b.eq_empty_or_cons with rfl | ⟨first, rest, rfl⟩
  · rw [beside_empty]
    exact ha.headed
  rw [lines_beside]
  cases above with
  | nil =>
    -- the first line is the one in which the blocks meet
    have hfirst : first ≠ "" := by simpa using hb.headed
    simp [hfirst]
  | cons top above => exact ha.headed

theorem tidy_hsep {docs : List Doc} (h : ∀ d ∈ docs, d.Tidy) : (hsep docs).Tidy :=
  List.foldlRecOn docs _ tidy_empty fun _ hrow d hd => hrow.beside (h d hd)

theorem isTrim_vcat {docs : List Doc} (h : ∀ d ∈ docs, d.IsTrim) : (vcat docs).IsTrim := by
  intro line hline
  obtain ⟨d, hd, hmem⟩ := List.mem_flatMap.mp hline
  exact h d hd line hmem

theorem IsTrim.hang (ha : a.IsTrim) (hb : b.IsTrim) (n : Nat) : (a.hang n b).IsTrim :=
  isTrim_vcat (List.forall_mem_cons.mpr ⟨ha, List.forall_mem_singleton.mpr (hb.nest n)⟩)

end

end Doc

/-! ## Declarations -/

/-- A name that can stand at the end of a line: there is something to it, it is a single line, and it
does not end in a blank. -/
structure IsTrimName (name : String) : Prop where
  /-- the name is not empty -/
  ne_empty : name ≠ ""
  /-- no line ends in it -/
  unbroken : LineEnd.Unbroken name.toList
  /-- it does not end in a blank -/
  trim : Line.IsTrim name

instance (name : String) : Decidable (IsTrimName name) :=
  decidable_of_iff (name ≠ "" ∧ LineEnd.Unbroken name.toList ∧ Line.IsTrim name)
    ⟨fun ⟨hne, hunbroken, htrim⟩ => ⟨hne, hunbroken, htrim⟩,
      fun h => ⟨h.ne_empty, h.unbroken, h.trim⟩⟩

/-- A printed type that can stand behind a blank: it begins with something, and none of its lines ends
in a blank. Lines may be empty below the first. -/
structure IsTrimText (text : String) : Prop where
  /-- no line ends in a blank, and the first one is not empty -/
  tidy : (Doc.ofText text).Tidy
  /-- lines end in newlines only -/
  newline : ∀ c ∈ text.toList, LineEnd.isEnd c = true → c = '\n'

instance (text : String) : Decidable (IsTrimText text) :=
  -- the characters of the text are looked at, not all that there are
  let _ : Decidable (∀ c ∈ text.toList, LineEnd.isEnd c = true → c = '\n') :=
    List.decidableBAll _ _
  decidable_of_iff
    ((Doc.ofText text).Tidy ∧ ∀ c ∈ text.toList, LineEnd.isEnd c = true → c = '\n')
    ⟨fun ⟨htidy, hnewline⟩ => ⟨htidy, hnewline⟩, fun h => ⟨h.tidy, h.newline⟩⟩

theorem IsTrimName.tidy {name : String} (h : IsTrimName name) : (Doc.ofText name).Tidy := by
  rw [Doc.ofText_eq h.unbroken.newline_not_mem]
  exact Doc.tidy_singleton h.ne_empty h.trim

theorem Constructor.isTrim_alternative {mark : String} (hmark : mark ∈ Definition.marks)
    {c : Constructor String} (hname : IsTrimName c.name)
    (hargs : ∀ arg ∈ c.args, (Doc.ofText arg).Tidy) : (c.alternative mark).IsTrim := by
  have hmarks : ∀ mark ∈ Definition.marks, (Doc.ofText mark).IsTrim := by decide
  apply (hmarks mark hmark).beside
  apply Doc.tidy_hsep
  rw [← List.map_cons, List.forall_mem_map, List.forall_mem_cons]
  exact ⟨hname.tidy, hargs⟩

/-- The body of a definition has no trailing blanks. Only arguments need to begin with something, as
nothing is put in front of the type of a synonym. -/
theorem Definition.isTrim_body {d : Definition String} (hnames : ∀ name ∈ d.names, IsTrimName name)
    (htypes : ∀ q ∈ d.types, (Doc.ofText q.2).IsTrim)
    (hargs : ∀ q ∈ d.types, q.1 = .argument → (Doc.ofText q.2).Tidy) : d.body.IsTrim := by
  rcases d with text | constructors
  · exact htypes (.standalone, text) (List.mem_singleton_self _)
  obtain ⟨blocks, hbody, hblocks⟩ := body_union constructors
  rw [hbody]
  apply Doc.isTrim_vcat
  intro block hblock
  obtain ⟨c, hc, mark, hmark, rfl⟩ := hblocks block hblock
  apply Constructor.isTrim_alternative hmark (hnames _ (List.mem_map_of_mem hc))
  intro arg harg
  exact hargs (.argument, arg) (mem_types_of_arg hc harg) rfl

namespace Declaration

theorem isTrim_header {α : Type} {d : Declaration α}
    (h : ∀ word ∈ d.name :: d.vars, IsTrimName word) : d.header.IsTrim := by
  have hown : ∀ word ∈ ["type alias", "type", "="], IsTrimName word := by decide
  have htidy : ∀ word ∈ d.definition.keyword :: d.definition.closing,
      (Doc.ofText word).Tidy := by
    intro word hword
    apply IsTrimName.tidy
    apply hown
    revert word
    rcases d.definition with _ | _ <;> simp [Definition.keyword, Definition.closing]
  obtain ⟨hkeyword, hclosing⟩ := List.forall_mem_cons.mp htidy
  refine (Doc.tidy_hsep ?_).trim
  rw [List.forall_mem_map, List.cons_append, List.forall_mem_cons, List.forall_mem_append]
  exact ⟨hkeyword, fun word hword => (h word hword).tidy, hclosing⟩

/-- Declarations have no trailing blanks. -/
theorem isTrim_doc {d : Declaration String} (hnames : ∀ name ∈ d.names, IsTrimName name)
    (htypes : ∀ q ∈ d.definition.types, (Doc.ofText q.2).IsTrim)
    (hargs : ∀ q ∈ d.definition.types, q.1 = .argument → (Doc.ofText q.2).Tidy) (n : Nat) :
    (d.doc n).IsTrim := by
  obtain ⟨hheader, hbody⟩ := List.forall_mem_append.mp hnames
  exact (isTrim_header hheader).hang (Definition.isTrim_body hbody htypes hargs) n

end Declaration

/-! ## Answers of a printer -/

/-- Only answers are filled in, or nothing where a synonym has none. -/
theorem Definition.mem_types_fill {α : Type} {d : Definition α} {answers : List String}
    {q : Position × String} (h : q ∈ (d.fill answers).types) :
    q.2 ∈ answers ∨ q = (.standalone, "") := by
  cases d with
  | synonym type =>
    obtain rfl := List.mem_singleton.mp h
    cases answers with
    | nil => exact .inr rfl
    | cons answer answers => exact .inl List.mem_cons_self
  | union constructors =>
    obtain ⟨c, hc, hmem⟩ := List.mem_flatMap.mp h
    obtain ⟨arg, harg, rfl⟩ := List.mem_map.mp hmem
    exact .inl (Constructor.mem_of_mem_fillAll hc harg)

/-- Filling in leaves the names as they are. -/
theorem Declaration.names_fill {α : Type} (answers : List String) (d : Declaration α) :
    (d.fill answers).names = d.names := by
  obtain ⟨name, vars, type | constructors⟩ := d
  · rfl
  · exact congrArg (name :: vars ++ ·) (Constructor.map_name_fillAll constructors answers)

/-! ## Texts -/

/-- No line of the text ends in a blank, neither if it is cut at newlines nor if it is cut wherever a
line may end. -/
structure IsTrimmed (text : String) : Prop where
  /-- the lines between newlines -/
  lines : ∀ line ∈ Line.ofText text, Line.IsTrim line
  /-- the lines that end in any way -/
  endedLines : ∀ line ∈ LineEnd.lines text, Line.IsTrim line

theorem isTrimmed_join {lines : List String} (hne : lines ≠ [])
    (hunbroken : ∀ line ∈ lines, LineEnd.Unbroken line.toList)
    (htrim : ∀ line ∈ lines, Line.IsTrim line) : IsTrimmed (Line.join lines) := by
  constructor
  · rwa [Line.ofText_join hne fun line hline => (hunbroken line hline).newline_not_mem]
  · intro line hline
    exact htrim line (LineEnd.mem_of_mem_lines_join hunbroken hline)

/-! ## Reports -/

namespace Report

/-- The lines of a report on unlisted variables above its suggestion. -/
def introductionLines (typeName first : String) : List String :=
  ["All type variables must be listed to avoid sneaky type errors.",
    "Imagine one '" ++ typeName ++ "' where '" ++ first ++ "' is an Int and",
    "another where it is a Bool. They both look like a '" ++ typeName ++ "'",
    "to the type checker, but they are actually different types!",
    "",
    "Maybe you want a definition like this?"]

/-- The introduction is made of whole lines, and the last one of them is empty. -/
theorem unboundIntroduction_eq (typeName first : String) :
    unboundIntroduction typeName first = Line.join (introductionLines typeName first ++ [""]) := by
  have herrors : "All type variables must be listed to avoid sneaky type errors.\n" =
      "All type variables must be listed to avoid sneaky type errors." ++ "\n" := by simp
  have hint : "' is an Int and\n" = "' is an Int and" ++ "\n" := by simp
  have hquote : "'\n" = "'" ++ "\n" := by simp
  have htypes : "to the type checker, but they are actually different types!\n\n" =
      "to the type checker, but they are actually different types!" ++ "\n" ++ "\n" := by simp
  have hmaybe : "Maybe you want a definition like this?\n" =
      "Maybe you want a definition like this?" ++ "\n" := by simp
  unfold unboundIntroduction introductionLines
  simp only [herrors, hint, hquote, htypes, hmaybe, List.cons_append, List.nil_append,
    Line.join_cons_cons, Line.join_singleton, String.append_assoc, String.append_empty,
    String.empty_append]

/-- The lines of a report: the introduction, an empty line, and those of the suggestion, moved to the
right. -/
theorem body_unboundVars (typeName first : String) (rest : List String) (suggestion : String)
    (indent : Int) :
    (unboundVars typeName first rest suggestion indent).body =
      Line.join (introductionLines typeName first ++ [""] ++
        (LineEnd.lines suggestion).map (Line.shift indent.toNat)) := by
  change unboundIntroduction typeName first ++ snippet indent suggestion = _
  rw [unboundIntroduction_eq]
  by_cases hlines : LineEnd.lines suggestion = []
  · rw [snippet, hlines, List.map_nil, List.map_nil, String.join_nil, String.append_empty,
      List.append_nil]
  · have hmap : (LineEnd.lines suggestion).map (Line.shift indent.toNat) ≠ [] :=
      fun h => hlines (List.map_eq_nil_iff.mp h)
    rw [snippet_eq hlines, Line.join_append (List.concat_ne_nil _ _) hmap, String.append_assoc]

theorem unbroken_introductionLines {typeName first : String}
    (hname : LineEnd.Unbroken typeName.toList) (hfirst : LineEnd.Unbroken first.toList) :
    ∀ line ∈ introductionLines typeName first, LineEnd.Unbroken line.toList := by
  simp only [introductionLines, List.forall_mem_cons, String.toList_append, String.reduceToList,
    LineEnd.unbroken_append, hname, hfirst, and_true]
  decide

theorem isTrim_introductionLines (typeName first : String) :
    ∀ line ∈ introductionLines typeName first, Line.IsTrim line := by
  -- the names stand in the middle of their lines
  have hint : Line.IsTrim "' is an Int and" := by simp [Line.IsTrim]
  have hquote : Line.IsTrim "'" := by simp [Line.IsTrim]
  simp only [introductionLines, List.forall_mem_cons]
  refine ⟨?_, hint.append (by decide) _, hquote.append (by decide) _, ?_⟩
  · simp [Line.IsTrim]
  · simp [Line.IsTrim]

/-- A report brings in no blanks at the ends of lines: its introduction has none, and the lines of the
suggestion are only moved. -/
theorem isTrimmed_body {typeName first : String} (hname : LineEnd.Unbroken typeName.toList)
    (hfirst : LineEnd.Unbroken first.toList) (rest : List String) {suggestion : String}
    (h : IsTrimmed suggestion) (indent : Int) :
    IsTrimmed (unboundVars typeName first rest suggestion indent).body := by
  rw [body_unboundVars]
  apply isTrimmed_join
  · exact List.append_ne_nil_of_left_ne_nil (List.concat_ne_nil _ _) _
  · rw [List.forall_mem_append, List.forall_mem_append, List.forall_mem_singleton,
      List.forall_mem_map]
    refine ⟨⟨unbroken_introductionLines hname hfirst, List.forall_mem_nil _⟩, fun line hline => ?_⟩
    intro c hc
    rcases Line.mem_shift hc with rfl | hc
    · decide
    · exact LineEnd.unbroken_of_mem_lines hline c hc
  · rw [List.forall_mem_append, List.forall_mem_append, List.forall_mem_singleton,
      List.forall_mem_map]
    refine ⟨⟨isTrim_introductionLines typeName first, by decide⟩, fun line hline => ?_⟩
    exact (h.endedLines line hline).shift _

end Report

/-- A declaration without trailing blanks in its names and types has none in its text. -/
theorem Declaration.isTrimmed_text {d : Declaration String}
    (hnames : ∀ name ∈ d.names, IsTrimName name)
    (htypes : ∀ q ∈ d.definition.types, (Doc.ofText q.2).IsTrim ∧
      ∀ c ∈ q.2.toList, LineEnd.isEnd c = true → c = '\n')
    (hargs : ∀ q ∈ d.definition.types, q.1 = .argument → (Doc.ofText q.2).Tidy) (n : Nat) :
    IsTrimmed (d.text n) := by
  apply isTrimmed_join (lines_ne_nil d n)
  · exact unbroken_doc (fun name hname => (hnames name hname).unbroken)
      (fun q hq => (htypes q hq).2) n
  · exact isTrim_doc hnames (fun q hq => (htypes q hq).1) hargs n

namespace UnboundVars

/-- The declaration has no trailing blanks with any answers that have none. -/
theorem isTrimmed_completed {u : UnboundVars} (hnames : ∀ name ∈ u.completed.names, IsTrimName name)
    {answers : List String} (hanswers : ∀ answer ∈ answers, IsTrimText answer) (n : Nat) :
    IsTrimmed ((u.completed.fill answers).text n) := by
  apply Declaration.isTrimmed_text
  · rwa [Declaration.names_fill]
  · intro q hq
    rcases Definition.mem_types_fill hq with hanswer | rfl
    · exact ⟨(hanswers _ hanswer).tidy.trim, (hanswers _ hanswer).newline⟩
    · exact ⟨List.forall_mem_singleton.mpr (by decide), fun _ hc => absurd hc List.not_mem_nil⟩
  · intro q hq hargument
    rcases Definition.mem_types_fill hq with hanswer | rfl
    · exact (hanswers _ hanswer).tidy
    · cases hargument

/-- **Reports on unlisted variables have no trailing blanks**, neither in the completed declaration
nor anywhere in the body, if names and printed types have none. Printed types may have empty lines
behind their first one, where the layout does not pad. -/
theorem report_trim {m : Type → Type} [Monad m] [LawfulMonad m] [MonadLiftT (Except Fault) m]
    [LawfulMonadLiftT (Except Fault) m] [MonadGenerator m] {u : UnboundVars}
    (hnames : ∀ name ∈ u.completed.names, IsTrimName name) (printer : TypePrinter m) (n : Nat) :
    ∃ (corrected : List String → String) (report : List String → Report),
      u.completed.print printer n = corrected <$> printer.asked.askAll u.definition.types ∧
      (∀ settings? printer?, Settings.choose settings? printer? = .ok ⟨printer, n⟩ →
        (Failure.unboundVars u).report settings? printer? =
          report <$> printer.asked.askAll u.definition.types) ∧
      ∀ answers, (∀ answer ∈ answers, IsTrimText answer) →
        IsTrimmed (corrected answers) ∧ IsTrimmed (report answers).body := by
  obtain ⟨written, hwritten⟩ : ∃ written : Nat → List String → Report, ∀ indent answers,
      written indent answers = .unboundVars u.typeName u.first u.rest
        ((u.completed.fill answers).text indent) indent := ⟨_, fun _ _ => rfl⟩
  have hwrite : ∀ indent answers,
      (Failure.unboundVars u).write indent answers = .ok (written indent answers) := by
    intro indent answers
    rw [hwritten]
    rfl
  have hname : LineEnd.Unbroken u.typeName.toList :=
    (hnames u.typeName List.mem_cons_self).unbroken
  have hfirst : LineEnd.Unbroken u.first.toList := by
    apply IsTrimName.unbroken
    apply hnames
    simp [completed, all, unbound, Declaration.names]
  refine ⟨fun answers => (u.completed.fill answers).text n, written n,
    Declaration.print_eq printer u.completed n, ?_, ?_⟩
  · intro settings? printer? hsettings
    exact Failure.report_eq hwrite hsettings
  · intro answers hanswers
    have hcompleted := isTrimmed_completed hnames hanswers n
    rw [hwritten]
    exact ⟨hcompleted, Report.isTrimmed_body hname hfirst u.rest hcompleted n⟩

/-- Types with an empty line in the middle and one at the end, side by side. -/
theorem report_trim_broken_types :
    let tree : UnboundVars := ⟨"Tree", ["a"], "b", [], .union [⟨"Node", [.var "a", .var "b"]⟩]⟩
    let printer : TypePrinter (Except Fault) := fun _ _ => .ok "(\n\n)\n"
    (∀ name ∈ tree.completed.names, IsTrimName name) ∧ IsTrimText "(\n\n)\n" ∧
      ∃ corrected report, tree.completed.print printer 2 = .ok corrected ∧
        (Failure.unboundVars tree).report (some ⟨printer, 2⟩) = .ok report ∧
        IsTrimmed corrected ∧ IsTrimmed report.body := by
  intro tree printer
  have hnames : ∀ name ∈ tree.completed.names, IsTrimName name := by decide
  have htext : IsTrimText "(\n\n)\n" := by decide
  have hasked : printer.askAll tree.definition.types = .ok ["(\n\n)\n", "(\n\n)\n"] := rfl
  obtain ⟨corrected, report, hprint, hreport, htrim⟩ := report_trim hnames printer 2
  obtain ⟨hcorrected, hbody⟩ := htrim ["(\n\n)\n", "(\n\n)\n"] <| by
    rw [List.forall_mem_cons, List.forall_mem_singleton]
    exact ⟨htext, htext⟩
  rw [TypePrinter.asked_eq_self, hasked] at hprint hreport
  exact ⟨hnames, htext, _, _, hprint, hreport (some ⟨printer, 2⟩) none rfl, hcorrected, hbody⟩

end UnboundVars

end SyntaxReports
