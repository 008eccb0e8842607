import Mathlib.Algebra.BigOperators.Group.Finset.Piecewise
import Mathlib.Tactic.IntervalCases
import SyntaxReports.Benchmark.Sample
import SyntaxReports.Proofs.ReportGrowth
import SyntaxReports.Proofs.WrittenValues

/-!
# Samples: how many characters a run writes

All failures in a sample have a report, so that there is always a total (`Sample.total_eq`): a sum over
the numbers of the failures (`Sample.totalSize_range`). A failure is made from its number and the number
of constructors alone, so a smaller sample is the beginning of a larger one and has that part of the
total.

The number of constructors matters to unions only, and each one more is a line more in the report. The
line has a fixed number of characters besides the number of the failure, in the type variable, and the
number of the constructor, in its name. `Sample.total_growth` puts this together.
-/

namespace SyntaxReports

namespace Sample

/-! ## The reports on a sample -/

/-- In turns of nine, the last failure is over a union. -/
theorem failure_union {i : Nat} (h : i % 9 = 8) (unionSize : Nat) :
    failure unionSize i = .unboundVars ⟨"Name" ++ toString i, [], "t" ++ toString i, [],
      .union (constructors unionSize ("t" ++ toString i))⟩ := by
  simp only [failure, h]

/-- Other failures do not depend on the size of unions. -/
theorem failure_eq {i : Nat} (h : i % 9 ≠ 8) (unionSize unionSize' : Nat) :
    failure unionSize i = failure unionSize' i := by
  have hlt : i % 9 < 8 := by omega
  rw [failure, failure]
  generalize i % 9 = kind at hlt
  interval_cases kind <;> rfl

/-- Nothing in a sample is foreign. -/
theorem foreigns_failure (unionSize i : Nat) : (failure unionSize i).foreigns = [] := by
  unfold failure
  split <;> rfl

theorem foreigns_calls (unionSize i : Nat) :
    ∀ call ∈ (failure unionSize i).calls, call.2.foreigns = [] := by
  unfold failure
  split
  all_goals simp [Failure.calls, Definition.types, constructors, runner]

/-- The report on the failure of a number. -/
def report (unionSize i : Nat) : Report := (failure unionSize i).standardReport

theorem report_failure (unionSize i : Nat) :
    (failure unionSize i).report = (.ok (report unionSize i) : Except Fault Report) :=
  Failure.report_eq_standardReport (foreigns_failure unionSize i) (foreigns_calls unionSize i)

theorem reports_eq (size unionSize : Int) :
    reports size unionSize = .ok ((List.range size.toNat).map (report unionSize.toNat)) := by
  rw [reports, failures, List.mapM_map]
  exact mapM_eq_pure fun i _ => report_failure unionSize.toNat i

/-! ## Totals -/

theorem totalSize_eq (reports : List Report) :
    totalSize reports = (reports.map fun r => r.title.length + r.body.length).sum := by
  induction reports with
  | nil => rfl
  | cons r reports ih =>
    rw [List.map_cons, List.sum_cons, ← ih]
    rfl

theorem totalSize_append (reports reports' : List Report) :
    totalSize (reports ++ reports') = totalSize reports + totalSize reports' := by
  rw [totalSize_eq, totalSize_eq, totalSize_eq, List.map_append, List.sum_append]

/-- There is always a total, because all failures in a sample have a report. -/
theorem total_eq (size unionSize : Int) :
    total size unionSize =
      .ok (totalSize ((List.range size.toNat).map (report unionSize.toNat))) := by
  rw [total, reports_eq]
  rfl

/-- It is a sum over the numbers of the failures. -/
theorem totalSize_range (count unionSize : Nat) :
    totalSize ((List.range count).map (report unionSize)) =
      ∑ i ∈ Finset.range count, reportSize (report unionSize i) := by
  rw [totalSize_eq, List.map_map]
  rfl

/-! ## A smaller sample -/

theorem take_failures {size size' : Int} (h : size ≤ size') (unionSize : Int) :
    (failures size' unionSize).take size.toNat = failures size unionSize := by
  rw [failures, ← List.map_take, List.take_range, Nat.min_eq_left (Int.toNat_le_toNat h), failures]

/-- The reports on what a smaller sample leaves out. -/
theorem mapM_drop_failures (size size' unionSize : Int) :
    ((failures size' unionSize).drop size.toNat).mapM Failure.report =
      (.ok (((List.range size'.toNat).drop size.toNat).map (report unionSize.toNat)) :
        Except Fault _) := by
  rw [failures, ← List.map_drop, List.mapM_map]
  exact mapM_eq_pure fun i _ => report_failure unionSize.toNat i

/-- They make up the rest of the total. -/
theorem total_drop {size size' : Int} (h : size ≤ size') (unionSize : Int) :
    total size' unionSize =
      .ok (totalSize ((List.range size.toNat).map (report unionSize.toNat)) +
        totalSize (((List.range size'.toNat).drop size.toNat).map (report unionSize.toNat))) := by
  have htake : (List.range size'.toNat).take size.toNat = List.range size.toNat := by
    rw [List.take_range, Nat.min_eq_left (Int.toNat_le_toNat h)]
  rw [← totalSize_append, ← List.map_append, ← htake, List.take_append_drop, total_eq]

/-! ## One constructor more -/

/-- A constructor of the union in a sample, printed. -/
def printedConstructor (var : String) (j : Nat) : Constructor String :=
  ⟨"Ctor" ++ toString j, ["(List " ++ var ++ ")"]⟩

theorem map_constructors (count : Nat) (var : String) :
    (constructors count var).map (Constructor.map (TypeExpr.text .argument)) =
      (List.range count).map (printedConstructor var) := by
  have htext : (TypeExpr.app (.con "List") [.var var]).text .argument = "(List " ++ var ++ ")" := by
    apply String.toList_inj.mp
    rw [TypeExpr.toList_text_app_argument, TypeExpr.toList_text_app]
    simp [TypeExpr.text]
  rw [constructors, List.map_map]
  refine List.map_congr_left fun j _ => ?_
  rw [Function.comp_apply, Constructor.map, List.map_singleton, htext, printedConstructor]

theorem unbroken_printedConstructor {var : String} (hvar : LineEnd.Unbroken var.toList) (j : Nat) :
    ∀ text ∈ (printedConstructor var j).name :: (printedConstructor var j).args,
      LineEnd.Unbroken text.toList := by
  refine List.forall_mem_cons.mpr ⟨?_, List.forall_mem_singleton.mpr ?_⟩
  · exact (LineEnd.unbroken_preceded (by decide)).mpr (LineEnd.unbroken_toString j)
  · exact (LineEnd.unbroken_followed (by decide)).mpr
      ((LineEnd.unbroken_preceded (by decide)).mpr hvar)

theorem isWholeLines_printedConstructor {var : String} (hvar : LineEnd.Unbroken var.toList)
    (j : Nat) : ∀ arg ∈ (printedConstructor var j).args, IsWholeLines arg := by
  obtain ⟨-, hargs⟩ := List.forall_mem_cons.mp (unbroken_printedConstructor hvar j)
  intro arg harg
  refine (hargs arg harg).isWholeLines ?_
  rw [List.mem_singleton.mp harg]
  intro hempty
  exact absurd (String.append_eq_empty_iff.mp hempty).2 (by decide)

theorem length_row_printedConstructor (mark var : String) (j : Nat) :
    ((printedConstructor var j).row mark).length =
      mark.length + digitCount j + var.length + 13 := by
  rw [Constructor.row, printedConstructor, String.intercalate_cons_cons,
    String.intercalate_cons_cons, String.intercalate_singleton]
  simp only [String.length_append, length_toString]
  change mark.length + 1 + (4 + digitCount j + 1 + (6 + var.length + 1)) = _
  omega

/-- The suggestion for the union in a sample, moved to the right. -/
def unionSnippet (name var : String) (count : Nat) : String :=
  Report.snippet Declaration.standardIndent (Declaration.text Declaration.standardIndent
    ⟨name, [var], .union ((List.range count).map (printedConstructor var))⟩)

/-- One constructor more is a row more, behind a newline and moved by four columns twice. -/
theorem length_unionSnippet_succ {name var : String} (hname : LineEnd.Unbroken name.toList)
    (hvar : LineEnd.Unbroken var.toList) (count : Nat) :
    (unionSnippet name var (count + 1)).length =
      (unionSnippet name var count).length + (23 + var.length + digitCount count) := by
  have hnames : ∀ word ∈ Declaration.names
      ⟨name, [var], .union ((List.range (count + 1)).map (printedConstructor var))⟩,
      LineEnd.Unbroken word.toList := by
    refine List.forall_mem_append.mpr
      ⟨List.forall_mem_cons.mpr ⟨hname, List.forall_mem_singleton.mpr hvar⟩, ?_⟩
    refine List.forall_mem_map.mpr (List.forall_mem_map.mpr fun j _ => ?_)
    exact (List.forall_mem_cons.mp (unbroken_printedConstructor hvar j)).1
  have htypes : ∀ q ∈ (Definition.union
      ((List.range (count + 1)).map (printedConstructor var))).types, IsWholeLines q.2 := by
    refine List.forall_mem_flatMap.mpr (List.forall_mem_map.mpr fun j _ => ?_)
    exact List.forall_mem_map.mpr (isWholeLines_printedConstructor hvar j)
  have hrow : (printedConstructor var count).IsRow := fun text htext =>
    (unbroken_printedConstructor hvar count text htext).newline_not_mem
  have hmark : ∀ first : Bool, (if first then "=" else "|").length = 1 := by decide
  have hne : ∀ mark, (printedConstructor var count).row mark ≠ "" := fun _ => row_ne_empty _ _ _
  have hnewline : "\n".length = 1 := rfl
  rw [List.range_succ, List.map_append, List.map_singleton] at hnames htypes
  rw [unionSnippet, List.range_succ, List.map_append, List.map_singleton,
    Report.snippet_union_concat hnames htypes hrow, ← unionSnippet, String.length_append,
    String.length_append, Line.length_shift (hne _), length_row_printedConstructor, hmark, hnewline,
    Declaration.standardIndent]
  omega

/-- Only the suggestion in the report depends on the number of constructors. -/
theorem title_report_union {i : Nat} (h : i % 9 = 8) (unionSize unionSize' : Nat) :
    (report unionSize i).title = (report unionSize' i).title := by
  rw [report, report, failure_union h, failure_union h]
  rfl

theorem body_report_union {i : Nat} (h : i % 9 = 8) (unionSize : Nat) :
    (report unionSize i).body =
      Report.unboundIntroduction ("Name" ++ toString i) ("t" ++ toString i) ++
        unionSnippet ("Name" ++ toString i) ("t" ++ toString i) unionSize := by
  rw [unionSnippet, ← map_constructors, report, failure_union h]
  rfl

/-- In a union, a constructor more takes the same characters in every sample, but for the numbers of the
failure and of the constructor. -/
theorem reportSize_succ (unionSize i : Nat) :
    reportSize (report (unionSize + 1) i) = reportSize (report unionSize i) +
      if i % 9 = 8 then 24 + digitCount i + digitCount unionSize else 0 := by
  by_cases h : i % 9 = 8
  · have hname : LineEnd.Unbroken ("Name" ++ toString i).toList :=
      (LineEnd.unbroken_preceded (by decide)).mpr (LineEnd.unbroken_toString i)
    have hvar : LineEnd.Unbroken ("t" ++ toString i).toList :=
      (LineEnd.unbroken_preceded (by decide)).mpr (LineEnd.unbroken_toString i)
    have hlength : ("t" ++ toString i).length = 1 + digitCount i := by
      rw [String.length_append, length_toString]
      rfl
    rw [if_pos h, reportSize, title_report_union h (unionSize + 1) unionSize, body_report_union h,
      String.length_append, length_unionSnippet_succ hname hvar, hlength, reportSize,
      body_report_union h, String.length_append]
    omega
  · rw [if_neg h, report, failure_eq h (unionSize + 1) unionSize]
    rfl

theorem total_succ (size : Int) (unionSize : Nat) :
    ∃ chars, total size unionSize = .ok chars ∧
      total size (unionSize + 1) = .ok (chars + ∑ i ∈ Finset.range size.toNat with i % 9 = 8,
        (24 + digitCount i + digitCount unionSize)) := by
  refine ⟨_, total_eq _ _, ?_⟩
  have hsucc : ((unionSize : Int) + 1).toNat = unionSize + 1 := rfl
  rw [total_eq, hsucc, Int.toNat_natCast, totalSize_range, totalSize_range, Finset.sum_filter,
    ← Finset.sum_add_distrib]
  exact congrArg Except.ok (Finset.sum_congr rfl fun i _ => reportSize_succ unionSize i)

/-- **The characters of a sample.** A sample has as many failures as its size says, and none below
zero; a smaller one is its beginning, and the reports on the other failures make up the rest of its
total. With a constructor more, the total grows by a line for each union, which has 24 characters besides
the number of the union and the number of the constructor. Fewer than no constructors are none. -/
theorem total_growth :
    (∀ size size' unionSize : Int, size ≤ size' →
      ((failures size' unionSize).length : Int) = max size' 0 ∧
      (failures size' unionSize).take size.toNat = failures size unionSize ∧
      ∃ above reports, total size unionSize = .ok above ∧
        ((failures size' unionSize).drop size.toNat).mapM Failure.report =
          (.ok reports : Except Fault _) ∧
        total size' unionSize =
          .ok (above + (reports.map fun r => r.title.length + r.body.length).sum)) ∧
      (∀ (size : Int) (unionSize : Nat), ∃ chars, total size unionSize = .ok chars ∧
        total size (unionSize + 1) = .ok (chars + ∑ i ∈ Finset.range size.toNat with i % 9 = 8,
          (24 + digitCount i + digitCount unionSize))) ∧
      ∀ size unionSize : Int, unionSize < 0 → total size unionSize = total size 0 := by
  refine ⟨fun size size' unionSize h => ⟨?_, take_failures h unionSize, ?_⟩, total_succ,
    fun size unionSize h => ?_⟩
  · rw [failures, List.length_map, List.length_range, Int.ofNat_toNat]
  · refine ⟨_, _, total_eq size unionSize, mapM_drop_failures size size' unionSize, ?_⟩
    rw [total_drop h, ← totalSize_eq]
  · rw [total_eq, total_eq, Int.toNat_of_nonpos h.le]
    rfl

/-- Eighteen failures have two unions, one with a number of two digits; and the number of the eleventh
constructor is the first that has two. -/
theorem total_growth_two_unions :
    (failures 18 10).take 2 = failures 2 10 ∧
      (∃ above reports, total (-1) 10 = .ok above ∧
        (failures 18 10).mapM Failure.report = (.ok reports : Except Fault _) ∧
        total 18 10 = .ok (above + (reports.map fun r => r.title.length + r.body.length).sum)) ∧
      (∃ chars, total 18 10 = .ok chars ∧ total 18 11 = .ok (chars + (27 + 28))) ∧
      total 18 (-3) = total 18 0 := by
  obtain ⟨hsmaller, hsucc, hnegative⟩ := total_growth
  refine ⟨(hsmaller 2 18 10 (by decide)).2.1, (hsmaller (-1) 18 10 (by decide)).2.2, ?_,
    hnegative 18 (-3) (by decide)⟩
  have hsum : ∑ i ∈ Finset.range (18 : Int).toNat with i % 9 = 8,
      (24 + digitCount i + digitCount 10) = 27 + 28 := by
    decide
  obtain ⟨chars, hchars, hgrown⟩ := hsucc 18 10
  rw [hsum] at hgrown
  exact ⟨chars, hchars, hgrown⟩

end Sample

end SyntaxReports
