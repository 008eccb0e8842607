import SyntaxReports.Proofs.ReportRefusal

/-!
# Titles: which failure a report is on

The title of a report begins with words that tell the kind of the failure (`Kind.opening`): no
opening goes on to another one, so they are told apart whatever names stand behind them. What
follows holds the names, each between words that are the same for the whole kind, and from it they
are found again (`Failure.eq_of_particulars`, `UnboundVars.eq_of_particulars`). A title that lists
variables can be read back as long as its type name holds no blank and no variable holds a comma.

`Request.failure_of_title` says this of reports, whichever settings and printers they were written
with.
-/

namespace SyntaxReports

/-! ## Names between fixed words -/

/-- Texts that go on at the first occurrence of a character are cut there. -/
theorem append_cons_inj {c : Char} {name name' rest rest' : List Char} (hname : c ∉ name)
    (hname' : c ∉ name') (h : name ++ c :: rest = name' ++ c :: rest') :
    name = name' ∧ rest = rest' := by
  induction name generalizing name' with
  | nil =>
    cases name' with
    | nil => exact ⟨rfl, (List.cons.inj h).2⟩
    | cons d name' =>
      obtain ⟨rfl, -⟩ := List.cons.inj h
      exact absurd List.mem_cons_self hname'
  | cons d name ih =>
    cases name' with
    | nil =>
      obtain ⟨rfl, -⟩ := List.cons.inj h
      exact absurd List.mem_cons_self hname
    | cons d' name' =>
      obtain ⟨rfl, htail⟩ := List.cons.inj h
      obtain ⟨rfl, hrest⟩ :=
        ih (fun hc => hname (.tail _ hc)) (fun hc => hname' (.tail _ hc)) htail
      exact ⟨rfl, hrest⟩

/-- A list that is written with commas is found again if there are none in its members. -/
theorem listing_inj {name name' : List Char} {names names' : List (List Char)}
    (hnames : ∀ n ∈ name :: names, ',' ∉ n) (hnames' : ∀ n ∈ name' :: names', ',' ∉ n)
    (h : [',', ' '].intercalate (name :: names) = [',', ' '].intercalate (name' :: names')) :
    name = name' ∧ names = names' := by
  induction names generalizing name name' names' with
  | nil =>
    cases names' with
    | nil => exact ⟨by simpa using h, rfl⟩
    | cons next' names' =>
      rw [List.intercalate_singleton, List.intercalate_cons_cons] at h
      exact absurd (by simp [h]) (hnames name List.mem_cons_self)
  | cons next names ih =>
    cases names' with
    | nil =>
      rw [List.intercalate_singleton, List.intercalate_cons_cons] at h
      exact absurd (by simp [← h]) (hnames' name' List.mem_cons_self)
    | cons next' names' =>
      obtain ⟨hname, hothers⟩ := List.forall_mem_cons.mp hnames
      obtain ⟨hname', hothers'⟩ := List.forall_mem_cons.mp hnames'
      rw [List.intercalate_cons_cons, List.intercalate_cons_cons, List.append_assoc,
        List.append_assoc] at h
      obtain ⟨rfl, hrest⟩ := append_cons_inj hname hname' h
      obtain ⟨rfl, rfl⟩ := ih hothers hothers' (List.cons.inj hrest).2
      exact ⟨rfl, rfl⟩

/-! ## Kinds of failures -/

/-- What is wrong, apart from the names. -/
inductive Kind where
  /-- the program does not parse -/
  | parse
  /-- an operator is declared again -/
  | operatorRedeclared
  /-- an annotation has no definition -/
  | missingDefinition
  /-- a port has no annotation -/
  | unannotatedPort
  /-- a name is bound twice -/
  | duplicate (binding : Binding)
  /-- variables are used and not listed -/
  | unboundVars
  deriving DecidableEq

/-- How the titles of a kind begin, up to where a name may stand. -/
def Kind.opening : Kind → String
  | .parse => "Problem when parsing your code!"
  | .operatorRedeclared => "The infix declarations for "
  | .missingDefinition => "There is a type annotation for '"
  | .unannotatedPort => "Port '"
  | .duplicate binding => "Naming multiple " ++ (Report.bindingNoun binding ++ " '")
  | .unboundVars => "Type '"

/-- No opening goes on to that of another kind. -/
theorem Kind.opening_apart {kind kind' : Kind}
    (h : kind.opening.toList <+: kind'.opening.toList) : kind = kind' := by
  revert h
  rcases kind with _ | _ | _ | _ | ⟨_ | _ | _⟩ | _ <;>
    rcases kind' with _ | _ | _ | _ | ⟨_ | _ | _⟩ | _ <;> decide

/-- Texts that begin with openings are the same only if the openings are, and what follows them. -/
theorem Kind.opening_append_inj {kind kind' : Kind} {rest rest' : String}
    (h : kind.opening ++ rest = kind'.opening ++ rest') : kind = kind' ∧ rest = rest' := by
  have hprefix : kind.opening.toList <+: (kind'.opening ++ rest').toList := by
    rw [← h, String.toList_append]
    exact List.prefix_append _ _
  have hprefix' : kind'.opening.toList <+: (kind'.opening ++ rest').toList := by
    rw [String.toList_append]
    exact List.prefix_append _ _
  obtain rfl : kind = kind' := by
    rcases List.prefix_or_prefix_of_prefix hprefix hprefix' with hle | hle
    · exact opening_apart hle
    · exact (opening_apart hle).symm
  exact ⟨rfl, (String.append_right_inj _).mp h⟩

/-- The end of a title over variables: the plural, if there are several, and the variables. -/
def UnboundVars.listing (u : UnboundVars) : String :=
  (if u.rest.isEmpty then "" else "s") ++ (": " ++ ", ".intercalate u.unbound)

namespace Failure

/-- The kind of a failure. What is no failure has none. -/
def kind? : Failure → Option Kind
  | .parse _ => some .parse
  | .operatorRedeclared _ => some .operatorRedeclared
  | .missingDefinition _ => some .missingDefinition
  | .unannotatedPort _ => some .unannotatedPort
  | .duplicate binding _ => some (.duplicate binding)
  | .unboundVars _ => some .unboundVars
  | .foreign _ => none

/-- What stands in the title behind the opening. -/
def particulars : Failure → String
  | .parse _ => ""
  | .operatorRedeclared operator => Report.operatorInProse operator ++ " must be removed."
  | .missingDefinition name => name ++ "' but there is no corresponding definition!"
  | .unannotatedPort name => name ++ "' does not have a type annotation!"
  | .duplicate binding name => name ++ ("'" ++ Report.bindingScope binding ++
      " makes things ambiguous. When you say '" ++ (name ++ "' which one do you want?!"))
  | .unboundVars u => u.typeName ++ ("' uses unbound type variable" ++ u.listing)
  | .foreign _ => ""

/-- The words that all titles of a kind begin with come first, then the others and the names. -/
theorem title_eq {failure : Failure} {kind : Kind} (h : failure.kind? = some kind) :
    failure.title = kind.opening ++ failure.particulars := by
  cases failure with
  | foreign value => cases h
  | parse messages =>
    obtain rfl := Option.some.inj h
    rfl
  | operatorRedeclared operator =>
    obtain rfl := Option.some.inj h
    exact String.append_assoc
  | missingDefinition name =>
    obtain rfl := Option.some.inj h
    exact String.append_assoc
  | unannotatedPort name =>
    obtain rfl := Option.some.inj h
    exact String.append_assoc
  | duplicate binding name =>
    obtain rfl := Option.some.inj h
    change "Naming multiple " ++ Report.bindingNoun binding ++ " '" ++ name ++ "'" ++
      Report.bindingScope binding ++ " makes things ambiguous. When you say '" ++ name ++
      "' which one do you want?!" = _
    have hopening : (Kind.duplicate binding).opening =
      "Naming multiple " ++ (Report.bindingNoun binding ++ " '") := rfl
    rw [hopening, particulars]
    simp only [String.append_assoc]
  | unboundVars u =>
    obtain rfl := Option.some.inj h
    change "Type '" ++ u.typeName ++ "' uses unbound type variable" ++
      (if u.rest.isEmpty then "" else "s") ++ ": " ++ ", ".intercalate u.unbound = _
    have hopening : Kind.unboundVars.opening = "Type '" := rfl
    rw [hopening, particulars, UnboundVars.listing]
    simp only [String.append_assoc]

end Failure

/-! ## Names found again -/

/-- Parentheses and backticks are never taken for each other. -/
theorem Report.operatorInProse_inj {operator operator' : String}
    (h : operatorInProse operator = operatorInProse operator') : operator = operator' := by
  rw [operatorInProse, operatorInProse] at h
  split at h
  · split at h
    · rw [String.append_left_inj, String.append_right_inj] at h
      exact h
    · have hchars := congrArg String.toList h
      simp [String.toList_append] at hchars
  · split at h
    · have hchars := congrArg String.toList h
      simp [String.toList_append] at hchars
    · rw [String.append_left_inj, String.append_right_inj] at h
      exact h

/-- A text that holds a name twice and is otherwise fixed holds it at the same place. -/
theorem append_twice_inj {name name' between behind : String}
    (h : name ++ (between ++ (name ++ behind)) = name' ++ (between ++ (name' ++ behind))) :
    name = name' := by
  have hlength := congrArg String.length h
  simp only [String.length_append] at hlength
  have hchars := congrArg String.toList h
  simp only [String.toList_append] at hchars
  have hname : name.toList.length = name'.toList.length := by
    rw [String.length_toList, String.length_toList]
    omega
  exact String.toList_inj.mp (List.append_inj hchars hname).1

namespace Failure

/-- The failures over a single name. -/
def IsOverName (failure : Failure) : Prop :=
  match failure with
  | .parse _ | .unboundVars _ | .foreign _ => False
  | _ => True

/-- Of the failures of one kind over a single name, the particulars tell which it is. -/
theorem eq_of_particulars {failure failure' : Failure} (hname : failure.IsOverName)
    (hkind : failure.kind? = failure'.kind?)
    (h : failure.particulars = failure'.particulars) : failure = failure' := by
  cases failure with
  | parse messages => cases hname
  | unboundVars u => cases hname
  | foreign value => cases hname
  | operatorRedeclared operator =>
    cases failure' <;> cases hkind
    rw [particulars, particulars, String.append_left_inj] at h
    rw [Report.operatorInProse_inj h]
  | missingDefinition name =>
    cases failure' <;> cases hkind
    rw [particulars, particulars, String.append_left_inj] at h
    rw [h]
  | unannotatedPort name =>
    cases failure' <;> cases hkind
    rw [particulars, particulars, String.append_left_inj] at h
    rw [h]
  | duplicate binding name =>
    cases failure' <;> cases hkind
    rw [particulars, particulars] at h
    rw [append_twice_inj h]

end Failure

/-- The names that a title lists can be told from the words around them: there is no blank in the
name of the type, and no comma in the variables. -/
structure UnboundVars.Listable (u : UnboundVars) : Prop where
  /-- the type name ends at the first blank -/
  typeName : ' ' ∉ u.typeName.toList
  /-- and a variable at the first comma -/
  unbound : ∀ var ∈ u.unbound, ',' ∉ var.toList

namespace UnboundVars

/-- The variables are found again behind the first colon, since the plural stands before it. -/
theorem unbound_eq_of_listing {u u' : UnboundVars} (hu : u.Listable) (hu' : u'.Listable)
    (h : u.listing = u'.listing) : u.unbound = u'.unbound := by
  have hlisting : ∀ v : UnboundVars, v.listing.toList =
      (if v.rest.isEmpty then "" else "s").toList ++
        ':' :: ' ' :: [',', ' '].intercalate (v.unbound.map String.toList) := by
    intro v
    rw [listing, String.toList_append, String.toList_append, String.toList_intercalate]
    rfl
  have hplural : ∀ v : UnboundVars, ':' ∉ (if v.rest.isEmpty then "" else "s").toList := by
    intro v
    split <;> decide
  have hcommas : ∀ v : UnboundVars, v.Listable → ∀ name ∈ v.unbound.map String.toList,
      ',' ∉ name := by
    intro v hv name hname
    obtain ⟨var, hvar, rfl⟩ := List.mem_map.mp hname
    exact hv.unbound var hvar
  have hchars := congrArg String.toList h
  rw [hlisting, hlisting] at hchars
  obtain ⟨-, hbehind⟩ := append_cons_inj (hplural u) (hplural u') hchars
  obtain ⟨hfirst, hrest⟩ := listing_inj (hcommas u hu) (hcommas u' hu') (List.cons.inj hbehind).2
  rw [unbound, unbound, String.toList_inj.mp hfirst,
    (List.map_inj_right fun _ _ => String.toList_inj.mp).mp hrest]

/-- The type name is found again: it ends with the quote before the first blank. -/
theorem eq_of_particulars {u u' : UnboundVars} (hu : u.Listable) (hu' : u'.Listable)
    (h : (Failure.unboundVars u).particulars = (Failure.unboundVars u').particulars) :
    u.typeName = u'.typeName ∧ u.unbound = u'.unbound := by
  have hwords : "' uses unbound type variable".toList =
      ['\x27'] ++ ' ' :: "uses unbound type variable".toList := by decide
  have hparticulars : ∀ v : UnboundVars, (Failure.unboundVars v).particulars.toList =
      v.typeName.toList ++ ['\x27'] ++
        ' ' :: ("uses unbound type variable" ++ v.listing).toList := by
    intro v
    rw [Failure.particulars]
    simp only [String.toList_append, hwords, List.append_assoc, List.cons_append]
  have hquoted : ∀ v : UnboundVars, v.Listable → ' ' ∉ v.typeName.toList ++ ['\x27'] := by
    intro v hv hblank
    rcases List.mem_append.mp hblank with hblank | hblank
    · exact hv.typeName hblank
    · exact absurd hblank (by decide)
  have hchars := congrArg String.toList h
  rw [hparticulars, hparticulars] at hchars
  obtain ⟨hname, hbehind⟩ := append_cons_inj (hquoted u hu) (hquoted u' hu') hchars
  have hlisting := (String.append_right_inj _).mp (String.toList_inj.mp hbehind)
  exact ⟨String.toList_inj.mp (List.append_cancel_right hname),
    unbound_eq_of_listing hu hu' hlisting⟩

end UnboundVars

/-! ## Titles of reports -/

theorem Failure.exists_kind {failure : Failure} (h : failure.foreigns = []) :
    ∃ kind, failure.kind? = some kind := by
  cases failure with
  | foreign value => cases h
  | _ => exact ⟨_, rfl⟩

/-- A report that is written has the title of its failure, and met nothing foreign. -/
theorem Failure.title_of_reportUnder {ε : Type} {failure : Failure}
    {settings : Settings (Except (Refusal ε))} {report : Report}
    (h : failure.reportUnder settings = .ok report) :
    report.title = failure.title ∧ failure.foreigns = [] := by
  rw [reportUnder_eq] at h
  cases hask : settings.printer.asked.askAll failure.calls with
  | error refusal =>
    rw [hask] at h
    cases h
  | ok texts =>
    obtain ⟨written, htitle, hwrite⟩ := failure.exists_write settings.indent texts
    have hwritten : (liftM (TypeExpr.refuseFirst failure.foreigns written) :
        Except (Refusal ε) Report) = .ok report := by
      rw [← hwrite, ← h, hask]
      rfl
    cases hforeigns : failure.foreigns with
    | nil =>
      rw [hforeigns] at hwritten
      obtain rfl : written = report := Except.ok.inj hwritten
      exact ⟨htitle, rfl⟩
    | cons value values =>
      rw [hforeigns] at hwritten
      cases hwritten

/-- A report has the title of its failure, whatever it was asked for with. -/
theorem Request.title_of_report {ε : Type} {request : Request ε} {report : Report}
    (h : request.report = .ok report) :
    report.title = request.failure.title ∧ ∃ kind, request.failure.kind? = some kind := by
  have hnone : request.firstRefusal = none := by
    rw [← refusal?_report, h, refusal?]
  simp only [firstRefusal, Option.or_eq_none_iff] at hnone
  obtain ⟨hindent, hprinters, -⟩ := hnone
  obtain ⟨settings, -, hreport⟩ := exists_settings hindent hprinters
  rw [hreport] at h
  obtain ⟨htitle, hforeigns⟩ := Failure.title_of_reportUnder h
  exact ⟨htitle, Failure.exists_kind hforeigns⟩

/-- **Reports under one title are on one kind of failure, and on one name.** So operators, names and
ports are never taken for each other, whatever characters are in them. Where variables are listed,
the type and all variables in their order are the same, as long as there is nothing in them that
looks like the words of the title. -/
theorem Request.failure_of_title {ε ε' : Type} {request : Request ε} {request' : Request ε'}
    {report report' : Report} (hreport : request.report = .ok report)
    (hreport' : request'.report = .ok report') (htitle : report.title = report'.title) :
    request.failure.kind? = request'.failure.kind? ∧
      (request.failure.IsOverName → request.failure = request'.failure) ∧
      ∀ u u', request.failure = .unboundVars u → request'.failure = .unboundVars u' →
        u.Listable → u'.Listable → u.typeName = u'.typeName ∧ u.unbound = u'.unbound := by
  obtain ⟨hfailure, kind, hkind⟩ := title_of_report hreport
  obtain ⟨hfailure', kind', hkind'⟩ := title_of_report hreport'
  rw [hfailure, hfailure', Failure.title_eq hkind, Failure.title_eq hkind'] at htitle
  obtain ⟨rfl, hparticulars⟩ := Kind.opening_append_inj htitle
  have hsame : request.failure.kind? = request'.failure.kind? := hkind.trans hkind'.symm
  refine ⟨hsame, fun hname => Failure.eq_of_particulars hname hsame hparticulars, ?_⟩
  intro u u' hu hu' hlistable hlistable'
  rw [hu, hu'] at hparticulars
  exact UnboundVars.eq_of_particulars hlistable hlistable' hparticulars

/-- A synonym and a union can stand under one title, and then they share the name and the variables. -/
theorem Request.failure_of_title_pair :
    let synonym : UnboundVars := ⟨"Pair", [], "a", ["b"], .synonym (.tuple [.var "a", .var "b"])⟩
    let union : UnboundVars := ⟨"Pair", ["c"], "a", ["b"], .union [⟨"P", [.var "a", .var "b"]⟩]⟩
    let request : Request String := ⟨.unboundVars synonym, .absent, none⟩
    let request' : Request String := ⟨.unboundVars union, .make none 0, none⟩
    ∃ report report', request.report = .ok report ∧ request'.report = .ok report' ∧
      report.title = report'.title ∧ synonym.Listable ∧ union.Listable ∧
      synonym.typeName = union.typeName ∧ synonym.unbound = union.unbound := by
  intro synonym union request request'
  have hlistable : synonym.Listable := ⟨by decide, by decide⟩
  have hlistable' : union.Listable := ⟨by decide, by decide⟩
  obtain ⟨report, hreport⟩ : ∃ report, request.report = .ok report :=
    exists_ok_iff.mpr (by rw [refusal?_report]; rfl)
  obtain ⟨report', hreport'⟩ : ∃ report, request'.report = .ok report :=
    exists_ok_iff.mpr (by rw [refusal?_report]; rfl)
  have htitle : report.title = report'.title := by
    rw [(title_of_report hreport).1, (title_of_report hreport').1]
    rfl
  exact ⟨report, report', hreport, hreport', htitle, hlistable, hlistable',
    (failure_of_title hreport hreport' htitle).2.2 synonym union rfl rfl hlistable hlistable'⟩

/-- Where variables hold commas, titles may not tell them apart. -/
example : (Failure.unboundVars ⟨"T", [], "a", ["b, c"], .union []⟩).title =
    (Failure.unboundVars ⟨"T", [], "a, b", ["c"], .union []⟩).title := by decide

end SyntaxReports
