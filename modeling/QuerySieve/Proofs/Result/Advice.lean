import QuerySieve.Proofs.Result.Entries

/-!
# Proofs/Result/Advice — the advice on a missing name is given twice

A report on an entry is told again as a report on its file, with the suggestions that it had.  But a
report on a missing field brings its suggestion along whenever it is made, so the file is reported
with a second one, in which the name of the field is lost (`suggestions_kept_iff`).  This happens to
records without a name to show (`Result.Nameless`), and to them only: whatever else is wrong with an
entry is reported without a suggestion (`Result.reportsOnly_ofData`).
-/

namespace QuerySieve

/-- The suggestion to give a field that is missing. -/
def Suggestion.provide (name : String) : Suggestion :=
  ⟨"Provide the missing field", "Every search result needs a '" ++ name ++ "' value.", none, 1⟩

namespace Result

/-! ## What is reported of an entry -/

/-- **A record without a name to show**: it has none, or one that says nothing. -/
def Nameless (d : Data) : Prop := ∃ fields : Fields, d = .record fields ∧
  firstTruthy [fields.named? "display_name", fields.named? "displayName"] = none

/-- The report says that something is of the wrong kind. -/
def OnKind (r : Report) : Prop :=
  ∃ lead subject cause, .report r = refusal .fieldKind lead subject cause

theorem OnKind.code_eq {r : Report} (h : OnKind r) : r.code = .fieldKind := by
  obtain ⟨lead, subject, cause, hr⟩ := h
  obtain rfl := Failure.report.inj hr
  rw [Report.make_eq]

theorem OnKind.suggestions_eq {r : Report} (h : OnKind r) : r.suggestions = [] := by
  obtain ⟨lead, subject, cause, hr⟩ := h
  obtain rfl := Failure.report.inj hr
  rw [Report.make_eq]
  rfl

theorem reportsOnly_refusal {α : Type} (lead : String) (subject : Option String)
    (cause : Option Cause) :
    ReportsOnly OnKind (.error (refusal .fieldKind lead subject cause) : Except Failure α) where
  told _ h := ⟨lead, subject, cause, (Except.error.inj h).symm⟩

theorem reportsOnly_optionalText (name : String) (d : Option Data) :
    ReportsOnly OnKind (optionalText name d) := by
  cases d with
  | none => exact .ok none
  | some v =>
    cases v with
    | null => exact .ok none
    | text s => exact .ok (some s)
    | _ => exact reportsOnly_refusal ..

theorem reportsOnly_shownText {P : Report → Prop} (text : Except ShowFault String) :
    ReportsOnly P (shownText text) := by
  cases text with
  | ok s => exact .ok s
  | error fault => exact .breakdown _

theorem reportsOnly_textOf {P : Report → Prop} (room : Nat) (ds : List (Option Data)) :
    ReportsOnly P (textOf room ds) := by
  rw [textOf]
  cases firstTruthy ds with
  | none => exact .ok ""
  | some d => exact reportsOnly_shownText _

theorem reportsOnly_sizeRefusal (room : Nat) (d : Data) (cause : Cause) :
    ReportsOnly OnKind (sizeRefusal room d cause) :=
  (reportsOnly_shownText _).bind fun _ => reportsOnly_refusal ..

theorem reportsOnly_sizeOf (room : Nat) (d : Option Data) :
    ReportsOnly OnKind (sizeOf room d) := by
  rw [sizeOf]
  cases firstTruthy [d] with
  | none => exact .ok 0
  | some v =>
    cases v with
    | int n => exact .ok n
    | bool b => exact .ok _
    | float x =>
      cases x with
      | finite negative m q => exact .ok _
      | infinite negative => exact .breakdown _
      | nan => exact reportsOnly_sizeRefusal ..
    | text s =>
      dsimp only
      cases Text.readInteger? s with
      | some n => exact .ok n
      | none => exact reportsOnly_sizeRefusal ..
    | _ => exact reportsOnly_sizeRefusal ..

theorem reportsOnly_fileOf (room : Nat) (fields : Fields) :
    ReportsOnly OnKind (fileOf room fields) := by
  rw [fileOf]
  cases fields.named? "filename" with
  | none => exact .ok none
  | some name =>
    exact (reportsOnly_sizeOf ..).bind fun size => (reportsOnly_textOf ..).bind fun name => .ok _

theorem reportsOnly_ofFields {room : Nat} {fields : Fields}
    (h : firstTruthy [fields.named? "display_name", fields.named? "displayName"] ≠ none) :
    ReportsOnly OnKind (ofFields room fields) := by
  obtain ⟨displayName, hname⟩ := Option.ne_none_iff_exists'.mp h
  rw [ofFields, hname]
  exact (reportsOnly_textOf ..).bind fun displayName =>
    (reportsOnly_textOf ..).bind fun detailsUrl =>
    (reportsOnly_optionalText ..).bind fun thumbnail =>
    (reportsOnly_optionalText ..).bind fun source =>
    (reportsOnly_optionalText ..).bind fun license =>
    (reportsOnly_fileOf room fields).bind fun file => .ok _

/-- **What is wrong with an entry is of the wrong kind**, unless it is the name to show. -/
theorem reportsOnly_ofData {room : Nat} {d : Data} (h : ¬ Nameless d) :
    ReportsOnly OnKind (ofData room d) := by
  cases d with
  | record fields => exact reportsOnly_ofFields fun hname => h ⟨fields, rfl, hname⟩
  | _ => exact reportsOnly_refusal ..

theorem ofData_of_nameless {room : Nat} {d : Data} (h : Nameless d) : ofData room d =
    .error (refusal .fieldMissing "Search result is missing 'display_name'" (some "display_name")
      none) := by
  obtain ⟨fields, rfl, hname⟩ := h
  rw [ofData, ofFields, hname]

end Result

namespace Archive

open Result (Nameless)

/-! ## What is reported of the file -/

section File

variable {room : Nat} {d : Data} {e : Report} (p : Place) (index : Nat)

/-- **The advice on a missing name is repeated** when the entry is told of as part of the file, and
the name of the field is lost. -/
theorem suggestions_of_nameless (h : Nameless d)
    (hfails : Result.ofData room d = .error (.report e)) :
    e.suggestions = [.provide "display_name"] ∧ ∃ r, within p index (.report e) = .report r ∧
      r.suggestions = [.provide "display_name", .provide "required"] := by
  have hreport := Except.error.inj ((Result.ofData_of_nameless h).symm.trans hfails)
  obtain ⟨hcode, hsuggestions⟩ :
      e.code = .fieldMissing ∧ e.suggestions = [.provide "display_name"] := by
    obtain rfl := Failure.report.inj hreport
    rw [Report.make_eq]
    exact ⟨rfl, List.mergeSort_singleton _⟩
  -- the file's report has the same code but no name of a field, so it adds advice of its own
  refine ⟨hsuggestions, _, rfl, ?_⟩
  rw [refusal, Report.make_eq, hcode, hsuggestions]
  exact List.mergeSort_of_pairwise (by simp [Suggestion.precedes, Suggestion.provide])

/-- Where there is no advice on an entry, there is none on the file. -/
theorem suggestions_of_not_nameless (h : ¬ Nameless d)
    (hfails : Result.ofData room d = .error (.report e)) :
    e.suggestions = [] ∧ ∃ r, within p index (.report e) = .report r ∧ r.suggestions = [] := by
  have hkind := (Result.reportsOnly_ofData h).told e hfails
  refine ⟨hkind.suggestions_eq, _, rfl, ?_⟩
  rw [refusal, Report.make_eq, hkind.code_eq, hkind.suggestions_eq]
  rfl

variable {p index} {entries : List Data}

/-- **The advice on an entry is kept** exactly if the entry is no record without a name to show. -/
theorem suggestions_kept_iff {w : World} (hfile : HoldsList w p entries)
    (h : FirstFailing w.limits.shown entries index d (.report e)) :
    ∃ r : Report, load w p = .error (.report r) ∧
      (r.suggestions = e.suggestions ↔ ¬ Nameless d) ∧
      (¬ Nameless d → e.suggestions = []) ∧
      (Nameless d → e.suggestions = [.provide "display_name"] ∧
        r.suggestions = [.provide "display_name", .provide "required"]) := by
  rw [hfile.load_of_firstFailing h]
  by_cases hname : Nameless d
  · obtain ⟨he, r, hr, htwice⟩ := suggestions_of_nameless p index hname h.fails
    refine ⟨r, congrArg _ hr, iff_of_false ?_ (not_not_intro hname), fun h => absurd hname h,
      fun _ => ⟨he, htwice⟩⟩
    rw [he, htwice]
    simp
  · obtain ⟨he, r, hr, hnone⟩ := suggestions_of_not_nameless p index hname h.fails
    exact ⟨r, congrArg _ hr, iff_of_true (hnone.trans he.symm) hname, fun _ => he,
      fun h => absurd h hname⟩

end File

/-- An entry that is no record is reported without a suggestion, and so is its file. -/
theorem suggestions_kept_iff_list :
    let w := loneFile "[[]]"
    let e := Report.make .input .fieldKind "Search result must be an object, got list" none .unknown
      none []
    HoldsList w ⟨0, ["r.json"]⟩ [.list []] ∧
      FirstFailing w.limits.shown [.list []] 0 (.list []) (.report e) ∧
      ∃ r : Report, load w ⟨0, ["r.json"]⟩ = .error (.report r) ∧
        (r.suggestions = e.suggestions ↔ ¬ Nameless (.list [])) ∧ r.suggestions = [] := by
  intro w e
  have hjson : Json.read 985 "[[]]" = .ok (.list [.list []]) := by
    simp [Json.read, Json.readValue, Json.readItems, Json.skipSpace, Json.isSpace,
      bind, Except.bind]
  have hfile : HoldsList w ⟨0, ["r.json"]⟩ [.list []] := holdsList_loneFile (by simp) hjson
  have hfailing : FirstFailing w.limits.shown [.list []] 0 (.list []) (.report e) :=
    ⟨rfl, rfl, List.forall_mem_nil _⟩
  have hname : ¬ Nameless (.list []) := by
    rintro ⟨fields, hrecord, -⟩
    cases hrecord
  obtain ⟨r, hload, hkept, hplain, -⟩ := suggestions_kept_iff hfile hfailing
  exact ⟨hfile, hfailing, r, hload, hkept, (hkept.mpr hname).trans (hplain hname)⟩

/-- **A record without anything is reported with one suggestion, and its file with two.** -/
theorem load_nameless :
    let w := loneFile "[\x7b\x7d]"
    HoldsList w ⟨0, ["r.json"]⟩ [.record []] ∧
      ∃ e r : Report, FirstFailing w.limits.shown [.record []] 0 (.record []) (.report e) ∧
        load w ⟨0, ["r.json"]⟩ = .error (.report r) ∧
        e.suggestions = [.provide "display_name"] ∧
        r.suggestions = [.provide "display_name", .provide "required"] ∧
        r.suggestions ≠ e.suggestions := by
  intro w
  have hjson : Json.read 985 "[\x7b\x7d]" = .ok (.list [.record []]) := by
    simp [Json.read, Json.readValue, Json.readItems, Json.skipSpace, Json.isSpace,
      bind, Except.bind]
  have hfile : HoldsList w ⟨0, ["r.json"]⟩ [.record []] := holdsList_loneFile (by simp) hjson
  have hname : Nameless (.record []) := ⟨[], rfl, rfl⟩
  obtain ⟨e, hfails⟩ : ∃ e, Result.ofData w.limits.shown (.record []) = .error (.report e) := ⟨_, rfl⟩
  have hfailing : FirstFailing w.limits.shown [.record []] 0 (.record []) (.report e) :=
    ⟨rfl, hfails, List.forall_mem_nil _⟩
  obtain ⟨he, r, hr, htwice⟩ := suggestions_of_nameless _ 0 hname hfails
  have hload := hfile.load_of_firstFailing hfailing
  exact ⟨hfile, e, r, hfailing, hload.trans (congrArg _ hr), he, htwice, by simp [he, htwice]⟩

end Archive

end QuerySieve
