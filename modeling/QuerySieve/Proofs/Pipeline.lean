import QuerySieve.Pipeline
import QuerySieve.Proofs.Group
import QuerySieve.Proofs.Sequence

/-!
# Proofs/Pipeline — deciding on a result and saying why

`passes?` stops at the first group that does not accept and `explain` tries every filter, but both
go by the same groups, and so by the requirements of the filters (`passes?_eq_met`): a verdict decides
what is decided without it (`passes?_of_explain`).  It asks for more, though.  There has to be
something to show for every group, and a group that fails needs a name that is a text
(`explain_eq_ok_iff`, `exists_explain_iff`).
-/

namespace QuerySieve

open Sequence

variable {fs : List Filter} {gs : List Group} {r : Result} {room : Nat} {text : String}

/-! ## The report on a group -/

namespace GroupReport

variable {g : Group} {report : GroupReport} {reports : List GroupReport} {b : Breakdown}

/-- **The report is on the group**: it has the group's mark with what is shown for it, and an outcome
for each of its filters. -/
structure IsOn (room : Nat) (text : String) (g : Group) (report : GroupReport) : Prop where
  mark : report.mark = g.mark
  label : Mark.labelOf room g.mark = .ok report.label
  trials : report.trials = g.members.map fun f => ⟨f, f.accepts text⟩

theorem of_eq_ok_iff : of room text g = .ok report ↔ report.IsOn room text g := by
  obtain ⟨mark, label, trials⟩ := report
  rw [of]
  constructor
  · intro h
    split at h
    · rename_i hlabel
      cases h
      exact ⟨rfl, hlabel, rfl⟩
    · cases h
  · rintro ⟨rfl, hlabel, rfl⟩
    rw [hlabel]

theorem of_eq_error_iff : of room text g = .error b ↔
    ∃ fault, Mark.labelOf room g.mark = .error fault ∧ b = .ofShowing fault := by
  rw [of]
  cases Mark.labelOf room g.mark with
  | ok label => exact iff_of_false nofun nofun
  | error fault => simp [eq_comm]

/-- A report has passed exactly if its group accepts the text. -/
theorem IsOn.passed_eq (h : report.IsOn room text g) : report.passed = g.accepts text := by
  rw [passed, h.trials, List.any_map]
  rfl

theorem all_passed_eq (h : List.Forall₂ (fun g report => IsOn room text g report) gs reports) :
    reports.all (·.passed) = gs.all (·.accepts text) := by
  induction h with
  | nil => rfl
  | cons hfirst _ ih => rw [List.all_cons, List.all_cons, ih, hfirst.passed_eq]

/-- The reports that have failed, if there are any, are what the names of groups are of. -/
theorem isEmpty_failed_eq {failed : List String}
    (h : List.Forall₂ (fun g s => name g = .text s) (reports.filter fun g => !g.passed) failed) :
    failed.isEmpty = reports.all (·.passed) := by
  rw [Bool.eq_iff_iff, List.isEmpty_iff, List.all_eq_true]
  constructor
  · rintro rfl
    have hnone := List.filter_eq_nil_iff.mp (List.forall₂_nil_right_iff.mp h)
    exact fun g hg => by simpa using hnone g hg
  · intro hall
    have hnone : (reports.filter fun g => !g.passed) = [] :=
      List.filter_eq_nil_iff.mpr fun g hg => by simp [hall g hg]
    rwa [hnone, List.forall₂_nil_left_iff] at h

theorem word_eq_ok_iff {s : String} : report.word = .ok s ↔ report.name = .text s := by
  rw [word]
  cases report.name <;> simp

theorem word_eq_error_iff :
    report.word = .error b ↔ b = .wordless ∧ ∀ s, report.name ≠ .text s := by
  rw [word]
  cases report.name <;> simp [eq_comm]

/-- A group has a name unless something is shown for it that is no text. -/
theorem exists_name_iff : (∃ s, report.name = .text s) ↔
    (report.label.isTruthy = true → ∃ s, report.label = .text s) := by
  rw [name]
  split
  · rename_i htruthy
    exact ⟨fun h _ => h, fun h => h htruthy⟩
  · rename_i hempty
    exact iff_of_true ⟨_, rfl⟩ fun htruthy => absurd htruthy hempty

end GroupReport

namespace Group

/-- **The group can be told of**: there is something to show for it, and if the group does not accept
the text, then this is a text or says nothing. -/
def CanBeTold (room : Nat) (text : String) (g : Group) : Prop :=
  ∃ label, Mark.labelOf room g.mark = .ok label ∧
    (g.accepts text = true ∨ (label.isTruthy = true → ∃ s, label = .text s))

end Group

/-! ## One result -/

namespace Pipeline

open GroupReport (IsOn)

/-- All filters have a slot. -/
def Groupable (fs : List Filter) : Prop := ∀ f ∈ fs, f.slot? ≠ none

theorem Groupable.append {fs gs : List Filter} (hfs : Groupable fs) (hgs : Groupable gs) :
    Groupable (fs ++ gs) := fun f hf => (List.mem_append.mp hf).elim (hfs f) (hgs f)

theorem Groupable.exists_groups (h : Groupable fs) :
    ∃ gs, Group.groups? fs = some gs ∧ Group.Collects fs gs := by
  cases hgroups : Group.groups? fs with
  | none =>
    obtain ⟨f, hf, hnone⟩ := Group.groups?_eq_none_iff.mp hgroups
    exact absurd hnone (h f hf)
  | some gs => exact ⟨gs, rfl, Group.collects_groups? hgroups⟩

/-- **A result passes if every requirement of the filters is met.** -/
theorem passes?_eq_met (h : Groupable fs) (r : Result) :
    passes? fs r = some (decide (Filter.Met fs r.haystack)) := by
  obtain ⟨gs, hgroups, hcollects⟩ := h.exists_groups
  rw [passes?, hgroups, Option.map_some]
  split
  · rename_i hnil
    rw [List.isEmpty_iff.mp hnil]
    rfl
  · rw [Bool.eq_iff_iff.mpr (hcollects.all_accepts_iff.trans decide_eq_true_iff.symm)]

/-! ## The verdict on a result -/

theorem explain_of_groups (hfs : fs ≠ []) (hgroups : Group.groups? fs = some gs) :
    explain room fs r = (do
      let reports ← gs.mapM (GroupReport.of room r.haystack)
      let failed ← (reports.filter fun g => !g.passed).mapM GroupReport.word
      .ok (.tried fs.length r.haystack.length reports failed)) := by
  rw [explain, if_neg (mt List.isEmpty_iff.mp hfs), hgroups]

/-- **A verdict is given** if there is a report on every group and a name for each that failed. -/
theorem explain_eq_ok_iff (hfs : fs ≠ []) {v : Verdict} : explain room fs r = .ok v ↔
    ∃ gs reports failed, Group.groups? fs = some gs ∧
      List.Forall₂ (fun g report => IsOn room r.haystack g report) gs reports ∧
      List.Forall₂ (fun g s => GroupReport.name g = .text s)
        (reports.filter fun g => !g.passed) failed ∧
      v = .tried fs.length r.haystack.length reports failed := by
  cases hgroups : Group.groups? fs with
  | none =>
    rw [explain, if_neg (mt List.isEmpty_iff.mp hfs), hgroups]
    exact iff_of_false nofun fun ⟨_, _, _, hsome, _⟩ => nomatch hsome
  | some gs =>
    simp only [explain_of_groups hfs hgroups, bind_eq_ok_iff, mapM_eq_ok_iff,
      GroupReport.of_eq_ok_iff, GroupReport.word_eq_ok_iff, Option.some.injEq, Except.ok.injEq]
    constructor
    · rintro ⟨reports, hreports, failed, hfailed, rfl⟩
      exact ⟨gs, reports, failed, rfl, hreports, hfailed, rfl⟩
    · rintro ⟨_, reports, failed, rfl, hreports, hfailed, rfl⟩
      exact ⟨reports, hreports, failed, hfailed, rfl⟩

/-- **A verdict decides what is decided without it.** -/
theorem passes?_of_explain {v : Verdict} (h : explain room fs r = .ok v) :
    passes? fs r = some v.passed := by
  by_cases hfs : fs = []
  · subst hfs
    obtain rfl := Except.ok.inj h
    rfl
  · obtain ⟨gs, reports, failed, hgroups, hreports, hfailed, rfl⟩ := (explain_eq_ok_iff hfs).mp h
    rw [passes?, if_neg (mt List.isEmpty_iff.mp hfs), hgroups, Option.map_some,
      ← GroupReport.all_passed_eq hreports, Verdict.passed, GroupReport.isEmpty_failed_eq hfailed]

/-- **There is a verdict on a result if all groups can be told of**, and only then. -/
theorem exists_explain_iff (hfs : fs ≠ []) (hgroups : Group.groups? fs = some gs) :
    (∃ v, explain room fs r = .ok v) ↔ ∀ g ∈ gs, g.CanBeTold room r.haystack := by
  constructor
  · rintro ⟨v, hv⟩ g hg
    obtain ⟨gs', reports, failed, hgroups', hreports, hfailed, -⟩ := (explain_eq_ok_iff hfs).mp hv
    obtain rfl := Option.some.inj (hgroups.symm.trans hgroups')
    obtain ⟨report, hreport, hon⟩ := exists_of_mem_left hreports hg
    refine ⟨report.label, hon.label, ?_⟩
    rw [or_iff_not_imp_left, ← hon.passed_eq]
    intro hnot
    have hmem : report ∈ reports.filter fun g => !g.passed :=
      List.mem_filter.mpr ⟨hreport, by simpa using hnot⟩
    obtain ⟨s, -, hname⟩ := exists_of_mem_left hfailed hmem
    exact GroupReport.exists_name_iff.mp ⟨s, hname⟩
  · intro htold
    obtain ⟨reports, hreports⟩ : ∃ reports, gs.mapM (GroupReport.of room r.haystack) = .ok reports := by
      refine exists_mapM_eq_ok_iff.mpr fun g hg => ?_
      obtain ⟨label, hlabel, -⟩ := htold g hg
      exact ⟨⟨g.mark, label, _⟩, GroupReport.of_eq_ok_iff.mpr ⟨rfl, hlabel, rfl⟩⟩
    simp only [mapM_eq_ok_iff, GroupReport.of_eq_ok_iff] at hreports
    obtain ⟨failed, hfailed⟩ : ∃ failed,
        (reports.filter fun g => !g.passed).mapM GroupReport.word = .ok failed := by
      refine exists_mapM_eq_ok_iff.mpr fun report hreport => ?_
      obtain ⟨hmem, hnot⟩ := List.mem_filter.mp hreport
      obtain ⟨g, hg, hon⟩ := exists_of_mem_right hreports hmem
      obtain ⟨label, hlabel, htext⟩ := htold g hg
      obtain rfl := Except.ok.inj (hon.label.symm.trans hlabel)
      rw [hon.passed_eq, Bool.not_eq_true'] at hnot
      simp only [GroupReport.word_eq_ok_iff]
      exact GroupReport.exists_name_iff.mpr (htext.resolve_left (by simp [hnot]))
    simp only [mapM_eq_ok_iff, GroupReport.word_eq_ok_iff] at hfailed
    exact ⟨_, (explain_eq_ok_iff hfs).mpr ⟨gs, reports, failed, hgroups, hreports, hfailed, rfl⟩⟩

/-- **Why there is no verdict**: filters cannot be grouped, or there is nothing to show for a group, or
what is shown for one that failed is no text. -/
theorem of_explain_eq_error {b : Breakdown} (h : explain room fs r = .error b) :
    (Group.groups? fs = none ∧ b = .ungroupable) ∨ ∃ gs, Group.groups? fs = some gs ∧
      ((∃ g ∈ gs, ∃ fault, Mark.labelOf room g.mark = .error fault ∧ b = .ofShowing fault) ∨
        b = .wordless ∧ ∃ g ∈ gs, ∃ label, Mark.labelOf room g.mark = .ok label ∧
          g.accepts r.haystack = false ∧ label.isTruthy = true ∧ ∀ s, label ≠ .text s) := by
  have hfs : fs ≠ [] := fun hnil => by
    subst hnil
    exact nomatch h
  cases hgroups : Group.groups? fs with
  | none =>
    rw [explain, if_neg (mt List.isEmpty_iff.mp hfs), hgroups] at h
    exact .inl ⟨rfl, (Except.error.inj h).symm⟩
  | some gs =>
    refine .inr ⟨gs, rfl, ?_⟩
    rw [explain_of_groups hfs hgroups] at h
    rcases bind_eq_error_iff.mp h with hreports | ⟨reports, hreports, h⟩
    · obtain ⟨before, g, after, rfl, -, hg⟩ := mapM_eq_error_iff.mp hreports
      exact .inl ⟨g, List.mem_append_cons_self, GroupReport.of_eq_error_iff.mp hg⟩
    · rcases bind_eq_error_iff.mp h with hfailed | ⟨failed, -, h⟩
      · obtain ⟨before, report, after, hsplit, -, hword⟩ := mapM_eq_error_iff.mp hfailed
        obtain ⟨rfl, hname⟩ := GroupReport.word_eq_error_iff.mp hword
        obtain ⟨hmem, hnot⟩ := List.mem_filter.mp (hsplit ▸ List.mem_append_cons_self)
        obtain ⟨g, hg, hon⟩ := exists_of_mem_right (mapM_eq_ok_iff.mp hreports) hmem
        have hon := GroupReport.of_eq_ok_iff.mp hon
        have hunnamed : ¬ ∃ s, report.name = .text s := fun ⟨s, hs⟩ => hname s hs
        rw [GroupReport.exists_name_iff] at hunnamed
        push Not at hunnamed
        rw [hon.passed_eq, Bool.not_eq_true'] at hnot
        exact .inr ⟨rfl, g, hg, report.label, hon.label, hnot, hunnamed⟩
      · exact nomatch h

/-- Filters whose marks are told by texts have a verdict on every result. -/
theorem exists_verdict (h : Groupable fs) (hlabels : ∀ f ∈ fs, ∃ label,
      Mark.labelOf room f.mark = .ok label ∧ (label.isTruthy = true → ∃ s, label = .text s)) :
    ∃ verdict : Result → Verdict, (∀ r, explain room fs r = .ok (verdict r)) ∧
      ∀ r, (verdict r).passed = decide (Filter.Met fs r.haystack) := by
  have hexists : ∀ r, ∃ v, explain room fs r = .ok v := by
    intro r
    by_cases hfs : fs = []
    · exact ⟨.unfiltered, hfs ▸ rfl⟩
    · obtain ⟨gs, hgroups, hcollects⟩ := h.exists_groups
      refine (exists_explain_iff hfs hgroups).mpr fun g hg => ?_
      obtain ⟨f, hf, hmark⟩ := hcollects.exists_mem hg
      rw [hcollects.members g hg] at hf
      obtain ⟨label, hlabel, htext⟩ := hlabels f (List.mem_of_mem_filter hf)
      exact ⟨label, hmark ▸ hlabel, .inr htext⟩
  choose verdict hverdict using hexists
  refine ⟨verdict, hverdict, fun r => ?_⟩
  have hpassed := passes?_of_explain (hverdict r)
  rw [passes?_eq_met h] at hpassed
  exact (Option.some.inj hpassed).symm

/-! ## Lists of results -/

/-- **The results that pass are picked in their order.** -/
theorem accepted?_eq_filter {fs : List Filter} {p : Result → Bool}
    (h : ∀ r, passes? fs r = some (p r)) : ∀ rs, accepted? fs rs = some (rs.filter p)
  | [] => rfl
  | r :: rs => by
    rw [accepted?, h r, accepted?_eq_filter h rs, List.filter_cons]
    rfl

end Pipeline

end QuerySieve
