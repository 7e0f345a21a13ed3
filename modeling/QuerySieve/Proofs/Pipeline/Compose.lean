import QuerySieve.Proofs.Pipeline.Decision

/-!
# Proofs/Pipeline/Compose — one pipeline after another

What the filters of two pipelines accept together is told by how their features meet.  Without a
common feature they are separate requirements, and accepting with both is accepting with one what the
other accepts (`Filter.met_append_iff`).  If all features of the second occur in the first they are
further alternatives, and more is accepted (`Filter.Met.append_of_covered`).
-/

namespace QuerySieve

variable {fs gs : List Filter} {text : String}

/-- Filters that are grouped with others only add alternatives to them. -/
theorem Filter.Met.append_of_covered (hmet : Met fs text)
    (h : ∀ g ∈ gs, ∃ f ∈ fs, f.slot? = g.slot?) : Met (fs ++ gs) text := by
  intro x hx
  have hold : ∃ f ∈ fs, f.slot? = x.slot? := by
    rcases List.mem_append.mp hx with hx | hx
    · exact ⟨x, hx, rfl⟩
    · exact h x hx
  obtain ⟨f, hf, hslot⟩ := hold
  obtain ⟨g, hg, hgf, haccepts⟩ := hmet f hf
  exact ⟨g, List.mem_append_left gs hg, hgf.trans hslot, haccepts⟩

namespace Pipeline

open QuerySieve.Filter

/-- The results that meet the filters. -/
def meeting (fs : List Filter) (rs : List Result) : List Result :=
  rs.filter fun r => decide (Met fs r.haystack)

theorem accepted?_eq_meeting (h : Groupable fs) (rs : List Result) :
    accepted? fs rs = some (meeting fs rs) := accepted?_eq_filter (passes?_eq_met h) rs

/-- Separate requirements are met one after the other. -/
theorem meeting_append (h : ∀ f ∈ fs, ∀ g ∈ gs, f.slot? ≠ g.slot?) (rs : List Result) :
    meeting (fs ++ gs) rs = meeting gs (meeting fs rs) := by
  rw [meeting, meeting, meeting, List.filter_filter]
  refine List.filter_congr fun r _ => ?_
  rw [← Bool.decide_and, decide_eq_decide, met_append_iff h, and_comm]

theorem meeting_append_comm (fs gs : List Filter) (rs : List Result) :
    meeting (gs ++ fs) rs = meeting (fs ++ gs) rs :=
  List.filter_congr fun _ _ => decide_eq_decide.mpr (met_perm List.perm_append_comm)

/-- With further alternatives no result is lost. -/
theorem meeting_sublist (h : ∀ g ∈ gs, ∃ f ∈ fs, f.slot? = g.slot?) (rs : List Result) :
    (meeting fs rs).Sublist (meeting (fs ++ gs) rs) :=
  List.monotone_filter_right rs fun _ hmet =>
    decide_eq_true ((of_decide_eq_true hmet).append_of_covered h)

/-- **Pipelines without a common feature are applied one after the other**, in either order; and
filters whose features all occur already only let more results pass. -/
theorem accepted?_append (hfs : Groupable fs) (hgs : Groupable gs) (rs : List Result) :
    ((∀ f ∈ fs, ∀ g ∈ gs, ¬ Mark.Equal f.mark g.mark) →
      ∃ accepted, accepted? (fs ++ gs) rs = some accepted ∧ accepted? (gs ++ fs) rs = some accepted ∧
        (accepted? fs rs).bind (accepted? gs) = some accepted ∧
        (accepted? gs rs).bind (accepted? fs) = some accepted) ∧
    ((∀ g ∈ gs, ∃ f ∈ fs, Mark.Equal f.mark g.mark) →
      (∀ r, passes? fs r = some true → passes? (fs ++ gs) r = some true) ∧
      ∃ narrow wide, accepted? fs rs = some narrow ∧ accepted? (fs ++ gs) rs = some wide ∧
        narrow.Sublist wide) := by
  have hboth : Groupable (fs ++ gs) := hfs.append hgs
  refine ⟨fun happart => ?_, fun hcovered => ?_⟩
  · have hslots : ∀ f ∈ fs, ∀ g ∈ gs, f.slot? ≠ g.slot? := fun f hf g hg hslot =>
      happart f hf g hg ((equal_mark_iff (hfs f hf)).mpr hslot)
    have hslots' : ∀ g ∈ gs, ∀ f ∈ fs, g.slot? ≠ f.slot? := fun g hg f hf =>
      (hslots f hf g hg).symm
    refine ⟨meeting (fs ++ gs) rs, accepted?_eq_meeting hboth rs, ?_, ?_, ?_⟩
    · rw [accepted?_eq_meeting (hgs.append hfs), meeting_append_comm]
    · rw [accepted?_eq_meeting hfs, Option.bind_some, accepted?_eq_meeting hgs,
        meeting_append hslots]
    · rw [accepted?_eq_meeting hgs, Option.bind_some, accepted?_eq_meeting hfs,
        ← meeting_append hslots', meeting_append_comm]
  · have hslots : ∀ g ∈ gs, ∃ f ∈ fs, f.slot? = g.slot? := fun g hg =>
      (hcovered g hg).imp fun f hf => ⟨hf.1, (equal_mark_iff (hfs f hf.1)).mp hf.2⟩
    refine ⟨fun r hpasses => ?_, meeting fs rs, meeting (fs ++ gs) rs,
      accepted?_eq_meeting hfs rs, accepted?_eq_meeting hboth rs, meeting_sublist hslots rs⟩
    rw [passes?_eq_met hfs, Option.some.injEq, decide_eq_true_iff] at hpasses
    rw [passes?_eq_met hboth, decide_eq_true (hpasses.append_of_covered hslots)]

/-- A file name and a source are two requirements, and 0 and false are one. -/
theorem accepted?_append_hamlet :
    let pdf : Filter := .make true "pdf" (some (.int 0)) none
    let epub : Filter := .make true "epub" (some (.bool false)) none
    let archive : Filter := .make true "Archive" (some (.feature .searchSource)) none
    let hamlet (source name : String) : Result :=
      ⟨"Hamlet", "", none, some source, .unknown, some ⟨name, 7⟩⟩
    let rs := [hamlet "Archive" "h.pdf", hamlet "Archive" "h.epub", hamlet "Shelf" "h.pdf"]
    Groupable [pdf] ∧ Groupable [epub] ∧ Groupable [archive] ∧
      ((∀ f ∈ [pdf], ∀ g ∈ [archive], ¬ Mark.Equal f.mark g.mark) ∧
        ∃ accepted, accepted? ([pdf] ++ [archive]) rs = some accepted ∧
          accepted? ([archive] ++ [pdf]) rs = some accepted ∧
          (accepted? [pdf] rs).bind (accepted? [archive]) = some accepted ∧
          (accepted? [archive] rs).bind (accepted? [pdf]) = some accepted) ∧
      (∀ g ∈ [epub], ∃ f ∈ [pdf], Mark.Equal f.mark g.mark) ∧
        (∀ r, passes? [pdf] r = some true → passes? ([pdf] ++ [epub]) r = some true) ∧
        ∃ narrow wide, accepted? [pdf] rs = some narrow ∧
          accepted? ([pdf] ++ [epub]) rs = some wide ∧ narrow.Sublist wide := by
  intro pdf epub archive hamlet rs
  have hpdf : ∀ f ∈ [pdf], f.slot? ≠ none := by decide +kernel
  have hepub : ∀ f ∈ [epub], f.slot? ≠ none := by decide +kernel
  have harchive : ∀ f ∈ [archive], f.slot? ≠ none := by decide +kernel
  have happart : ∀ f ∈ [pdf], ∀ g ∈ [archive], ¬ Mark.Equal f.mark g.mark := by
    intro f hf g hg hequal
    rw [List.mem_singleton.mp hf, List.mem_singleton.mp hg] at hequal
    exact nomatch (Mark.equal_iff.mp hequal).1
  have hcovered : ∀ g ∈ [epub], ∃ f ∈ [pdf], Mark.Equal f.mark g.mark := by
    intro g hg
    rw [List.mem_singleton.mp hg]
    exact ⟨pdf, List.mem_cons_self, .number rfl rfl⟩
  exact ⟨hpdf, hepub, harchive, ⟨happart, (accepted?_append hpdf harchive rs).1 happart⟩, hcovered,
    (accepted?_append hpdf hepub rs).2 hcovered⟩

end Pipeline

end QuerySieve
