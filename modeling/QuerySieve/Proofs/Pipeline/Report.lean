import QuerySieve.Proofs.Pipeline.Decision
import QuerySieve.World

/-!
# Proofs/Pipeline/Report — what a verdict lists of the filters, and when there is one

A verdict tries every filter, where a decision may stop early.  It has one report for each feature, in
the order in which the features first occur, and every filter of the pipeline is in one of them with
its own outcome (`GroupReport.Lists`, `GroupReport.lists_of`).  The counts and the grounds that it
gives are those of these reports.

What it decides is what is decided without it, but it is not always given: the feature of the first
filter of a group is shown, and called by its name if the group fails (`Filter.Tellable`,
`explain_agrees`).  The features of the page, texts, numbers and truth values have names that are
texts; what a caller groups by need not (`explain_wordless`).
-/

namespace QuerySieve

variable {fs : List Filter} {gs : List Group} {text : String} {room : Nat}

/-! ## The filters of a group -/

namespace Filter

/-- The filter is the first of its feature. -/
def Leads (fs : List Filter) (f : Filter) : Prop :=
  (fs.filter fun g => g.slot? = f.slot?).head? = some f

theorem Leads.mem {f : Filter} (h : Leads fs f) : f ∈ fs :=
  List.mem_of_mem_filter (List.mem_of_head? h)

/-- One of the filters of the feature accepts the text. -/
def HasAccepting (fs : List Filter) (text : String) (f : Filter) : Prop :=
  ∃ g ∈ fs, Mark.Equal g.mark f.mark ∧ g.accepts text = true

/-- **The feature of the filter can be told of**: there is something to show for it, and if none of
its filters accepts the text, then this is a text or says nothing. -/
def Tellable (room : Nat) (fs : List Filter) (text : String) (f : Filter) : Prop :=
  ∃ label, Mark.labelOf room f.mark = .ok label ∧
    (f.HasAccepting fs text ∨ (label.isTruthy = true → ∃ s, label = .text s))

end Filter

namespace Group

open QuerySieve.Filter (Leads HasAccepting Tellable)

/-- The group of a filter accepts what one of the filters of the feature accepts. -/
theorem Collects.accepts_iff (hfs : Pipeline.Groupable fs) (h : Collects fs gs) {g : Group}
    (hg : g ∈ gs) {f : Filter} (hmark : f.mark = g.mark) :
    g.accepts text = true ↔ f.HasAccepting fs text := by
  rw [accepts, List.any_eq_true, h.members g hg]
  refine exists_congr fun x => ?_
  rw [List.mem_filter, decide_eq_true_eq, and_assoc]
  refine and_congr_right fun hx => and_congr_left fun _ => ?_
  rw [Filter.equal_mark_iff (hfs x hx), Filter.slot?, Filter.slot?, hmark, slot?]

/-- Every group has a first filter, whose mark is that of the group. -/
theorem Collects.exists_leads (h : Collects fs gs) {g : Group} (hg : g ∈ gs) :
    ∃ f, Leads fs f ∧ f.mark = g.mark := by
  obtain ⟨f, hfirst, hmark⟩ := Option.map_eq_some_iff.mp (h.mark g hg)
  have hslot : f.slot? = g.slot? := congrArg Mark.slot? hmark
  rw [h.members g hg, ← hslot] at hfirst
  exact ⟨f, hfirst, hmark⟩

/-- The first filter of a feature has a group, with its mark. -/
theorem Collects.exists_of_leads (h : Collects fs gs) {f : Filter} (hf : Leads fs f) :
    ∃ g ∈ gs, f.mark = g.mark := by
  obtain ⟨g, hg, hslot⟩ := List.mem_map.mp (h.mem_slots_iff.mpr (List.mem_map_of_mem hf.mem))
  have hmark := h.mark g hg
  rw [h.members g hg, hslot, hf, Option.map_some] at hmark
  exact ⟨g, hg, Option.some.inj hmark⟩

theorem Collects.canBeTold_iff (hfs : Pipeline.Groupable fs) (h : Collects fs gs) {g : Group}
    (hg : g ∈ gs) {f : Filter} (hmark : f.mark = g.mark) :
    g.CanBeTold room text ↔ f.Tellable room fs text := by
  rw [CanBeTold, Tellable, hmark, h.accepts_iff hfs hg hmark]

theorem Collects.forall_canBeTold_iff (hfs : Pipeline.Groupable fs) (h : Collects fs gs) :
    (∀ g ∈ gs, g.CanBeTold room text) ↔ ∀ f, Leads fs f → f.Tellable room fs text := by
  constructor
  · intro htold f hf
    obtain ⟨g, hg, hmark⟩ := h.exists_of_leads hf
    exact (h.canBeTold_iff hfs hg hmark).mp (htold g hg)
  · intro htold g hg
    obtain ⟨f, hf, hmark⟩ := h.exists_leads hg
    exact (h.canBeTold_iff hfs hg hmark).mpr (htold f hf)

end Group

/-! ## The reports of a verdict -/

namespace GroupReport

/-- The filters that the report is on. -/
def filters (g : GroupReport) : List Filter := g.trials.map (·.filter)

/-- The group that the report is on. -/
def group (g : GroupReport) : Group := ⟨g.mark, g.filters⟩

theorem IsOn.group_eq {g : Group} {report : GroupReport} (h : report.IsOn room text g) :
    report.group = g := by
  rw [group, filters, h.mark, h.trials, List.map_map]
  exact congrArg _ (List.map_id _)

theorem map_group_eq {reports : List GroupReport}
    (h : List.Forall₂ (fun g report => IsOn room text g report) gs reports) :
    reports.map group = gs := by
  induction h with
  | nil => rfl
  | cons hfirst _ ih => rw [List.map_cons, ih, hfirst.group_eq]

/-- **The reports list the filters with their outcomes on a text.** -/
structure Lists (room : Nat) (fs : List Filter) (text : String) (reports : List GroupReport) :
    Prop where
  /-- Every feature has its report where it first occurs. -/
  slots : reports.map (fun g => Mark.slot? g.mark) = (fs.map Filter.slot?).eraseDups
  /-- No two reports are on equal features. -/
  apart : reports.Pairwise fun g h => ¬ Mark.Equal g.mark h.mark
  /-- A report has the mark of its first filter. -/
  mark : ∀ g ∈ reports, g.filters.head?.map (·.mark) = some g.mark
  label : ∀ g ∈ reports, Mark.labelOf room g.mark = .ok g.label
  /-- A report is on all filters of its feature, in their order. -/
  filters : ∀ g ∈ reports, g.filters = fs.filter fun f => f.slot? = Mark.slot? g.mark
  /-- Every filter is in the reports, as often as it occurs. -/
  perm : (reports.flatMap (·.filters)).Perm fs
  outcome : ∀ g ∈ reports, ∀ t ∈ g.trials, t.passed = t.filter.accepts text
  passed_iff : ∀ g ∈ reports, g.passed = true ↔ ∃ t ∈ g.trials, t.passed = true

theorem Lists.length_trials {reports : List GroupReport} (h : Lists room fs text reports) :
    (reports.flatMap (·.trials)).length = fs.length := by
  have hfilters : reports.flatMap (·.filters) = (reports.flatMap (·.trials)).map (·.filter) :=
    List.map_flatMap.symm
  rw [← h.perm.length_eq, hfilters, List.length_map]

/-- The reports on the groups of some filters list these. -/
theorem lists_of {reports : List GroupReport} (hgroups : Group.groups? fs = some gs)
    (h : List.Forall₂ (fun g report => IsOn room text g report) gs reports) :
    Lists room fs text reports := by
  have hcollects := Group.collects_groups? hgroups
  have hgroup := map_group_eq h
  have hmem : ∀ g ∈ reports, g.group ∈ gs := fun g hg => hgroup ▸ List.mem_map_of_mem hg
  have hslots : reports.map (fun g => Mark.slot? g.mark) = gs.map Group.slot? := by
    rw [← hgroup, List.map_map]
    rfl
  constructor
  case slots => rw [hslots, hcollects.slots]
  case apart =>
    have hapart := List.pairwise_map.mp (hslots ▸ hcollects.nodup)
    exact hapart.imp fun hne hequal => hne (Mark.equal_iff.mp hequal).1
  case mark => exact fun g hg => hcollects.mark g.group (hmem g hg)
  case label =>
    intro report hreport
    obtain ⟨g, -, hon⟩ := Sequence.exists_of_mem_right h hreport
    rw [hon.mark, hon.label]
  case filters => exact fun g hg => hcollects.members g.group (hmem g hg)
  case perm =>
    have hperm := Group.perm_groups? hgroups
    rwa [← hgroup, List.flatMap_map] at hperm
  case outcome =>
    intro report hreport t ht
    obtain ⟨g, -, hon⟩ := Sequence.exists_of_mem_right h hreport
    rw [hon.trials] at ht
    obtain ⟨f, -, rfl⟩ := List.mem_map.mp ht
    rfl
  case passed_iff => exact fun g _ => List.any_eq_true

end GroupReport

/-! ## The verdict -/

namespace Pipeline

open QuerySieve.Filter (Leads Tellable)

variable {r : Result}

theorem passes?_eq_none_iff_groups? (hfs : fs ≠ []) :
    passes? fs r = none ↔ Group.groups? fs = none := by
  rw [passes?, if_neg (mt List.isEmpty_iff.mp hfs), Option.map_eq_none_iff]

/-- There is no verdict for want of groups exactly if there is no decision. -/
theorem explain_eq_ungroupable_iff :
    explain room fs r = .error .ungroupable ↔ passes? fs r = none := by
  by_cases hfs : fs = []
  · subst hfs
    exact iff_of_false nofun nofun
  · rw [passes?_eq_none_iff_groups? hfs]
    constructor
    · intro h
      rcases of_explain_eq_error h with ⟨hnone, -⟩ | ⟨gs, -, ⟨g, -, fault, -, hb⟩ | ⟨hb, -⟩⟩
      · exact hnone
      · cases fault <;> cases hb
      · cases hb
    · intro hnone
      rw [explain, if_neg (mt List.isEmpty_iff.mp hfs), hnone]

/-- **There is a verdict exactly if the feature of every group can be told of.** -/
theorem exists_explain_iff_tellable (hfs : Groupable fs) :
    (∃ v, explain room fs r = .ok v) ↔ ∀ f, Leads fs f → f.Tellable room fs r.haystack := by
  by_cases hnil : fs = []
  · subst hnil
    exact iff_of_true ⟨_, rfl⟩ fun f hf => absurd hf.mem List.not_mem_nil
  · obtain ⟨gs, hgroups, hcollects⟩ := hfs.exists_groups
    rw [exists_explain_iff hnil hgroups, hcollects.forall_canBeTold_iff hfs]

/-- Where filters can be grouped, it is the feature of one of the groups that there is no verdict
for. -/
theorem exists_untellable {b : Breakdown} (h : explain room fs r = .error b)
    (hb : b ≠ .ungroupable) : ∃ f, Leads fs f ∧ ¬ f.Tellable room fs r.haystack ∧
      match Mark.labelOf room f.mark with
      | .error fault => b = .ofShowing fault
      | .ok _ => b = .wordless := by
  rcases of_explain_eq_error h with ⟨-, rfl⟩ | ⟨gs, hgroups, hwhy⟩
  · exact absurd rfl hb
  have hcollects := Group.collects_groups? hgroups
  have hgroupable : Groupable fs := fun f hf hnone =>
    nomatch hgroups.symm.trans (Group.groups?_eq_none_iff.mpr ⟨f, hf, hnone⟩)
  rcases hwhy with ⟨g, hg, fault, hfault, rfl⟩ | ⟨rfl, g, hg, label, hlabel, hfails, htruthy, hno⟩
  · obtain ⟨f, hf, hmark⟩ := hcollects.exists_leads hg
    refine ⟨f, hf, ?_, by rw [hmark, hfault]⟩
    rintro ⟨label, hlabel, -⟩
    rw [hmark, hfault] at hlabel
    exact nomatch hlabel
  · obtain ⟨f, hf, hmark⟩ := hcollects.exists_leads hg
    refine ⟨f, hf, ?_, by rw [hmark, hlabel]⟩
    rw [← hcollects.canBeTold_iff hgroupable hg hmark]
    rintro ⟨label', hlabel', haccepts | htext⟩
    · exact nomatch haccepts.symm.trans hfails
    · obtain rfl := Except.ok.inj (hlabel.symm.trans hlabel')
      obtain ⟨s, hs⟩ := htext htruthy
      exact hno s hs

/-- **The content of a verdict**: with filters, it has the reports that list them, and names the groups
that failed. -/
theorem exists_reports (hfs : fs ≠ []) {v : Verdict} (h : explain room fs r = .ok v) :
    ∃ reports failed, v = .tried fs.length r.haystack.length reports failed ∧
      GroupReport.Lists room fs r.haystack reports ∧
      (v.passed = true ↔ ∀ g ∈ reports, g.passed = true) ∧
      failed.map Data.text = (reports.filter fun g => !g.passed).map GroupReport.name := by
  obtain ⟨gs, reports, failed, hgroups, hreports, hfailed, rfl⟩ := (explain_eq_ok_iff hfs).mp h
  refine ⟨reports, failed, rfl, GroupReport.lists_of hgroups hreports, ?_, ?_⟩
  · rw [Verdict.passed, GroupReport.isEmpty_failed_eq hfailed, List.all_eq_true]
  · have hnames : List.Forall₂ (· = ·) ((reports.filter fun g => !g.passed).map GroupReport.name)
        (failed.map Data.text) :=
      List.forall₂_map_left_iff.mpr (List.forall₂_map_right_iff.mpr hfailed)
    exact (List.forall₂_eq_eq_eq ▸ hnames).symm

/-- **A verdict decides what is decided without it**, and lists all the filters: its reports have each
filter with its own outcome, its count is the number of these outcomes, and if it is against the
result its grounds are the groups that failed.  There is none where there is no decision, and else
exactly if the feature of a group cannot be told of. -/
theorem explain_agrees (room : Nat) (fs : List Filter) (r : Result) :
    (explain room fs r = .error .ungroupable ↔ passes? fs r = none) ∧
    (passes? fs r = none ↔ ∃ f ∈ fs, (∃ items, f.mark = some (.list items)) ∨
      ∃ label, f.mark = some (.other none label)) ∧
    (passes? fs r ≠ none → ((∃ v, explain room fs r = .ok v) ↔
      ∀ f, Leads fs f → f.Tellable room fs r.haystack)) ∧
    (∀ b, explain room fs r = .error b → b ≠ .ungroupable →
      ∃ f, Leads fs f ∧ ¬ f.Tellable room fs r.haystack ∧
        match Mark.labelOf room f.mark with
        | .error fault => b = .ofShowing fault
        | .ok _ => b = .wordless) ∧
    ∀ v, explain room fs r = .ok v → passes? fs r = some v.passed ∧ (fs ≠ [] →
      ∃ reports failed, v = .tried fs.length r.haystack.length reports failed ∧
        GroupReport.Lists room fs r.haystack reports ∧
        (v.passed = true ↔ ∀ g ∈ reports, g.passed = true) ∧
        v.filterCount = (reports.flatMap (·.trials)).length ∧ v.filterCount = fs.length ∧
        failed.map Data.text = ((reports.filter fun g => !g.passed).map fun g =>
          if g.label.isTruthy then g.label else .text "ungrouped") ∧
        (v.passed = false → v.reason = "No filter satisfied in group(s): " ++
          String.intercalate ", " failed)) := by
  refine ⟨explain_eq_ungroupable_iff, ?_, fun hsome => ?_, fun b => exists_untellable, ?_⟩
  · rw [passes?_eq_none_iff]
    exact exists_congr fun f => and_congr_right fun _ => Mark.slot?_eq_none_iff
  · exact exists_explain_iff_tellable (of_not_not (mt passes?_eq_none_iff_not_groupable.mpr hsome))
  · intro v hv
    refine ⟨passes?_of_explain hv, fun hfs => ?_⟩
    obtain ⟨reports, failed, rfl, hlists, hpassed, hnames⟩ := exists_reports hfs hv
    refine ⟨reports, failed, rfl, hlists, hpassed, hlists.length_trials.symm, rfl, hnames, ?_⟩
    intro hfails
    rw [Verdict.passed] at hfails
    rw [Verdict.reason, hfails, if_neg Bool.false_ne_true]

/-- Of three groups two fail, and the one of the empty feature is told as ungrouped. -/
theorem explain_agrees_hamlet :
    let fs : List Filter := [.make true "mp4" (some (.text "")) none,
      .make true "archive" none none, .make true "mp4" (some (.feature .fileName)) none,
      .make false "hamlet" (some (.text "")) none]
    let r : Result := ⟨"Hamlet", "", none, some "Archive", .unknown, none⟩
    let room := Limits.usual.shown
    ∃ v reports failed, explain room fs r = .ok v ∧ passes? fs r = some false ∧
      v = .tried 4 r.haystack.length reports failed ∧
      GroupReport.Lists room fs r.haystack reports ∧
      v.reason = "No filter satisfied in group(s): ungrouped, file_name" := by
  intro fs r room
  have hreason : (explain room fs r).map Verdict.reason =
      .ok "No filter satisfied in group(s): ungrouped, file_name" := by decide +kernel
  have hpasses : passes? fs r = some false := by decide +kernel
  obtain ⟨v, hv, hreason⟩ := Sequence.map_eq_ok_iff.mp hreason
  obtain ⟨-, -, -, -, hlists⟩ := explain_agrees room fs r
  obtain ⟨-, hlists⟩ := hlists v hv
  obtain ⟨reports, failed, heq, hreports, -⟩ := hlists nofun
  exact ⟨v, reports, failed, hv, hpasses, heq, hreports, hreason⟩

/-- **A result that is rejected without a verdict**: what is shown for the feature that fails is a
number, which is no text. -/
theorem explain_wordless :
    let f : Filter := .make true "pdf" (some (.other (some (.other 0)) (some (.int 1)))) none
    let r : Result := ⟨"Hamlet", "", none, some "Archive", .unknown, none⟩
    explain Limits.usual.shown [f] r = .error .wordless ∧ passes? [f] r = some false := by
  intro f r
  have hwordless : (explain Limits.usual.shown [f] r).map Verdict.reason = .error .wordless := by
    decide +kernel
  exact ⟨Sequence.map_eq_error_iff.mp hwordless, by decide +kernel⟩

end Pipeline

end QuerySieve
