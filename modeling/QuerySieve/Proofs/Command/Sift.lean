import QuerySieve.Command.Run
import QuerySieve.Proofs.Pipeline
import QuerySieve.Proofs.Query.Scan
import QuerySieve.Proofs.Result.Entries
import QuerySieve.Proofs.Settings.Precedence

/-!
# Proofs/Command/Sift — which results sifting accepts

The filters of a query have no mark and those of the settings share one, so together they make one
requirement or two: one if the settings have no feature, and then the filters of both are
alternatives to each other; two if they have (`FilterSettings.wants`).  Sifting picks the results
that meet this, in their order, and asking for the verdicts changes nothing (`judge_eq_filter`).
-/

namespace QuerySieve

namespace Query

theorem mark_of_mem_filters {query : String} {f : Filter} (h : f ∈ filters query) :
    f.mark = none := by
  obtain ⟨p, -, hp⟩ := List.mem_filterMap.mp h
  exact Piece.mark_of_filter? hp

theorem slot?_of_mem_filters {query : String} {f : Filter} (h : f ∈ filters query) :
    f.slot? = some .ungrouped := by
  rw [Filter.slot?, mark_of_mem_filters h, Mark.slot?]

end Query

namespace FilterSettings

/-- The slot of the filters that are set. -/
def slot (set : FilterSettings) : Slot := set.feature.elim .ungrouped .feature

theorem mark_of_mem_toFilters {set : FilterSettings} {f : Filter} (h : f ∈ set.toFilters) :
    f.mark = set.feature.map Mark.feature := by
  rcases List.mem_append.mp h with h | h
  · obtain ⟨keyword, -, rfl⟩ := List.mem_map.mp h
    rfl
  · obtain ⟨keyword, -, rfl⟩ := List.mem_map.mp h
    rfl

theorem slot?_of_mem_toFilters {set : FilterSettings} {f : Filter} (h : f ∈ set.toFilters) :
    f.slot? = some set.slot := by
  rw [Filter.slot?, mark_of_mem_toFilters h, slot]
  cases set.feature <;> rfl

/-- **What a query and settings want of a result.** Without a feature one of all filters accepts it,
with a feature one of the query's and one of those that are set; filters that are not there want
nothing. -/
def wants (set : FilterSettings) (query : String) (r : Result) : Bool :=
  match set.feature with
  | none => Filter.anyAccepts (Query.filters query ++ set.toFilters) r.haystack
  | some _ =>
    Filter.anyAccepts (Query.filters query) r.haystack &&
      Filter.anyAccepts set.toFilters r.haystack

theorem met_ofQuery_iff (set : FilterSettings) (query : String) (r : Result) :
    Filter.Met (Pipeline.ofQuery query set.toFilters) r.haystack ↔ set.wants query r = true := by
  rw [Pipeline.ofQuery, wants]
  cases hfeature : set.feature with
  | none =>
    have hslot : set.slot = .ungrouped := by rw [slot, hfeature]; rfl
    have hsame : ∀ f ∈ Query.filters query ++ set.toFilters, f.slot? = some .ungrouped := by
      intro f hf
      rcases List.mem_append.mp hf with hf | hf
      · exact Query.slot?_of_mem_filters hf
      · rw [slot?_of_mem_toFilters hf, hslot]
    exact Filter.met_iff_anyAccepts hsame
  | some x =>
    have hslot : set.slot = .feature x := by rw [slot, hfeature]; rfl
    have hdisjoint : ∀ f ∈ Query.filters query, ∀ g ∈ set.toFilters, f.slot? ≠ g.slot? := by
      intro f hf g hg
      rw [Query.slot?_of_mem_filters hf, slot?_of_mem_toFilters hg, hslot]
      exact fun h => Slot.noConfusion (Option.some.inj h)
    rw [Filter.met_append_iff hdisjoint,
      Filter.met_iff_anyAccepts fun f hf => Query.slot?_of_mem_filters hf,
      Filter.met_iff_anyAccepts fun f hf => slot?_of_mem_toFilters hf, Bool.and_eq_true]

theorem groupable_ofQuery (set : FilterSettings) (query : String) :
    Pipeline.Groupable (Pipeline.ofQuery query set.toFilters) := by
  refine Pipeline.Groupable.append (fun f hf => ?_) (fun f hf => ?_)
  · exact Query.slot?_of_mem_filters hf ▸ Option.some_ne_none _
  · exact slot?_of_mem_toFilters hf ▸ Option.some_ne_none _

/-- Every filter of a query or of settings has something to show for its mark: its feature's name, or
nothing at all. -/
theorem exists_label_ofQuery (set : FilterSettings) (query : String) (room : Nat) :
    ∀ f ∈ Pipeline.ofQuery query set.toFilters, ∃ label, Mark.labelOf room f.mark = .ok label ∧
      (label.isTruthy = true → ∃ s, label = .text s) := by
  intro f hf
  rcases List.mem_append.mp hf with hf | hf
  · exact ⟨.null, by rw [Query.mark_of_mem_filters hf, Mark.labelOf], nofun⟩
  · rw [mark_of_mem_toFilters hf]
    cases set.feature with
    | none => exact ⟨.null, rfl, nofun⟩
    | some x => exact ⟨_, rfl, fun _ => ⟨x.name, rfl⟩⟩

end FilterSettings

namespace Command

open Sequence (bind_eq_ok_iff)
open Pipeline

/-- **Judging picks the results that meet the filters**, whether or not the verdicts are asked for,
if there is a verdict on every result. -/
theorem judge_eq_filter {room : Nat} {fs : List Filter} (h : Groupable fs)
    (hlabels : ∀ f ∈ fs, ∃ label, Mark.labelOf room f.mark = .ok label ∧
      (label.isTruthy = true → ∃ s, label = .text s)) (rs : List Result) (explain : Bool) :
    ∃ verdicts notes, judge room fs rs explain =
      .ok (rs.filter fun r => decide (Filter.Met fs r.haystack), verdicts, notes) := by
  cases explain with
  | false =>
    refine ⟨[], acceptedJournal fs rs, ?_⟩
    rw [judge, if_neg Bool.false_ne_true, accepted?_eq_filter (passes?_eq_met h)]
  | true =>
    obtain ⟨verdict, hverdict, hpassed⟩ := exists_verdict h hlabels
    refine ⟨rs.map fun r => (r, verdict r), rs.flatMap (explainJournal room fs), ?_⟩
    have hmapM : (rs.mapM fun r => (Pipeline.explain room fs r).map fun v => (r, v)) =
        .ok (rs.map fun r => (r, verdict r)) := by
      rw [Sequence.mapM_eq_ok_iff, List.forall₂_map_right_iff, List.forall₂_same]
      exact fun r _ => by rw [hverdict r, Except.map]
    have hpicked : ((rs.map fun r => (r, verdict r)).filter (·.2.passed)).map (·.1) =
        rs.filter fun r => decide (Filter.Met fs r.haystack) := by
      rw [List.filter_map, List.map_map]
      refine (List.map_id _).trans (List.filter_congr fun r _ => hpassed r)
    rw [judge, if_pos rfl, hmapM, ← hpicked]
    rfl

/-- **The filters of a query and of settings pick what these want.** -/
theorem judge_ofQuery (room : Nat) (set : FilterSettings) (query : String) (rs : List Result)
    (explain : Bool) : ∃ verdicts notes, judge room (ofQuery query set.toFilters) rs explain =
      .ok (rs.filter (set.wants query), verdicts, notes) := by
  have hwants : (fun r : Result => decide (Filter.Met (ofQuery query set.toFilters) r.haystack)) =
      set.wants query := by
    funext r
    rw [Bool.eq_iff_iff, decide_eq_true_iff]
    exact set.met_ofQuery_iff query r
  rw [← hwants]
  exact judge_eq_filter (set.groupable_ofQuery query) (set.exists_label_ofQuery query room) rs explain

/-- **All that sifting needs beforehand**: settings that can be loaded and results that can be read.
It is done with the filters of the query and those that are set. -/
theorem prepare_eq_ok_iff {w : World} {s : Sifting} {settings : Settings} {fs : List Filter}
    {rs : List Result} :
    prepare w s = .ok (settings, fs, rs) ↔
      (∃ loader, Loader.start w s.settings = .ok loader ∧
        loader.outcome w Loader.usualStart s.arguments = .ok settings) ∧
      Archive.load w s.results = .ok rs ∧ fs = ofQuery s.query settings.filters.toFilters := by
  simp only [prepare, bind_eq_ok_iff, Except.ok.injEq, Prod.mk.injEq]
  constructor
  · rintro ⟨loader, hloader, _, hsettings, _, hresults, rfl, rfl, rfl⟩
    exact ⟨⟨loader, hloader, hsettings⟩, hresults, rfl⟩
  · rintro ⟨⟨loader, hloader, hsettings⟩, hresults, rfl⟩
    exact ⟨loader, hloader, _, hsettings, _, hresults, rfl, rfl, rfl⟩

/-- **Sifting accepts the results that the query and the settings want**, in their order and as
often as they occur, if settings and results can be loaded; and it makes no difference to that
whether the verdicts are asked for.  If they cannot be loaded, that is the end of it. -/
theorem runSift_accepts (w : World) (s : Sifting) :
    (∀ failure, prepare w s = .error failure → runSift w s = .error failure) ∧
    ∀ loader settings rs, Loader.start w s.settings = .ok loader →
      loader.outcome w Loader.usualStart s.arguments = .ok settings →
      Archive.load w s.results = .ok rs →
      let fs := ofQuery s.query settings.filters.toFilters
      let accepted := rs.filter (settings.filters.wants s.query)
      (∀ explain, ∃ verdicts notes,
        judge w.limits.shown fs rs explain = .ok (accepted, verdicts, notes)) ∧
      ∃ verdicts notes, runSift w s = .ok { Outcome.printed w (
          if s.asJson then Json.page (.list (accepted.map summary)) ++ "\n"
          else siftingText w.limits.shown s.query fs rs.length accepted verdicts) with
            notes := notes } := by
  constructor
  · intro failure hprepare
    rw [runSift, hprepare]
    rfl
  · intro loader settings rs hstart hsettings hresults fs accepted
    have hprepare : prepare w s = .ok (settings, fs, rs) :=
      prepare_eq_ok_iff.mpr ⟨⟨loader, hstart, hsettings⟩, hresults, rfl⟩
    have hjudge := judge_ofQuery w.limits.shown settings.filters s.query rs
    refine ⟨hjudge, ?_⟩
    obtain ⟨verdicts, notes, hverdicts⟩ := hjudge s.explain
    refine ⟨verdicts, notes.filter (Threshold.from settings.effectiveLevel).shows, ?_⟩
    rw [runSift, hprepare]
    simp only [bind, Except.bind, fs, hverdicts, Except.mapError]
    rfl

/-- The filter of the query and the one of the settings are separate requirements.  The first result
does not meet the second of them, and the last two are accepted although they are the same. -/
theorem runSift_accepts_lear :
    let content := "[\x7b\"display_name\":\"Lear\",\"source\":\"mp4\"\x7d," ++
      "\x7b\"display_name\":\"Lear\"\x7d,\x7b\"display_name\":\"Lear\"\x7d]"
    let w : World := ⟨⟨[(["c.json"], .file "\x7b\x7d".toUTF8), (["r.json"], .file content.toUTF8)]⟩,
      ⟨1, []⟩, ⟨1, []⟩, [("SEARCHFILTER_FEATURE", "file_name")], ⟨1, 2, 3, 4, 5, 6, 7, none⟩,
      .usual⟩
    let s : Sifting :=
      ⟨"+:keyword:lear", ⟨0, ["r.json"]⟩, some "c.json", [], ["mp4"], true, true, false, false⟩
    let lear : Result := ⟨"Lear", "", none, none, .unknown, none⟩
    let settings : Settings := { Settings.unset with filters := ⟨[], ["mp4"], some .fileName⟩ }
    let rs : List Result := [{ lear with source := some "mp4" }, lear, lear]
    ∃ loader, Loader.start w s.settings = .ok loader ∧
      loader.outcome w Loader.usualStart s.arguments = .ok settings ∧
      Archive.load w s.results = .ok rs ∧
      ∃ notes, runSift w s = .ok { Outcome.printed w
        (Json.page (.list ([lear, lear].map summary)) ++ "\n") with notes := notes } := by
  intro content w s lear settings rs
  let l : Loader := ⟨some ⟨0, ["c.json"]⟩, Loader.usualPlaces w ⟨1, []⟩, none⟩
  have hread : ∀ name bytes, FileTree.file w.tree [name] = .ok bytes → name ∈ ["c.json", "r.json"] →
      w.read ⟨0, [name]⟩ = .ok bytes := by
    intro name bytes hfile hname
    have hpath : w.path ⟨0, [name]⟩ = .ok [name] := by
      rcases List.mem_pair.mp hname with rfl | rfl <;> exact if_neg (by simp [Place.text])
    rw [World.read, hpath]
    exact hfile
  have hsettings : l.outcome w Loader.usualStart s.arguments = .ok settings := by
    have hfields : Settings.ofFields (Settings.combine []
        (Settings.ofVariables Loader.usualStart w.valueOf?) (Settings.ofArguments s.arguments)) =
          .ok settings := by decide +kernel
    rw [Loader.outcome, Loader.fileFields_of_json rfl (hread "c.json" _ rfl (by simp)) (by simp)
      (by decide +kernel) rfl]
    exact (Loader.validate_eq_mapError rfl).trans (congrArg (Except.mapError Loader.unfit) hfields)
  have hresults : Archive.load w s.results = .ok rs := by
    let named : Key × Data := (.name "display_name", .text "Lear")
    have hjson : Json.read 985 content = .ok (.list [.record
        [named, (.name "source", .text "mp4")], .record [named], .record [named]]) := by
      simp [content, named, Json.read, Json.readValue, Json.readItems, Json.skipSpace, Json.isSpace,
        Json.readFields, Json.readText, Json.expect, Fields.put, Key.same, Key.canonical, bind,
        Except.bind]
    have hfile : Archive.HoldsList w s.results _ :=
      ⟨_, _, hread "r.json" _ rfl (by simp), FileTree.decode?_toUTF8 (by simp [content]), hjson⟩
    rw [hfile.load_eq]
    rfl
  have haccepted : rs.filter (settings.filters.wants s.query) = [lear, lear] := by decide +kernel
  obtain ⟨-, ⟨_, notes, hrun⟩⟩ := (runSift_accepts w s).2 l settings rs rfl hsettings hresults
  dsimp only at hrun
  rw [haccepted] at hrun
  exact ⟨l, rfl, hsettings, hresults, notes, hrun⟩

end Command

end QuerySieve
