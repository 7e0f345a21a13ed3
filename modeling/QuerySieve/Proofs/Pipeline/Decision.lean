import QuerySieve.Proofs.Feature
import QuerySieve.Proofs.Filter
import QuerySieve.Proofs.Pipeline

/-!
# Proofs/Pipeline/Decision — what the decision on a result depends on

Neither the order of the filters nor repetition has a part in a decision: it depends only on which
filters there are, and each of them counts as its polarity, its keyword and its feature
(`Filter.Alike`, `passes?_congr`).  Groups do not show in what is decided either — a result passes
exactly if every filter has one of an equal feature that accepts it (`passes?_order_free`).
-/

namespace QuerySieve

variable {fs gs : List Filter} {text : String}

namespace Filter

theorem equal_mark_iff {f g : Filter} (h : f.slot? ≠ none) :
    Mark.Equal f.mark g.mark ↔ f.slot? = g.slot? :=
  Mark.equal_iff.trans (and_iff_left h)

/-! ## Filters that are alike -/

/-- **The filters are alike**: equal, and grouped by the same. -/
def Alike (f g : Filter) : Prop := (f == g) = true ∧ f.slot? = g.slot?

instance (f g : Filter) : Decidable (Alike f g) := inferInstanceAs (Decidable (_ ∧ _))

theorem Alike.refl (f : Filter) : Alike f f := ⟨beq_refl f, rfl⟩

theorem Alike.trans {f g x : Filter} (hfg : Alike f g) (hgx : Alike g x) : Alike f x :=
  ⟨beq_trans hfg.1 hgx.1, hfg.2.trans hgx.2⟩

theorem alike_of_equal {f g : Filter} (h : (f == g) = true) (hmark : Mark.Equal f.mark g.mark) :
    Alike f g := ⟨h, (Mark.equal_iff.mp hmark).1⟩

/-- Every filter of the first list has one like it in the second. -/
def Within (fs gs : List Filter) : Prop := ∀ f ∈ fs, ∃ g ∈ gs, Alike f g

theorem within_of_subset (h : fs ⊆ gs) : Within fs gs := fun f hf => ⟨f, h hf, .refl f⟩

/-- A requirement that is met stays met under other filters that are alike. -/
theorem Met.of_within (hmet : Met fs text) (h : Within fs gs) (h' : Within gs fs) :
    Met gs text := by
  intro g hg
  -- over to the first list, there to the filter that accepts, and back again
  obtain ⟨f, hf, hgf⟩ := h' g hg
  obtain ⟨x, hx, hslot, haccepts⟩ := hmet f hf
  obtain ⟨y, hy, hxy⟩ := h x hx
  refine ⟨y, hy, hxy.2.symm.trans (hslot.trans hgf.2.symm), ?_⟩
  rw [← accepts_eq_of_beq hxy.1, haccepts]

theorem met_congr (h : Within fs gs) (h' : Within gs fs) : Met fs text ↔ Met gs text :=
  ⟨fun hmet => hmet.of_within h h', fun hmet => hmet.of_within h' h⟩

theorem met_perm (h : gs.Perm fs) : Met gs text ↔ Met fs text :=
  met_congr (within_of_subset h.subset) (within_of_subset h.symm.subset)

end Filter

namespace Pipeline

open QuerySieve.Filter

theorem Groupable.of_within (hfs : Groupable fs) (h : Within gs fs) : Groupable gs := by
  intro g hg
  obtain ⟨f, hf, hgf⟩ := h g hg
  exact hgf.2 ▸ hfs f hf

theorem passes?_eq_none_iff {r : Result} : passes? fs r = none ↔ ∃ f ∈ fs, f.slot? = none := by
  cases fs with
  | nil => simp [passes?]
  | cons f fs =>
    rw [passes?, if_neg (by simp), Option.map_eq_none_iff, Group.groups?_eq_none_iff]

/-- There is a decision on every result if all filters can be grouped, and only then. -/
theorem passes?_eq_none_iff_not_groupable {r : Result} :
    passes? fs r = none ↔ ¬ Groupable fs := by
  rw [passes?_eq_none_iff, Groupable]
  push Not
  rfl

/-- **A decision depends only on which filters there are**, up to filters that are alike. -/
theorem passes?_congr (h : Within fs gs) (h' : Within gs fs) (r : Result) :
    passes? fs r = passes? gs r := by
  by_cases hfs : Groupable fs
  · rw [passes?_eq_met hfs, passes?_eq_met (hfs.of_within h'),
      decide_eq_decide.mpr (met_congr h h')]
  · have hgs : ¬ Groupable gs := fun hgs => hfs (hgs.of_within h)
    rw [passes?_eq_none_iff_not_groupable.mpr hfs, passes?_eq_none_iff_not_groupable.mpr hgs]

/-- Filters that decide alike on every result pick the same results. -/
theorem accepted?_congr (h : ∀ r, passes? fs r = passes? gs r) :
    ∀ rs, accepted? fs rs = accepted? gs rs
  | [] => rfl
  | r :: rs => by rw [accepted?, accepted?, h r, accepted?_congr h rs]

theorem passes?_perm (h : gs.Perm fs) (r : Result) : passes? gs r = passes? fs r :=
  passes?_congr (within_of_subset h.subset) (within_of_subset h.symm.subset) r

/-! ## The decision without groups -/

/-- **A result passes exactly if every filter has one of an equal feature that accepts it**, and so
neither the order of the filters counts nor how often they are repeated with their features. -/
theorem passes?_order_free (h : Groupable fs) (r : Result) :
    (∃ passed, passes? fs r = some passed ∧
      (passed = true ↔
        ∀ f ∈ fs, ∃ g ∈ fs, Mark.Equal g.mark f.mark ∧ g.accepts r.haystack = true)) ∧
    (∀ gs, gs.Perm fs → passes? gs r = passes? fs r) ∧
    ∀ gs, fs ⊆ gs →
      (∀ g ∈ gs, ∃ f ∈ fs, (g == f) = true ∧ Mark.Equal g.mark f.mark) →
      passes? gs r = passes? fs r := by
  refine ⟨⟨_, passes?_eq_met h r, ?_⟩, fun gs hperm => passes?_perm hperm r, ?_⟩
  · rw [decide_eq_true_iff]
    refine forall₂_congr fun f _ => exists_congr fun g => and_congr_right fun hg => ?_
    rw [equal_mark_iff (h g hg)]
  · intro gs hsubset hrepeated
    refine passes?_congr (fun g hg => ?_) (within_of_subset hsubset) r
    obtain ⟨f, hf, heq, hmark⟩ := hrepeated g hg
    exact ⟨f, hf, alike_of_equal heq hmark⟩

/-- The truth value 1 and the number 1 are one requirement, in any order and however often. -/
theorem passes?_order_free_hamlet :
    let fs : List Filter := [.make true "epub" (some (.bool true)) none,
      .make false "mp4" none none, .make true "PDF" (some (.int 1)) none]
    let r : Result := ⟨"Hamlet", "", none, some "Archive", .unknown, some ⟨"hamlet.pdf", 7⟩⟩
    Groupable fs ∧ passes? fs r = some true ∧
      (∀ f ∈ fs, ∃ g ∈ fs, Mark.Equal g.mark f.mark ∧ g.accepts r.haystack = true) ∧
      passes? fs.reverse r = some true ∧ passes? (fs ++ fs) r = some true := by
  intro fs r
  have hgroupable : ∀ f ∈ fs, f.slot? ≠ none := by decide +kernel
  have hpasses : passes? fs r = some true := by decide +kernel
  obtain ⟨⟨passed, hpassed, hmet⟩, hperm, hrepeated⟩ := passes?_order_free hgroupable r
  refine ⟨hgroupable, hpasses, hmet.mp (Option.some.inj (hpassed.symm.trans hpasses)), ?_, ?_⟩
  · rw [hperm _ (List.reverse_perm fs), hpasses]
  · rw [hrepeated _ (List.subset_append_left fs fs), hpasses]
    intro g hg
    have hmem : g ∈ fs := (List.mem_append.mp hg).elim id id
    exact ⟨g, hmem, beq_refl g, (equal_mark_iff (hgroupable g hmem)).mpr rfl⟩

end Pipeline

end QuerySieve
