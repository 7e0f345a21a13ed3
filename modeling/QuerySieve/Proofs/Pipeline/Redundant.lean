import QuerySieve.Proofs.Pipeline.Decision

/-!
# Proofs/Pipeline/Redundant — which filters can be left out

A filter can be left out of a pipeline, whatever the result, if one like it stays.  So the pipeline
decides the same with only the first of all that are alike (`Filter.unrepeated`), and with only the
first of all that are equal (`Filter.distinct`) where equal filters have equal features.

Equality alone is not enough — an equal filter under another feature belongs to another requirement.
Leaving out a filter changes the decision on a result exactly if the filter decides on it
(`passes?_remove_iff`): all other requirements are met, and of its own requirement the filter says
something else than the rest (`Filter.Decides`).
-/

namespace QuerySieve

variable {fs : List Filter} {f : Filter} {text : String}

namespace Filter

/-! ## The first of all that are the same -/

section Firsts

variable {same : Filter → Filter → Bool}

/-- The filters without every one that is the same as an earlier one. -/
def firsts (same : Filter → Filter → Bool) : List Filter → List Filter
  | [] => []
  | f :: fs => f :: (firsts same fs).filter fun g => !same g f

theorem firsts_sublist : ∀ fs, (firsts same fs).Sublist fs
  | [] => .slnil
  | _ :: fs => ((List.filter_sublist (l := firsts same fs)).trans (firsts_sublist fs)).cons_cons _

/-- Of every filter there is one that is the same among the first ones. -/
theorem exists_mem_firsts (hrefl : ∀ f, same f f = true)
    (htrans : ∀ f g x, same f g = true → same g x = true → same f x = true) :
    ∀ {fs : List Filter}, ∀ f ∈ fs, ∃ g ∈ firsts same fs, same f g = true
  | first :: fs, f, hf => by
    rcases List.mem_cons.mp hf with rfl | hf
    · exact ⟨f, List.mem_cons_self, hrefl f⟩
    obtain ⟨g, hg, hfg⟩ := exists_mem_firsts hrefl htrans f hf
    by_cases hfirst : same g first = true
    · exact ⟨first, List.mem_cons_self, htrans f g first hfg hfirst⟩
    · exact ⟨g, List.mem_cons_of_mem _ (List.mem_filter.mpr ⟨hg, by simpa using hfirst⟩), hfg⟩

end Firsts

theorem distinct_eq_firsts : ∀ fs : List Filter, distinct fs = firsts (· == ·) fs
  | [] => rfl
  | f :: fs => by rw [distinct, firsts, distinct_eq_firsts fs]; rfl

/-- **The filters without every one that equals an earlier one of an equal feature.** -/
def unrepeated : List Filter → List Filter := firsts fun f g => decide (Alike f g)

theorem within_unrepeated (fs : List Filter) : Within fs (unrepeated fs) := by
  intro f hf
  have hrefl : ∀ f, decide (Alike f f) = true := fun f => decide_eq_true (.refl f)
  have htrans : ∀ f g x, decide (Alike f g) = true → decide (Alike g x) = true →
      decide (Alike f x) = true := fun f g x hfg hgx =>
    decide_eq_true ((of_decide_eq_true hfg).trans (of_decide_eq_true hgx))
  obtain ⟨g, hg, hsame⟩ := exists_mem_firsts hrefl htrans f hf
  exact ⟨g, hg, of_decide_eq_true hsame⟩

/-- Where equal filters have equal features, equal ones are alike. -/
theorem within_distinct (h : ∀ f ∈ fs, ∀ g ∈ fs, (f == g) = true → f.slot? = g.slot?) :
    Within fs (distinct fs) := by
  intro f hf
  obtain ⟨g, hg, hsame⟩ := exists_mem_firsts beq_refl (fun _ _ _ => beq_trans) f hf
  have hmem : g ∈ fs := (firsts_sublist fs).subset hg
  exact ⟨g, distinct_eq_firsts fs ▸ hg, hsame, h f hf g hmem hsame⟩

/-! ## A filter that decides -/

/-- The filters of a list that are grouped with a filter. -/
def alternatives (f : Filter) (fs : List Filter) : List Filter :=
  fs.filter fun g => g.slot? = f.slot?

/-- The filters of a list that are not grouped with a filter. -/
def others (f : Filter) (fs : List Filter) : List Filter := fs.filter fun g => g.slot? ≠ f.slot?

/-- The requirement that a filter belongs to stands apart from all others. -/
theorem met_iff_alternatives (f : Filter) (fs : List Filter) :
    Met fs text ↔ anyAccepts (alternatives f fs) text = true ∧ Met (others f fs) text := by
  have hsplit : (alternatives f fs ++ others f fs).Perm fs := by
    simpa [alternatives, others] using List.filter_append_perm (·.slot? = f.slot?) fs
  have hslot : ∀ g ∈ alternatives f fs, g.slot? = f.slot? := fun g hg =>
    of_decide_eq_true (List.mem_filter.mp hg).2
  have hapart : ∀ g ∈ alternatives f fs, ∀ x ∈ others f fs, g.slot? ≠ x.slot? := fun g hg x hx =>
    hslot g hg ▸ (of_decide_eq_true (List.mem_filter.mp hx).2).symm
  rw [← met_perm hsplit, met_append_iff hapart, met_iff_anyAccepts hslot]

theorem alternatives_cons_self (f : Filter) (fs : List Filter) :
    alternatives f (f :: fs) = f :: alternatives f fs :=
  List.filter_cons_of_pos (decide_eq_true rfl)

theorem others_cons_self (f : Filter) (fs : List Filter) : others f (f :: fs) = others f fs :=
  List.filter_cons_of_neg (by simp)

/-- **The filter decides on a text next to the rest**: whatever it is not grouped with is met, none of
its alternatives accepts, and it accepts exactly if there are alternatives. -/
structure Decides (f : Filter) (rest : List Filter) (text : String) : Prop where
  others : Met (f.others rest) text
  alternatives : ∀ g ∈ f.alternatives rest, g.accepts text = false
  accepts_iff : f.accepts text = true ↔ f.alternatives rest ≠ []

/-- **A filter makes a difference exactly if it decides.** -/
theorem met_cons_iff_not_decides (f : Filter) (rest : List Filter) (text : String) :
    (Met rest text ↔ Met (f :: rest) text) ↔ ¬ Decides f rest text := by
  rw [met_iff_alternatives f rest, met_iff_alternatives f (f :: rest), alternatives_cons_self,
    others_cons_self, anyAccepts, anyAccepts, List.isEmpty_cons, Bool.false_or, List.any_cons]
  constructor
  · rintro hsame ⟨hothers, hnone, haccepts⟩
    have hany : (f.alternatives rest).any (·.accepts text) = false := by simpa using hnone
    -- without alternatives the rest wants nothing more, with some it wants one of them to accept
    rw [hany, Bool.or_false, Bool.or_false, and_iff_left hothers, and_iff_left hothers,
      haccepts, List.isEmpty_iff] at hsame
    exact iff_not_self hsame
  · intro hnot
    refine and_congr_left fun hothers => ?_
    cases hany : (f.alternatives rest).any (·.accepts text) with
    | true => rw [Bool.or_true, Bool.or_true]
    | false =>
      have hnone : ∀ g ∈ f.alternatives rest, g.accepts text = false := by simpa using hany
      have hdiffers : ¬ (f.accepts text = true ↔ f.alternatives rest ≠ []) := fun h =>
        hnot ⟨hothers, hnone, h⟩
      rw [Bool.or_false, Bool.or_false, List.isEmpty_iff]
      exact (not_iff_not.mp (not_iff.mp hdiffers)).symm

/-- A filter does not decide next to one like it. -/
theorem not_decides_of_alike {rest : List Filter} {e : Filter} (he : e ∈ rest) (h : Alike e f) :
    ¬ Decides f rest text := by
  intro hdecides
  have hmem : e ∈ f.alternatives rest := List.mem_filter.mpr ⟨he, decide_eq_true h.2⟩
  have haccepts : f.accepts text = true := hdecides.accepts_iff.mpr (List.ne_nil_of_mem hmem)
  rw [← accepts_eq_of_beq h.1, hdecides.alternatives e hmem] at haccepts
  exact Bool.false_ne_true haccepts

end Filter

namespace Pipeline

open QuerySieve.Filter

/-- **Leaving out a filter changes nothing exactly if it does not decide.** -/
theorem passes?_remove_iff {before after : List Filter} (h : Groupable (before ++ f :: after))
    (r : Result) :
    passes? (before ++ after) r = passes? (before ++ f :: after) r ↔
      ¬ f.Decides (before ++ after) r.haystack := by
  have hmiddle : (before ++ f :: after).Perm (f :: (before ++ after)) := List.perm_middle
  have hrest : Groupable (before ++ after) := fun g hg =>
    h g (hmiddle.mem_iff.mpr (List.mem_cons_of_mem f hg))
  rw [passes?_eq_met h, passes?_eq_met hrest, Option.some.injEq, decide_eq_decide,
    met_perm hmiddle]
  exact met_cons_iff_not_decides f (before ++ after) r.haystack

/-- The first of all filters that are alike pick the same results as all of them. -/
theorem accepted?_unrepeated (fs : List Filter) (rs : List Result) :
    accepted? (unrepeated fs) rs = accepted? fs rs := by
  refine accepted?_congr (fun r => passes?_congr ?_ (within_unrepeated fs) r) rs
  exact within_of_subset (firsts_sublist fs).subset

/-- The first of all filters that are equal do so where equal filters have equal features. -/
theorem accepted?_distinct (h : ∀ f ∈ fs, ∀ g ∈ fs, (f == g) = true → f.slot? = g.slot?)
    (rs : List Result) : accepted? (distinct fs) rs = accepted? fs rs := by
  refine accepted?_congr (fun r => passes?_congr ?_ (within_distinct h) r) rs
  exact distinct_eq_firsts fs ▸ within_of_subset (firsts_sublist fs).subset

/-- **A filter can be left out if an equal one of an equal feature stays**; any other one can exactly
on the results on which it does not decide.  So the first of all that are equal and have equal
features accept the same results as all of them, and so do the first of all that are equal if these
have equal features. -/
theorem repeated_filters_inert (h : Groupable fs) :
    (∀ before f after, fs = before ++ f :: after → ∀ r,
      ((∃ e ∈ before ++ after, (e == f) = true ∧ Mark.Equal e.mark f.mark) →
        ∃ passed, passes? fs r = some passed ∧ passes? (before ++ after) r = some passed) ∧
      (passes? (before ++ after) r = passes? fs r ↔ ¬ f.Decides (before ++ after) r.haystack)) ∧
    ∀ rs, accepted? (Filter.unrepeated fs) rs = accepted? fs rs ∧
      ((∀ e ∈ fs, ∀ f ∈ fs, (e == f) = true → Mark.Equal e.mark f.mark) →
        accepted? (Filter.distinct fs) rs = accepted? fs rs) := by
  refine ⟨?_, fun rs => ⟨accepted?_unrepeated fs rs, fun hequal => ?_⟩⟩
  · rintro before f after rfl r
    refine ⟨?_, passes?_remove_iff h r⟩
    rintro ⟨e, he, heq, hmark⟩
    have hsame := (passes?_remove_iff h r).mpr (not_decides_of_alike he (alike_of_equal heq hmark))
    exact ⟨_, passes?_eq_met h r, hsame.trans (passes?_eq_met h r)⟩
  · refine accepted?_distinct (fun e he f hf heq => ?_) rs
    exact (equal_mark_iff (h e he)).mp (hequal e he f hf heq)

/-- The second filter for the same keyword is grouped with the first, by a truth value in place of a
number, and is left out. -/
theorem repeated_filters_inert_hamlet :
    let pdf : Filter := .make true "pdf" (some (.int 1)) none
    let epub : Filter := .make true "epub" (some (.int 1)) none
    let again : Filter := .make true "PDF" (some (.bool true)) none
    let fs := [pdf, epub] ++ again :: []
    let r : Result := ⟨"Hamlet", "", none, some "Archive", .unknown, some ⟨"hamlet.epub", 7⟩⟩
    Groupable fs ∧ (pdf == again) = true ∧ Mark.Equal pdf.mark again.mark ∧
      (∃ passed, passes? fs r = some passed ∧ passes? ([pdf, epub] ++ []) r = some passed) ∧
      accepted? (Filter.unrepeated fs) [r] = accepted? fs [r] ∧
      accepted? (Filter.distinct fs) [r] = accepted? fs [r] := by
  intro pdf epub again fs r
  have hgroupable : ∀ f ∈ fs, f.slot? ≠ none := by decide +kernel
  have heq : (pdf == again) = true := by decide +kernel
  have hmark : Mark.Equal pdf.mark again.mark := .number rfl rfl
  have hone : ∀ f ∈ fs, f.slot? = some (.int 1) := by decide +kernel
  have hequal : ∀ e ∈ fs, ∀ f ∈ fs, (e == f) = true → Mark.Equal e.mark f.mark :=
    fun e he f hf _ => (equal_mark_iff (hgroupable e he)).mpr ((hone e he).trans (hone f hf).symm)
  obtain ⟨hremove, haccepted⟩ := repeated_filters_inert hgroupable
  refine ⟨hgroupable, heq, hmark, ?_, (haccepted [r]).1, (haccepted [r]).2 hequal⟩
  exact (hremove [pdf, epub] again [] rfl r).1 ⟨pdf, List.mem_cons_self, heq, hmark⟩

/-- The same keyword under another feature is a requirement of its own, and not inert. -/
theorem passes?_equal_elsewhere :
    let a : Filter := .make true "a" none none
    let b : Filter := .make true "b" none none
    let again : Filter := .make true "a" (some (.feature .fileName)) none
    let r : Result := ⟨"b", "", none, some "s", .unknown, none⟩
    Groupable [a, b, again] ∧ (a == again) = true ∧
      passes? [a, b, again] r = some false ∧ passes? [a, b] r = some true ∧
      accepted? [a, b, again] [r] = some [] ∧
      accepted? (Filter.distinct [a, b, again]) [r] = some [r] := by
  intro a b again r
  have hgroupable : ∀ f ∈ [a, b, again], f.slot? ≠ none := by decide +kernel
  exact ⟨hgroupable, by decide +kernel, by decide +kernel, by decide +kernel, by decide +kernel,
    by decide +kernel⟩

end Pipeline

end QuerySieve
