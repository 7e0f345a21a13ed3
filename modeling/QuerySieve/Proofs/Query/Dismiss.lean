import Mathlib.Data.List.Nodup
import QuerySieve.Proofs.Query.Astray

/-!
# Proofs/Query/Dismiss — a query without the tokens of some of its filters

When only some filters are taken out of a query, the tokens of the others stay.  If the forms of the
filters are distinct, the pieces that go are those whose filters are dismissed, and the removals
take out just these — if and only if no filter that stays has a form that holds the form of a later
one that is dismissed, as `:keyword:ab` holds `:keyword:a` (`without_eq_iff_unshadowed`).
-/

namespace QuerySieve

namespace Piece

variable {cs : List Char} {ps : List Piece}

/-- A piece stays when some filters are dismissed, unless its filter is written as one of these. -/
def staysWithout (fs : List Filter) (p : Piece) : Bool :=
  !p.filter?.any fun f => fs.any (·.form == f.form)

section Dismissed

variable {fs : List Filter} {p : Piece} {f : Filter}

theorem staysWithout_of_filter?_eq_none (h : p.filter? = none) : p.staysWithout fs = true := by
  rw [staysWithout, h, Option.any_none, Bool.not_false]

/-- Filters with distinct forms that are in a list are picked out of it by their forms. -/
theorem filter_any_form_eq {gs : List Filter} (hfs : fs.Sublist gs)
    (hforms : (gs.map (·.form)).Nodup) : gs.filter (fun g => fs.any (·.form == g.form)) = fs := by
  induction hfs with
  | slnil => rfl
  | @cons fs gs g hfs ih =>
    rw [List.map_cons, List.nodup_cons] at hforms
    have hg : ¬ fs.any (·.form == g.form) = true := fun hany => by
      obtain ⟨f, hf, hform⟩ := List.any_eq_true.mp hany
      exact hforms.1 (List.mem_map.mpr ⟨f, hfs.subset hf, beq_iff_eq.mp hform⟩)
    rw [List.filter_cons, if_neg hg, ih hforms.2]
  | @cons_cons fs gs g hfs ih =>
    rw [List.map_cons, List.nodup_cons] at hforms
    rw [List.filter_cons, if_pos (by simp)]
    refine congrArg (g :: ·) ((List.filter_congr fun f hf => ?_).trans (ih hforms.2))
    have hne : g.form ≠ f.form := fun hform => hforms.1 (List.mem_map.mpr ⟨f, hf, hform.symm⟩)
    rw [List.any_cons, beq_eq_false_iff_ne.mpr hne, Bool.false_or]

/-- What stays is written otherwise than what goes. -/
theorem Scanned.text_ne_of_stays (hscan : Scanned cs ps) {q : Piece} (hp : p ∈ ps) (hq : q ∈ ps)
    (hstays : p.staysWithout fs = true) (hgoes : q.staysWithout fs = false) : p.text ≠ q.text := by
  intro htext
  cases hg : q.filter? with
  | none => exact Bool.false_ne_true (hgoes.symm.trans (staysWithout_of_filter?_eq_none hg))
  | some g =>
    cases hf : p.filter? with
    | none =>
      exact hscan.not_infix_of_filter?_eq_none hp hq hf (hg ▸ Option.some_ne_none g)
        (htext ▸ List.infix_rfl)
    | some f =>
      have hform : f.form = g.form := by
        rw [← String.toList_inj, toList_form_of_filter? hf, toList_form_of_filter? hg, htext]
      rw [staysWithout, hg, Option.any_some, ← hform] at hgoes
      rw [staysWithout, hf, Option.any_some] at hstays
      exact Bool.false_ne_true (hgoes.symm.trans hstays)

section Distinct

variable (hfs : fs.Sublist (ps.filterMap filter?))
variable (hforms : ((ps.filterMap filter?).map (·.form)).Nodup)

include hfs hforms

/-- Where the forms are distinct, a piece goes exactly if its filter is dismissed. -/
theorem staysWithout_eq_false_iff (hp : p ∈ ps) (h : p.filter? = some f) :
    p.staysWithout fs = false ↔ f ∈ fs := by
  have hf : f ∈ ps.filterMap filter? := List.mem_filterMap.mpr ⟨p, hp, h⟩
  rw [staysWithout, h, Option.any_some, Bool.not_eq_false', List.any_eq_true]
  constructor
  · rintro ⟨g, hg, hform⟩
    exact List.inj_on_of_nodup_map hforms (hfs.subset hg) hf (beq_iff_eq.mp hform) ▸ hg
  · exact fun hf => ⟨f, hf, beq_iff_eq.mpr rfl⟩

/-- The dismissed filters are written as the pieces that go. -/
theorem map_form_eq_filter :
    fs.map (·.form.toList) = (ps.filter fun p => !p.staysWithout fs).map text := by
  have hpicked := map_form_filter (fun f => fs.any (·.form == f.form)) ps
  rw [filter_any_form_eq hfs hforms] at hpicked
  simpa only [staysWithout, Bool.not_not] using hpicked

/-- No token is shadowed exactly if no filter that stays has a form that holds the form of a later
one that is dismissed. -/
theorem Scanned.unshadowed_iff (hscan : Scanned cs ps) :
    Unshadowed (staysWithout fs) ps ↔ (ps.filterMap filter?).Pairwise fun f g =>
      f ∉ fs → g ∈ fs → ¬ g.form.toList <:+: f.form.toList := by
  rw [List.pairwise_filterMap, Unshadowed]
  refine List.Pairwise.iff_of_mem fun {p q} hp hq => ?_
  have hgoes : ∀ {p f}, p ∈ ps → p.filter? = some f → (p.staysWithout fs = false ↔ f ∈ fs) :=
    fun hp hf => staysWithout_eq_false_iff hfs hforms hp hf
  constructor
  · intro hclear f hf g hg hstays hdismissed
    rw [toList_form_of_filter? hf, toList_form_of_filter? hg]
    refine hclear ?_ ((hgoes hq hg).mpr hdismissed)
    rwa [← Bool.not_eq_false, hgoes hp hf]
  · intro hclear hstays hgone
    cases hg : q.filter? with
    | none => exact absurd (hgone.symm.trans (staysWithout_of_filter?_eq_none hg)) (by simp)
    | some g =>
      cases hf : p.filter? with
      | none => exact hscan.not_infix_of_filter?_eq_none hp hq hf (hg ▸ Option.some_ne_none g)
      | some f =>
        rw [← toList_form_of_filter? hf, ← toList_form_of_filter? hg]
        refine hclear f hf g hg (fun hdismissed => ?_) ((hgoes hq hg).mp hgone)
        exact Bool.false_ne_true (((hgoes hp hf).mpr hdismissed).symm.trans hstays)

end Distinct

end Dismissed

end Piece

namespace Query

/-- **Dismissing filters takes exactly their tokens out of the query, if and only if nothing is
shadowed** — where the forms of the query's filters are distinct.  There is one way to read the query
from left to right.  What is left has the tokens of the other filters and all that stands between
them as they are, but for the blanks at the ends, unless a filter that stays has a form that holds
the form of a later one that is dismissed. -/
theorem without_eq_iff_unshadowed {query : String} {fs : List Filter}
    (hforms : ((filters query).map (·.form)).Nodup) (hfs : fs.Sublist (filters query)) :
    ∃ ps, Piece.Scanned query.toList ps ∧ (∀ qs, Piece.Scanned query.toList qs → qs = ps) ∧
      filters query = ps.filterMap Piece.filter? ∧
      (without query fs =
          String.ofList (Text.trim (Piece.textOf (ps.filter (Piece.staysWithout fs)))) ↔
        (filters query).Pairwise fun f g =>
          f ∉ fs → g ∈ fs → ¬ g.form.toList <:+: f.form.toList) := by
  have hscan := Piece.scanned_scan query.toList
  refine ⟨Piece.scan query.toList, hscan, fun _ h => h.scan_eq.symm, rfl, ?_⟩
  have hremoved : fs.foldl (fun cs f => Text.removeFirst f.form.toList cs) query.toList =
      Piece.removeGone (Piece.staysWithout fs) (Piece.scan query.toList) query.toList :=
    Piece.foldl_removeFirst_eq_removeGone (Piece.map_form_eq_filter hfs hforms) _
  rw [without, hremoved, String.ofList_inj]
  exact (hscan.trim_removeGone_eq_iff (fun _ => rfl) fun p hp q hq =>
    hscan.text_ne_of_stays hp hq).trans (hscan.unshadowed_iff hfs hforms)

/-- A token in front that shares only its tag with the ones behind it stays, and these go. -/
theorem without_eq_iff_unshadowed_hamlet :
    let query := "hamlet :keyword:pdf act -:keyword:mp4 +:keyword:doc"
    ((filters query).map (·.form)).Nodup ∧ ((filters query).drop 1).Sublist (filters query) ∧
      ∃ ps, Piece.Scanned query.toList ps ∧ (∀ qs, Piece.Scanned query.toList qs → qs = ps) ∧
        filters query = ps.filterMap Piece.filter? ∧
        (without query ((filters query).drop 1) = String.ofList (Text.trim
            (Piece.textOf (ps.filter (Piece.staysWithout ((filters query).drop 1))))) ↔
          (filters query).Pairwise fun f g => f ∉ (filters query).drop 1 →
            g ∈ (filters query).drop 1 → ¬ g.form.toList <:+: f.form.toList) := by
  intro query
  have hforms : ((filters query).map (·.form)).Nodup := by decide +kernel
  have hfs := List.drop_sublist 1 (filters query)
  exact ⟨hforms, hfs, without_eq_iff_unshadowed hforms hfs⟩

/-- The token in front holds the text of the one behind it, which is dismissed: it loses its
beginning, and the one behind it stays. -/
theorem without_shadowed :
    let query := ":keyword:ab :keyword:a"
    let fs := (filters query).drop 1
    ((filters query).map (·.form)).Nodup ∧ fs.Sublist (filters query) ∧
      without query fs = "b :keyword:a" ∧
      ∃ ps, Piece.Scanned query.toList ps ∧
        String.ofList (Text.trim (Piece.textOf (ps.filter (Piece.staysWithout fs)))) =
          ":keyword:ab" := by
  intro query fs
  exact ⟨by decide +kernel, List.drop_sublist 1 _, by decide +kernel,
    Piece.scan query.toList, Piece.scanned_scan _, by decide +kernel⟩

end Query

end QuerySieve
