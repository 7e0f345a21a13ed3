import Mathlib.Data.List.Induction
import QuerySieve.Proofs.Settings.Keywords

/-!
# Proofs/Settings/Assign — what assignments keep, and the one that does not

A field is looked at before it is set, and the keywords of both lists together after that.  So an
assignment that is refused for its value leaves the settings as they were, and one that is refused
because keywords overlap does not (`Settings.Clashes`).  Whatever is assigned, the keywords stay what
a token can name; and they do not overlap for just as long as no assignment clashes.
-/

namespace QuerySieve

/-- A change of one field, of the settings themselves or of their filters. -/
inductive Assignment where
  | outer (name : String) (d : Data)
  | inner (name : String) (d : Data)

namespace FilterSettings

open Checked Sequence

/-! ## Filters as they ought to be -/

/-- **A keyword as settings hold it**: in small letters, without blanks at its ends, and a word. -/
structure IsKept (keyword : String) : Prop where
  small : Text.lowerString keyword = keyword
  stripped : Text.trimString keyword = keyword
  word : Token.IsWord keyword.toList

/-- All keywords are such as settings hold them. -/
def Kept (f : FilterSettings) : Prop := ∀ keyword ∈ f.included ++ f.excluded, IsKept keyword

/-- No keyword is included as well as excluded. -/
def Disjoint (f : FilterSettings) : Prop := ∀ keyword ∈ f.included, keyword ∉ f.excluded

variable {f f' : FilterSettings} {name : String} {d : Data}

theorem isKept_of_word {keyword : String}
    (h : Text.lowerString keyword = keyword ∧ Token.IsWord keyword.toList) : IsKept keyword where
  small := h.1
  stripped := Text.trimString_eq_self fun c hc => (Token.isWordChar_iff.mp (h.2.isWordChar c hc)).1
  word := h.2

theorem kept_ofData (h : ofData d = .ok f) : f.Kept :=
  fun keyword hkeyword => isKept_of_word (isWord_of_ofData h keyword hkeyword)

theorem disjoint_ofData (h : ofData d = .ok f) : f.Disjoint := by
  cases d with
  | record fields =>
    obtain ⟨-, -, -, -, hoverlap⟩ := ofFields_eq_ok_iff.mp h
    exact overlap_eq_nil_iff.mp hoverlap
  | _ => exact nomatch h

theorem overlapViolations_eq_nil_iff_disjoint : f.overlapViolations = [] ↔ f.Disjoint :=
  overlapViolations_eq_nil_iff.trans overlap_eq_nil_iff

/-! ## One field of the filters -/

/-- **All that a change of one field can do.** -/
theorem change_cases (h : f.change name d = .ok f') :
    (∃ ks, readKeywords d = .ok ks ∧
      (f' = { f with included := ks } ∨ f' = { f with excluded := ks })) ∨
    ∃ x, f' = { f with feature := x } := by
  unfold change at h
  split at h
  · obtain ⟨ks, hks, rfl⟩ := map_eq_ok_iff.mp h
    exact .inl ⟨ks, under_eq_ok_iff.mp hks, .inl rfl⟩
  · obtain ⟨ks, hks, rfl⟩ := map_eq_ok_iff.mp h
    exact .inl ⟨ks, under_eq_ok_iff.mp hks, .inr rfl⟩
  · obtain ⟨x, -, rfl⟩ := map_eq_ok_iff.mp h
    exact .inr ⟨x, rfl⟩
  · exact nomatch h

/-- **Keywords that are set are kept like those that were there.** -/
theorem Kept.change (hf : f.Kept) (h : f.change name d = .ok f') : f'.Kept := by
  obtain ⟨hincluded, hexcluded⟩ := List.forall_mem_append.mp hf
  rcases change_cases h with ⟨ks, hks, hf'⟩ | ⟨x, rfl⟩
  · have hks' : ∀ k ∈ ks, IsKept k := fun k hk => isKept_of_word (isWord_of_readKeywords hks k hk)
    rcases hf' with rfl | rfl
    · exact List.forall_mem_append.mpr ⟨hks', hexcluded⟩
    · exact List.forall_mem_append.mpr ⟨hincluded, hks'⟩
  · exact hf

end FilterSettings

namespace Settings

open Checked Sequence
variable {s : Settings} {a : Assignment}

/-! ## One assignment -/

/-- The settings after an assignment, and what was wrong with it. -/
def perform (s : Settings) : Assignment → Settings × List Violation
  | .outer name d => s.assign name d
  | .inner name d => s.assignFilters name d

/-- **The assignment clashes**: its value is right by itself, but keywords overlap once it is set. -/
def Clashes (s : Settings) : Assignment → Prop
  | .outer _ _ => False
  | .inner name d => ∃ f, s.filters.change name d = .ok f ∧ ¬ f.Disjoint

/-- The filters are left alone, or come from a value that was accepted as a whole. -/
theorem filters_change {s' : Settings} {name : String} {d : Data} (h : s.change name d = .ok s') :
    s'.filters = s.filters ∨ FilterSettings.ofData d = .ok s'.filters := by
  unfold change at h
  split at h
  -- the third field is the filters themselves, and the last case is that of no field at all
  case h_3 =>
    obtain ⟨f, hf, rfl⟩ := map_eq_ok_iff.mp h
    exact .inr (under_eq_ok_iff.mp hf)
  case h_7 => exact nomatch h
  all_goals
    obtain ⟨x, -, rfl⟩ := map_eq_ok_iff.mp h
    exact .inl rfl

/-- **All that an assignment can do.** It is refused for its value and does nothing, or it is
accepted, or it clashes and is done nevertheless. -/
theorem perform_cases (s : Settings) (a : Assignment) :
    ((s.perform a).1 = s ∧ ¬ s.Clashes a) ∨
    ((s.perform a).2 = [] ∧ ¬ s.Clashes a ∧
      (s.filters.Kept → (s.perform a).1.filters.Kept) ∧
      (s.filters.Disjoint → (s.perform a).1.filters.Disjoint)) ∨
    ((s.perform a).2 ≠ [] ∧ s.Clashes a ∧
      (s.filters.Kept → (s.perform a).1.filters.Kept) ∧ ¬ (s.perform a).1.filters.Disjoint) := by
  cases a with
  | outer name d =>
    rw [perform, assign]
    cases hchange : s.change name d with
    | error vs => exact .inl ⟨rfl, id⟩
    | ok s' =>
      refine .inr (.inl ⟨rfl, id, ?_⟩)
      rcases filters_change hchange with hsame | hdata
      · exact ⟨fun h => hsame ▸ h, fun h => hsame ▸ h⟩
      · exact ⟨fun _ => FilterSettings.kept_ofData hdata,
          fun _ => FilterSettings.disjoint_ofData hdata⟩
  | inner name d =>
    rw [perform, assignFilters, FilterSettings.assign]
    cases hchange : s.filters.change name d with
    | error vs => exact .inl ⟨rfl, fun ⟨f, hf, _⟩ => nomatch hchange.symm.trans hf⟩
    | ok f =>
      have hclashes : s.Clashes (.inner name d) ↔ ¬ f.Disjoint := by
        rw [Clashes, hchange]
        simp
      have hviolations := FilterSettings.overlapViolations_eq_nil_iff_disjoint (f := f)
      by_cases hdisjoint : f.Disjoint
      · exact .inr (.inl ⟨hviolations.mpr hdisjoint, fun h => hclashes.mp h hdisjoint,
          fun h => h.change hchange, fun _ => hdisjoint⟩)
      · exact .inr (.inr ⟨mt hviolations.mp hdisjoint, hclashes.mpr hdisjoint,
          fun h => h.change hchange, hdisjoint⟩)

theorem kept_perform (h : s.filters.Kept) (a : Assignment) : (s.perform a).1.filters.Kept := by
  rcases perform_cases s a with ⟨hsame, -⟩ | ⟨-, -, hkept, -⟩ | ⟨-, -, hkept, -⟩
  · rwa [hsame]
  · exact hkept h
  · exact hkept h

/-- The lists stay disjoint unless the assignment clashes. -/
theorem disjoint_perform_iff (h : s.filters.Disjoint) :
    (s.perform a).1.filters.Disjoint ↔ ¬ s.Clashes a := by
  rcases perform_cases s a with
    ⟨hsame, hnot⟩ | ⟨-, hnot, -, hdisjoint⟩ | ⟨-, hclashes, -, hdisjoint⟩
  · rw [hsame]
    exact iff_of_true h hnot
  · exact iff_of_true (hdisjoint h) hnot
  · exact iff_of_false hdisjoint (not_not_intro hclashes)

/-- **An assignment that is refused changes nothing unless it clashes.** -/
theorem unchanged_perform_iff (h : s.filters.Disjoint) :
    ((s.perform a).2 ≠ [] → (s.perform a).1 = s) ↔ ¬ s.Clashes a := by
  rcases perform_cases s a with
    ⟨hsame, hnot⟩ | ⟨haccepted, hnot, -⟩ | ⟨hrefused, hclashes, -, hdisjoint⟩
  · exact iff_of_true (fun _ => hsame) hnot
  · exact iff_of_true (fun hrefused => absurd haccepted hrefused) hnot
  · refine iff_of_false (fun hunchanged => hdisjoint ?_) (not_not_intro hclashes)
    rwa [hunchanged hrefused]

/-! ## One assignment after the other -/

/-- The settings after some assignments, refused ones among them. -/
def run (s : Settings) (as : List Assignment) : Settings :=
  as.foldl (fun s a => (s.perform a).1) s

theorem run_append (s : Settings) (as : List Assignment) (a : Assignment) :
    s.run (as ++ [a]) = ((s.run as).perform a).1 := List.foldl_append ..

theorem kept_run (h : s.filters.Kept) (as : List Assignment) : (s.run as).filters.Kept := by
  induction as generalizing s with
  | nil => exact h
  | cons a as ih => exact ih (kept_perform h a)

/-- **The lists are disjoint all the time if no assignment clashes**, and only then. -/
theorem disjoint_run_iff (h : s.filters.Disjoint) (as : List Assignment) :
    (∀ before, before <+: as → (s.run before).filters.Disjoint) ↔
      ∀ before a, before ++ [a] <+: as → ¬ (s.run before).Clashes a := by
  constructor
  · intro hdisjoint before a hbefore
    rw [← disjoint_perform_iff (hdisjoint before ((List.prefix_append ..).trans hbefore)),
      ← run_append]
    exact hdisjoint _ hbefore
  · intro hclashes before
    -- a run is read from its end: what was before its last assignment is a run as well
    induction before using List.reverseRecOn with
    | nil => exact fun _ => h
    | append_singleton before a ih =>
      intro hbefore
      rw [run_append, disjoint_perform_iff (ih ((List.prefix_append ..).trans hbefore))]
      exact hclashes before a hbefore

theorem kept_ofFields {fields : Fields} (h : ofFields fields = .ok s) :
    s.filters.Kept ∧ s.filters.Disjoint := by
  obtain ⟨-, -, hfilters, -⟩ := ofFields_eq_ok_iff.mp h
  cases hd : Fields.named? fields "filters" with
  | none =>
    rw [field_of_none hd] at hfilters
    rw [← Except.ok.inj hfilters]
    exact ⟨nofun, nofun⟩
  | some d =>
    have hdata := (field_eq_ok_iff hd).mp hfilters
    exact ⟨FilterSettings.kept_ofData hdata, FilterSettings.disjoint_ofData hdata⟩

/-- **An assignment that is refused changes nothing unless it clashes**, and settings that were made
of a record stay in order until then: after any assignments, refused ones among them, all keywords
are such as settings hold them and the level has one of the five names, and the two lists are
disjoint all the time if no assignment clashes, and only then. -/
theorem refused_unchanged_iff (s : Settings) :
    (s.filters.Disjoint → ∀ a,
      ((s.perform a).2 ≠ [] → (s.perform a).1 = s) ↔ ¬ s.Clashes a) ∧
    ∀ fields, ofFields fields = .ok s → ∀ as : List Assignment,
      (s.run as).filters.Kept ∧
      (s.run as).level.name ∈ ["DEBUG", "INFO", "WARNING", "ERROR", "CRITICAL"] ∧
      ((∀ before, before <+: as → (s.run before).filters.Disjoint) ↔
        ∀ before a, before ++ [a] <+: as → ¬ (s.run before).Clashes a) := by
  refine ⟨fun hdisjoint a => unchanged_perform_iff hdisjoint, fun fields hs as => ?_⟩
  obtain ⟨hkept, hdisjoint⟩ := kept_ofFields hs
  exact ⟨kept_run hkept as, by cases (s.run as).level <;> decide, disjoint_run_iff hdisjoint as⟩

/-- Excluding another keyword is accepted, and a level that there is not is refused. -/
theorem refused_unchanged_iff_pdf :
    let filters : Data := .ofFields [("include_keywords", .ofTexts ["pdf"])]
    let s : Settings := { unset with filters := ⟨["pdf"], [], none⟩ }
    let loud : Assignment := .outer "log_level" (.text "loud")
    let as : List Assignment := [.inner "exclude_keywords" (.ofTexts [" MP3"]), loud]
    ofFields [(.name "filters", filters)] = .ok s ∧ s.filters.Disjoint ∧
      (((s.perform loud).2 ≠ [] → (s.perform loud).1 = s) ↔ ¬ s.Clashes loud) ∧
      (s.run as).filters.Kept := by
  intro filters s loud as
  have hs : ofFields [(.name "filters", filters)] = .ok s := by decide +kernel
  have hdisjoint : s.filters.Disjoint := nofun
  exact ⟨hs, hdisjoint, (refused_unchanged_iff s).1 hdisjoint loud,
    ((refused_unchanged_iff s).2 _ hs as).1⟩

/-- The keyword that is excluded as well is refused, and is in both lists all the same. -/
theorem perform_overlap :
    let s : Settings := { unset with filters := ⟨["a"], [], none⟩ }
    let a : Assignment := .inner "exclude_keywords" (.ofTexts ["a"])
    s.filters.Kept ∧ s.filters.Disjoint ∧ (s.perform a).2 ≠ [] ∧ (s.perform a).1 ≠ s ∧
      ¬ (s.perform a).1.filters.Disjoint := by
  intro s a
  have hperform : s.perform a =
      ({ s with filters := ⟨["a"], ["a"], none⟩ }, [⟨[], .overlap ["a"]⟩]) := by decide +kernel
  rw [hperform]
  refine ⟨?_, nofun, nofun, by decide, fun h => h "a" List.mem_cons_self List.mem_cons_self⟩
  intro keyword hkeyword
  obtain rfl := List.mem_singleton.mp hkeyword
  exact FilterSettings.isKept_of_word (by decide +kernel)

end Settings

end QuerySieve
