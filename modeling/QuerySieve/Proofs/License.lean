import QuerySieve.License
import QuerySieve.Proofs.Text.Blank

/-!
# Proofs/License — what a licence adds to a haystack is the name it was looked up by

A name may be a well-known one in another case, or with blanks around it, or none of these: in small
letters and without blanks at its ends it is the name of the licence found for it
(`lowerString_name_byName`).  Only where this says nothing, or that nothing is known, is the licence
unknown.
-/

namespace QuerySieve.License

open Text (tidy isEmpty_trimString)

theorem eq_unknown_of_mem_known {entry : String × License} (h : entry ∈ known)
    (hname : Text.lowerString entry.2.name = "unknown") : entry.2 = unknown :=
  (by decide +kernel : ∀ entry ∈ known, Text.lowerString entry.2.name = "unknown" →
    entry.2 = unknown) entry h hname

/-- A name that says something is looked up, and kept without blanks around it if it is not found. -/
theorem byName_of_ne {name : String} (h : tidy name ≠ "") :
    (∃ entry ∈ known, Text.lowerString entry.2.name = tidy name ∧ byName (some name) = entry.2) ∨
      (∀ entry ∈ known, Text.lowerString entry.2.name ≠ tidy name) ∧
        byName (some name) = ⟨Text.trimString name, ""⟩ := by
  rw [byName, if_neg (mt (isEmpty_trimString name).mp h), ← tidy]
  cases hfind : known.find? fun entry => Text.lowerString entry.2.name == tidy name with
  | some entry =>
    have hname := List.find?_some hfind
    rw [beq_iff_eq] at hname
    exact .inl ⟨entry, List.mem_of_find?_eq_some hfind, hname, rfl⟩
  | none =>
    have hnone := List.find?_eq_none.mp hfind
    simp only [beq_iff_eq] at hnone
    exact .inr ⟨hnone, rfl⟩

/-- A name says nothing just if it is blank. -/
theorem tidy_eq_empty_iff {name : String} :
    tidy name = "" ↔ ∀ c ∈ name.toList, Text.isBlank c = true := by
  rw [← isEmpty_trimString, String.isEmpty_iff, ← String.toList_inj, Text.toList_trimString]
  exact Text.trim_eq_nil_iff

/-- **The licence is unknown** if its name says nothing, or that nothing is known. -/
theorem byName_eq_unknown_iff {name : String} :
    byName (some name) = unknown ↔ tidy name = "" ∨ tidy name = "unknown" := by
  have hunknown : Text.lowerString unknown.name = "unknown" := by decide +kernel
  by_cases hname : tidy name = ""
  · refine iff_of_true ?_ (.inl hname)
    rw [byName, if_pos ((isEmpty_trimString name).mpr hname)]
  · rcases byName_of_ne hname with ⟨entry, hentry, hsmall, hfound⟩ | ⟨hnone, hfound⟩
    · rw [hfound, ← hsmall, or_iff_right (hsmall ▸ hname)]
      exact ⟨fun h => h ▸ hunknown, eq_unknown_of_mem_known hentry⟩
    · -- the licence `unknown` would have been found by its own name
      have hother : tidy name ≠ "unknown" := fun h =>
        hnone ("UNKNOWN", unknown) List.mem_cons_self (hunknown.trans h.symm)
      refine iff_of_false (fun h => hother ?_) (not_or.mpr ⟨hname, hother⟩)
      rw [hfound, License.mk.injEq] at h
      rw [tidy, h.1]
      exact hunknown

/-- **The licence has the name that it was looked up by**, but for case and blanks around it. -/
theorem lowerString_name_byName {name : String} (h : tidy name ≠ "") :
    Text.lowerString (byName (some name)).name = tidy name := by
  rcases byName_of_ne h with ⟨entry, -, hsmall, hfound⟩ | ⟨-, hfound⟩
  · rw [hfound, hsmall]
  · rw [hfound, tidy]

/-! ## Names of licences that were found -/

theorem byName_trimString (name : String) :
    byName (some (Text.trimString name)) = byName (some name) := by
  rw [byName, byName, Text.trimString_trimString]

theorem byName_name_of_mem_known {key : String} {l : License} (h : (key, l) ∈ known) :
    byName (some l.name) = l :=
  (by decide +kernel : ∀ entry ∈ known, byName (some entry.2.name) = entry.2) (key, l) h

/-- **A licence that was found is found again by its own name.** -/
theorem byName_name_byName (name : String) :
    byName (some (byName (some name)).name) = byName (some name) := by
  by_cases hname : tidy name = ""
  · have hunknown : ("UNKNOWN", unknown) ∈ known := List.mem_cons_self
    rw [byName_eq_unknown_iff.mpr (.inl hname)]
    exact byName_name_of_mem_known hunknown
  · rcases byName_of_ne hname with ⟨⟨key, l⟩, hentry, -, hfound⟩ | ⟨-, hfound⟩
    · rw [hfound]
      exact byName_name_of_mem_known hentry
    · have hbare : (byName (some name)).name = Text.trimString name := congrArg License.name hfound
      rw [hbare, byName_trimString]

/-! ## Haystacks -/

/-- What a licence adds to a haystack. -/
def smallNames (l : License) : List String := if l = unknown then [] else [Text.lowerString l.name]

/-- **Names that differ in case and in blanks around them add the same.** -/
theorem smallNames_byName (name : String) : (byName (some name)).smallNames =
    if tidy name = "" ∨ tidy name = "unknown" then [] else [tidy name] := by
  rw [smallNames]
  by_cases hname : tidy name = "" ∨ tidy name = "unknown"
  · rw [if_pos hname, if_pos (byName_eq_unknown_iff.mpr hname)]
  · rw [if_neg hname, if_neg (mt byName_eq_unknown_iff.mp hname),
      lowerString_name_byName (not_or.mp hname).1]

end QuerySieve.License
