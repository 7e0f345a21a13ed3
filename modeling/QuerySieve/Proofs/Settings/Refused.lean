import QuerySieve.Proofs.Settings.Keywords
import QuerySieve.Settings.Source

/-!
# Proofs/Settings/Refused — what is wrong with a keyword is told at the list it stands in

All that is wrong with a record is told at once, and every violation names the field it was found
in.  Neither an unknown field nor an overlap is a problem of a single keyword, so such a problem is
told at the place of a list only if it is found in that list (`exists_named?_of_mem_violations`),
and then it is found in one of its keywords (`exists_of_mem_violations_ofTexts`).
-/

namespace QuerySieve

namespace Problem

/-- The problem is one that a single keyword can have. -/
def IsOfKeyword : Problem → Prop
  | emptyKeyword => True
  | brokenKeyword _ => True
  | _ => False

end Problem

namespace Checked

variable {α β : Type} {v : Violation} {place : List Step} {p : Problem}

/-! ## Violations, step by step -/

@[simp] theorem violations_ok (a : α) : violations (.ok a) = [] := rfl

@[simp] theorem violations_refuse (p : Problem) :
    (refuse p : Checked α).violations = [⟨[], p⟩] := rfl

@[simp] theorem violations_also (f : Checked (α → β)) (a : Checked α) :
    (f.also a).violations = f.violations ++ a.violations := by
  cases f <;> cases a <;> rfl

@[simp] theorem violations_refusing (more : List Violation) (a : Checked α) :
    (a.refusing more).violations = a.violations ++ more := by
  cases more with
  | nil => exact (List.append_nil _).symm
  | cons v more => rfl

@[simp] theorem violations_under (step : Step) (a : Checked α) :
    (a.under step).violations = a.violations.map (Violation.under step) := by
  cases a <;> rfl

/-- What is wrong after two steps is wrong with the first one, or with the second. -/
theorem mem_violations_bind {a : Checked α} {f : α → Checked β} (h : v ∈ (a >>= f).violations) :
    v ∈ a.violations ∨ ∃ x, a = .ok x ∧ v ∈ (f x).violations := by
  cases a with
  | error vs => exact .inl h
  | ok x => exact .inr ⟨x, rfl, h⟩

section Field

variable {fields : Fields} {name other : String} {usual : α} {read : Data → Checked α}

/-- **What is wrong with a field is told under its name**, and is wrong with what it holds. -/
theorem mem_violations_field_iff :
    ⟨.field other :: place, p⟩ ∈ (field fields name usual read).violations ↔
      other = name ∧ ∃ d, fields.named? name = some d ∧ ⟨place, p⟩ ∈ (read d).violations := by
  rw [field]
  cases fields.named? name with
  | none => simp
  | some d =>
    simp only [violations_under, List.mem_map, Violation.under, Violation.mk.injEq,
      List.cons.injEq, Step.field.injEq, Option.some.injEq, exists_eq_left']
    constructor
    · rintro ⟨v, hv, ⟨rfl, rfl⟩, rfl⟩
      exact ⟨rfl, hv⟩
    · rintro ⟨rfl, hv⟩
      exact ⟨_, hv, ⟨rfl, rfl⟩, rfl⟩

/-- No keyword is told of as an unknown field. -/
theorem not_isOfKeyword_of_mem_strangers {known : List String} (h : v ∈ strangers known fields) :
    ¬ v.problem.IsOfKeyword := by
  obtain ⟨⟨key, d⟩, -, hstranger⟩ := List.mem_filterMap.mp h
  cases key with
  | name s =>
    dsimp only [stranger?] at hstranger
    split at hstranger
    · exact nomatch hstranger
    · exact Option.some.inj hstranger ▸ id
  | _ => exact Option.some.inj hstranger ▸ id

end Field

end Checked

namespace FilterSettings

open Checked
open Text (tidy)

variable {fields : Fields} {p : Problem} {keyword : String} {texts : List String}

/-! ## Keywords -/

/-- **A keyword that says something is only refused for the characters in it.** -/
theorem eq_brokenKeyword_of_normalKeyword (hne : tidy keyword ≠ "")
    (h : normalKeyword keyword = .error p) : p = .brokenKeyword keyword := by
  rw [normalKeyword, ← tidy, if_neg (mt String.isEmpty_iff.mp hne)] at h
  split at h
  · cases h
  · exact (Except.error.inj h).symm

/-- What is wrong with a list of texts is wrong with one of them. -/
theorem exists_of_mem_violations_ofTexts {place : List Step}
    (h : ⟨place, p⟩ ∈ (readKeywords (.ofTexts texts)).violations) :
    ∃ keyword ∈ texts, normalKeyword keyword = .error p := by
  rw [Data.ofTexts, readKeywords, readTexts_map_text] at h
  rcases mem_violations_bind h with h | ⟨texts', htexts, h⟩
  · exact absurd h List.not_mem_nil
  · obtain rfl := Except.ok.inj htexts
    cases hmap : texts.mapM normalKeyword with
    | ok words =>
      simp only [hmap, violations_ok] at h
      exact absurd h List.not_mem_nil
    | error p' =>
      simp only [hmap, violations_refuse, List.mem_singleton, Violation.mk.injEq] at h
      obtain ⟨before, keyword, after, hsplit, -, hkeyword⟩ := Sequence.mapM_eq_error_iff.mp hmap
      exact ⟨keyword, hsplit ▸ List.mem_append_cons_self, h.2 ▸ hkeyword⟩

/-- **What is told at the place of a list is wrong with what stands for it**, if a keyword can have
that problem. -/
theorem exists_named?_of_mem_violations {s : Setting} (hs : s = .included ∨ s = .excluded)
    (hp : p.IsOfKeyword) (h : ⟨[.field s.field], p⟩ ∈ (ofFields fields).violations) :
    ∃ d, fields.named? s.field = some d ∧ ⟨[], p⟩ ∈ (readKeywords d).violations := by
  have hstrangers : ⟨[.field s.field], p⟩ ∉ strangers names fields :=
    fun hv => not_isOfKeyword_of_mem_strangers hv hp
  rcases mem_violations_bind h with h | ⟨f, -, h⟩
  · simp only [violations_refusing, violations_also, accept, violations_ok, List.nil_append,
      List.mem_append, hstrangers, or_false, mem_violations_field_iff] at h
    rcases hs with rfl | rfl
    · simpa [Setting.field] using h
    · simpa [Setting.field] using h
  · -- only the overlap of the lists is told once all fields are right
    simp only [consistent, violations_refusing, violations_ok, List.nil_append,
      overlapViolations] at h
    split at h
    · exact absurd h List.not_mem_nil
    · obtain ⟨-, rfl⟩ := Violation.mk.inj (List.mem_singleton.mp h)
      exact hp.elim

end FilterSettings

namespace Settings

open Checked

/-- What is told of the filters is wrong with what stands for them, if a keyword can have that
problem. -/
theorem exists_filters_of_mem_violations {fields : Fields} {place : List Step} {p : Problem}
    (hp : p.IsOfKeyword) (h : ⟨.field "filters" :: place, p⟩ ∈ (ofFields fields).violations) :
    ∃ d, fields.named? "filters" = some d ∧ ⟨place, p⟩ ∈ (FilterSettings.ofData d).violations := by
  have hstrangers : ⟨.field "filters" :: place, p⟩ ∉ strangers names fields :=
    fun hv => not_isOfKeyword_of_mem_strangers hv hp
  simp only [ofFields, violations_refusing, violations_also, accept, violations_ok, List.nil_append,
    List.mem_append, hstrangers, or_false, mem_violations_field_iff] at h
  simpa using h

end Settings

end QuerySieve
