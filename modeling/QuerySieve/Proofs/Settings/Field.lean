import QuerySieve.Proofs.Sequence
import QuerySieve.Settings.Record

/-!
# Proofs/Settings/Field — when a value is accepted, and what it then stands for

Reading settings fails with everything that is wrong and succeeds with one value.  Success is told
here step by step: two values at once are both accepted, a field is accepted if what it holds is or
if it is left out, and filters are accepted if their fields are, no field is unknown and the
keywords do not overlap (`ofFields_eq_ok_iff`).
-/

namespace QuerySieve

namespace Checked

variable {α β : Type}

theorem also_eq_ok_iff {f : Checked (α → β)} {a : Checked α} {b : β} :
    f.also a = .ok b ↔ ∃ g x, f = .ok g ∧ a = .ok x ∧ g x = b := by
  cases f with
  | error vs => simp [also]
  | ok g =>
    cases a with
    | error vs => simp [also]
    | ok x => simp [also]

@[simp] theorem under_eq_ok_iff {step : Step} {a : Checked α} {x : α} :
    a.under step = .ok x ↔ a = .ok x := by
  cases a with
  | error vs => exact iff_of_false nofun nofun
  | ok y => exact Iff.rfl

theorem refusing_eq_ok_iff {more : List Violation} {a : Checked α} {x : α} :
    a.refusing more = .ok x ↔ more = [] ∧ a = .ok x := by
  cases more <;> simp [refusing]

section Field

variable {fields : Fields} {name : String} {usual : α} {read : Data → Checked α}

/-- A field that is there is accepted if what it holds is. -/
theorem field_eq_ok_iff {d : Data} (h : Fields.named? fields name = some d) {x : α} :
    field fields name usual read = .ok x ↔ read d = .ok x := by
  rw [field, h]
  exact under_eq_ok_iff

/-- A field that is left out is accepted, and has its usual value. -/
theorem field_of_none (h : Fields.named? fields name = none) :
    field fields name usual read = .ok usual := by rw [field, h]

end Field

end Checked

namespace FilterSettings

open Checked Sequence

/-! ## Lists of texts -/

theorem readTexts_map_text : ∀ (index : Nat) (texts : List String),
    readTexts index (texts.map .text) = .ok texts
  | _, [] => rfl
  | index, text :: texts => by
    rw [List.map_cons, readTexts, readTexts_map_text (index + 1) texts]
    rfl

/-! ## The record of the filters -/

theorem overlapViolations_eq_nil_iff {f : FilterSettings} :
    f.overlapViolations = [] ↔ f.overlap = [] := by
  simp [overlapViolations]

/-- **Filters are accepted** if each of their fields is, no field is unknown, and no keyword is
included as well as excluded. -/
theorem ofFields_eq_ok_iff {fields : Fields} {set : FilterSettings} :
    ofFields fields = .ok set ↔
      field fields "include_keywords" [] readKeywords = .ok set.included ∧
      field fields "exclude_keywords" [] readKeywords = .ok set.excluded ∧
      field fields "feature" none readFeature = .ok set.feature ∧
      strangers names fields = [] ∧ set.overlap = [] := by
  simp only [ofFields, bind_eq_ok_iff, refusing_eq_ok_iff, also_eq_ok_iff, consistent, accept,
    Except.ok.injEq, overlapViolations_eq_nil_iff]
  constructor
  · rintro ⟨_, ⟨hstrangers, _, feature, ⟨_, excluded, ⟨_, included, rfl, hincluded, rfl⟩, hexcluded,
      rfl⟩, hfeature, rfl⟩, hoverlap, rfl⟩
    exact ⟨hincluded, hexcluded, hfeature, hstrangers, hoverlap⟩
  · rintro ⟨hincluded, hexcluded, hfeature, hstrangers, hoverlap⟩
    exact ⟨set, ⟨hstrangers, _, _, ⟨_, _, ⟨_, _, rfl, hincluded, rfl⟩, hexcluded, rfl⟩, hfeature,
      rfl⟩, hoverlap, rfl⟩

theorem mem_overlap_iff {f : FilterSettings} {keyword : String} :
    keyword ∈ f.overlap ↔ keyword ∈ f.included ∧ keyword ∈ f.excluded := by
  rw [overlap, List.mem_mergeSort, List.mem_eraseDups, List.mem_filter, List.contains_iff_mem]

/-- The keywords do not overlap if no included one is excluded. -/
theorem overlap_eq_nil_iff {f : FilterSettings} :
    f.overlap = [] ↔ ∀ k ∈ f.included, k ∉ f.excluded := by
  simp only [List.eq_nil_iff_forall_not_mem, mem_overlap_iff, not_and]

end FilterSettings

namespace Settings

open Checked

/-! ## The record of the settings -/

/-- **Settings are accepted** if each of their fields is and no field is unknown. -/
theorem ofFields_eq_ok_iff {fields : Fields} {s : Settings} :
    ofFields fields = .ok s ↔
      field fields "version" unset.version readText = .ok s.version ∧
      field fields "created" none (fun d => (readMoment d).map some) = .ok s.created ∧
      field fields "filters" .unset FilterSettings.ofData = .ok s.filters ∧
      field fields "verbose" false readTruth = .ok s.verbose ∧
      field fields "debug" false readTruth = .ok s.debug ∧
      field fields "log_level" unset.level readLevel = .ok s.level ∧
      strangers names fields = [] := by
  simp only [ofFields, refusing_eq_ok_iff, also_eq_ok_iff, accept, Except.ok.injEq]
  constructor
  · rintro ⟨hstrangers, _, level, ⟨_, debug, ⟨_, verbose, ⟨_, filters, ⟨_, created, ⟨_, version, rfl,
      hversion, rfl⟩, hcreated, rfl⟩, hfilters, rfl⟩, hverbose, rfl⟩, hdebug, rfl⟩, hlevel, rfl⟩
    exact ⟨hversion, hcreated, hfilters, hverbose, hdebug, hlevel, hstrangers⟩
  · rintro ⟨hversion, hcreated, hfilters, hverbose, hdebug, hlevel, hstrangers⟩
    exact ⟨hstrangers, _, _, ⟨_, _, ⟨_, _, ⟨_, _, ⟨_, _, ⟨_, _, rfl, hversion, rfl⟩, hcreated, rfl⟩,
      hfilters, rfl⟩, hverbose, rfl⟩, hdebug, rfl⟩, hlevel, rfl⟩

end Settings

end QuerySieve
