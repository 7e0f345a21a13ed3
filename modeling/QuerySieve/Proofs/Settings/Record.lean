import QuerySieve.Proofs.Moment.Notation
import QuerySieve.Proofs.Settings.Assign
import QuerySieve.Yaml.Scalar

/-!
# Proofs/Settings/Record — settings that are written as a record are read again

What a field of settings holds is in the form that its reader gives it, and each reader takes what
is in that form as it is.  So the record of settings that were accepted is accepted, and makes the
same settings (`ofFields_toData`); only that it says when they were made, which they may have left
open.
-/

namespace QuerySieve

/-- The moment exists and does not lie in the year zero. -/
def Moment.IsTimely (m : Moment) : Prop := m.isValid = true ∧ m.year ≠ 0

/-- **If the value is a date or a moment, there is such a one**, after the year zero. -/
def Data.IsTimely : Data → Prop
  | .date year month day => (Moment.midnight year month day).IsTimely
  | .moment m => m.IsTimely
  | _ => True

theorem Moment.isTimely_midnight {m : Moment} (h : m.IsTimely) :
    (midnight m.year m.month m.day).IsTimely := by
  have hdate := (isValid_iff.mp h.1).1
  exact ⟨isValid_iff.mpr (by simp [midnight, hdate]), h.2⟩

/-- **A file holds no date or moment that there is not.** -/
theorem Yaml.Kind.isTimely_value {k : Kind} {s : String} {d : Data} (h : k.value s = .ok d) :
    d.IsTimely := by
  cases k with
  | moment =>
    rw [value] at h
    cases hread : readMoment? (withoutLineEnd s.toList) with
    | none =>
      rw [hread] at h
      exact nomatch h
    | some m =>
      rw [hread] at h
      dsimp only at h
      by_cases hmissing : (!m.isValid || m.year = 0) = true
      · rw [if_pos hmissing] at h
        exact nomatch h
      · have hm : m.IsTimely := by simpa [Moment.IsTimely] using hmissing
        rw [if_neg hmissing] at h
        split at h
        · exact Except.ok.inj h ▸ Moment.isTimely_midnight hm
        · exact Except.ok.inj h ▸ hm
  | bool =>
    rw [value] at h
    split at h
    · exact Except.ok.inj h ▸ trivial
    · exact nomatch h
  | int =>
    obtain ⟨n, -, rfl⟩ := Sequence.map_eq_ok_iff.mp h
    trivial
  | float =>
    obtain ⟨x, -, rfl⟩ := Sequence.map_eq_ok_iff.mp h
    trivial
  | binary =>
    obtain ⟨content, -, rfl⟩ := Sequence.map_eq_ok_iff.mp h
    trivial
  | null => exact Except.ok.inj h ▸ trivial
  | text => exact Except.ok.inj h ▸ trivial
  | _ => exact nomatch h

namespace Settings

open Checked

/-! ## When settings were made -/

theorem momentInRange_eq_ok_iff {m? : Option Moment} {m : Moment} :
    momentInRange m? = .ok m ↔ m? = some m ∧ m.year ≠ 0 := by
  cases m? with
  | none => exact iff_of_false nofun nofun
  | some m' =>
    rw [momentInRange]
    by_cases hyear : m'.year = 0
    · rw [if_pos hyear]
      refine iff_of_false nofun ?_
      rintro ⟨heq, hne⟩
      exact hne (Option.some.inj heq ▸ hyear)
    · rw [if_neg hyear, Except.ok.injEq, Option.some.injEq]
      exact (and_iff_left_of_imp fun heq => heq ▸ hyear).symm

theorem isTimely_of_readMomentText {s : String} {m : Moment} (h : readMomentText s = .ok m) :
    m.IsTimely := by
  rw [readMomentText] at h
  split at h
  · rename_i hread
    obtain ⟨heq, hyear⟩ := momentInRange_eq_ok_iff.mp h
    exact ⟨Moment.isValid_of_read? (hread.trans heq), hyear⟩
  · exact nomatch h

/-- **A moment that is accepted exists**, if no value is a moment that does not. -/
theorem isTimely_of_readMoment {d : Data} {m : Moment} (hd : d.IsTimely)
    (h : readMoment d = .ok m) : m.IsTimely := by
  cases d with
  | date year month day => exact Except.ok.inj h ▸ hd
  | moment m' => exact Except.ok.inj h ▸ hd
  | text s => exact isTimely_of_readMomentText h
  | bytes content =>
    rw [readMoment] at h
    cases hcontent : textOfBytes? content with
    | none =>
      rw [hcontent] at h
      exact nomatch h
    | some s =>
      rw [hcontent] at h
      exact isTimely_of_readMomentText h
  | int n =>
    rw [readMoment] at h
    split at h
    · exact nomatch h
    · obtain ⟨hcount, hyear⟩ := momentInRange_eq_ok_iff.mp h
      exact ⟨Moment.isValid_of_ofCount? hcount, hyear⟩
  | float x =>
    obtain ⟨hnumber, hyear⟩ := momentInRange_eq_ok_iff.mp h
    exact ⟨Moment.isValid_of_ofNumber? hnumber, hyear⟩
  | _ => exact nomatch h

/-- **A moment that exists is accepted as it is written.** -/
theorem readMoment_zonedText {m : Moment} (h : m.IsTimely) :
    readMoment (.text m.zonedText) = .ok m := by
  rw [readMoment, readMomentText, Moment.read?_zonedText h.1]
  exact if_neg h.2

end Settings

namespace FilterSettings

open Checked

variable {f : FilterSettings}

theorem IsKept.tidy_eq {keyword : String} (h : IsKept keyword) : Text.tidy keyword = keyword := by
  rw [Text.tidy, h.stripped, h.small]

/-- Keywords that are kept are accepted as they are. -/
theorem readKeywords_ofTexts {keywords : List String} (h : ∀ k ∈ keywords, IsKept k) :
    readKeywords (.ofTexts keywords) = .ok keywords :=
  readKeywords_ofTexts_eq_ok_iff.mpr
    ⟨List.map_congr_left (fun k hk => (h k hk).tidy_eq) |>.trans keywords.map_id,
      fun k hk => (h k hk).word⟩

/-- **Filters in order are accepted from their record.** -/
theorem ofData_toData (hkept : f.Kept) (hdisjoint : f.Disjoint) : ofData f.toData = .ok f := by
  obtain ⟨hincluded, hexcluded⟩ := List.forall_mem_append.mp hkept
  refine ofFields_eq_ok_iff.mpr ⟨?_, ?_, ?_, rfl, overlap_eq_nil_iff.mpr hdisjoint⟩
  · exact (field_eq_ok_iff rfl).mpr (readKeywords_ofTexts hincluded)
  · exact (field_eq_ok_iff rfl).mpr (readKeywords_ofTexts hexcluded)
  · refine (field_eq_ok_iff rfl).mpr ?_
    cases f.feature with
    | none => rfl
    | some x => rw [Option.elim_some, readFeature, Feature.ofName?_name]

end FilterSettings

namespace Settings

open Checked Sequence

variable {s : Settings}

theorem readLevel_name (level : Severity) : readLevel (.text level.name) = .ok level := by
  cases level <;> rfl

/-- **Settings in order are accepted from their record.** -/
theorem exists_fields_toData {now : Moment} (hkept : s.filters.Kept)
    (hdisjoint : s.filters.Disjoint) (hmade : (s.created.getD now).IsTimely) :
    ∃ fields, s.toData now = .record fields ∧
      ofFields fields = .ok { s with created := some (s.created.getD now) } := by
  refine ⟨_, rfl, ofFields_eq_ok_iff.mpr ⟨?_, ?_, ?_, ?_, ?_, ?_, rfl⟩⟩
  · exact (field_eq_ok_iff rfl).mpr rfl
  · exact (field_eq_ok_iff rfl).mpr (map_eq_ok_iff.mpr ⟨_, readMoment_zonedText hmade, rfl⟩)
  · exact (field_eq_ok_iff rfl).mpr (FilterSettings.ofData_toData hkept hdisjoint)
  · exact (field_eq_ok_iff rfl).mpr rfl
  · exact (field_eq_ok_iff rfl).mpr rfl
  · exact (field_eq_ok_iff rfl).mpr (readLevel_name s.level)

/-- When settings that were accepted were made exists. -/
theorem isTimely_created {fields : Fields} (h : ofFields fields = .ok s)
    (hfields : ∀ d, fields.named? "created" = some d → d.IsTimely) {m : Moment}
    (hm : s.created = some m) : m.IsTimely := by
  obtain ⟨-, hcreated, -⟩ := ofFields_eq_ok_iff.mp h
  cases hd : Fields.named? fields "created" with
  | none =>
    rw [field_of_none hd, hm] at hcreated
    exact nomatch hcreated
  | some d =>
    obtain ⟨m', hm', hsome⟩ := map_eq_ok_iff.mp ((field_eq_ok_iff hd).mp hcreated)
    obtain rfl := Option.some.inj (hsome.trans hm)
    exact isTimely_of_readMoment (hfields d hd) hm'

/-- The names that levels have. -/
theorem name_mem_levels (level : Severity) :
    level.name ∈ ["DEBUG", "INFO", "WARNING", "ERROR", "CRITICAL"] := by
  cases level <;> decide

/-- **Settings that were accepted are in order, and are accepted again from their own record.**
Every keyword is a word and tidy, the two lists are disjoint, and the level has one of the five
names, whether or not more is asked for. And the record in which the settings are written makes the same
settings with the same filters in the same order, and when they were made is then said in any case.
A value that says so as a date or a moment must be one that there is, as those in files are. -/
theorem ofFields_toData {fields : Fields} {s : Settings} {now : Moment}
    (h : ofFields fields = .ok s)
    (hfields : ∀ d, fields.named? "created" = some d → d.IsTimely) (hnow : now.IsTimely) :
    (∀ keyword ∈ s.filters.included ++ s.filters.excluded,
      Text.tidy keyword = keyword ∧ Token.IsWord keyword.toList) ∧
    s.filters.Disjoint ∧
    s.level.name ∈ ["DEBUG", "INFO", "WARNING", "ERROR", "CRITICAL"] ∧
    s.effectiveLevel.name ∈ ["DEBUG", "INFO", "WARNING", "ERROR", "CRITICAL"] ∧
    ∃ record s', s.toData now = .record record ∧ ofFields record = .ok s' ∧
      s' = { s with created := some (s.created.getD now) } ∧
      s'.filters.toFilters = s.filters.toFilters := by
  obtain ⟨hkept, hdisjoint⟩ := kept_ofFields h
  have hmade : (s.created.getD now).IsTimely := by
    cases hcreated : s.created with
    | none => exact hnow
    | some m => exact isTimely_created h hfields hcreated
  obtain ⟨record, hrecord, hagain⟩ := exists_fields_toData hkept hdisjoint hmade
  exact ⟨fun keyword hk => ⟨(hkept keyword hk).tidy_eq, (hkept keyword hk).word⟩, hdisjoint,
    name_mem_levels _, name_mem_levels _, record, _, hrecord, hagain, rfl, rfl⟩

/-- Keywords with capitals and blanks, and a leap day. -/
theorem ofFields_toData_leap :
    let filters : Data := .ofFields [("include_keywords", .ofTexts [" PDF", "İ"]),
      ("exclude_keywords", .ofTexts ["ΦΩΣ"]), ("feature", .text "file_name")]
    let fields : Fields := [(.name "created", .date 2024 2 29), (.name "filters", filters),
      (.name "log_level", .text "error")]
    let now : Moment := ⟨2024, 3, 1, 4, 5, 6, 700, some (-90)⟩
    let s : Settings := { unset with
      created := some (Moment.midnight 2024 2 29)
      filters := ⟨["pdf", "i̇"], ["φως"], some .fileName⟩
      level := .error }
    ofFields fields = .ok s ∧ (∀ d, fields.named? "created" = some d → d.IsTimely) ∧
      now.IsTimely ∧
      ∃ record s', s.toData now = .record record ∧ ofFields record = .ok s' ∧
        s' = { s with created := some (s.created.getD now) } ∧
        s'.filters.toFilters = s.filters.toFilters := by
  intro filters fields now s
  have hs : ofFields fields = .ok s := by decide +kernel
  have hfields : ∀ d, fields.named? "created" = some d → d.IsTimely := by
    rintro d hd
    obtain rfl := Option.some.inj hd
    exact ⟨by decide, by decide⟩
  have hnow : now.IsTimely := ⟨by decide, by decide⟩
  exact ⟨hs, hfields, hnow, (ofFields_toData hs hfields hnow).2.2.2.2⟩

end Settings

end QuerySieve
