import QuerySieve.Proofs.Settings.Field
import QuerySieve.Proofs.Settings.Source

/-!
# Proofs/Settings/Outline — what can be seen of a record when settings are made of it

Of a value that is no text, number or list it only matters what it is, not what it holds; of the
fields that belong to no setting, only which there are and in what order.  The `Outline` of a record
is all of this, and settings depend on nothing else (`ofFields_congr`).  Laying what is said over a
record does to its outline just what putting it in its place does (`outline_override`), although the
records may differ: inside a value that no setting takes, the two laid over each other mix.
-/

namespace QuerySieve

namespace Checked

variable {α : Type} {fields fields' : Fields} {name : String} {usual : α} {read : Data → Checked α}

/-- A field is read alike in two records if what is read there looks alike. -/
theorem field_congr {look : Data → Data} (hread : ∀ d, read (look d) = read d)
    (h : (fields.named? name).map look = (fields'.named? name).map look) :
    field fields name usual read = field fields' name usual read := by
  have hfield : ∀ fields : Fields, field fields name usual read =
      ((fields.named? name).map look).elim (.ok usual) fun d => (read d).under (.field name) := by
    intro fields
    rw [field]
    cases fields.named? name with
    | none => rfl
    | some d => exact congrArg (under (.field name)) (hread d).symm
  rw [hfield, hfield, h]

/-- Only the fields beside those that are known can be strangers. -/
theorem strangers_beside {names known : List String} (h : ∀ name ∈ names, name ∈ known) :
    strangers known (fields.beside names) = strangers known fields := by
  rw [strangers, Fields.beside, List.filterMap_filter]
  refine List.filterMap_congr fun ⟨key, value⟩ _ => ?_
  by_cases hkey : key.isAmong names = true
  · rw [if_neg (by simpa using hkey)]
    obtain ⟨name, hname, rfl⟩ := Key.isAmong_iff.mp hkey
    exact (if_pos (List.contains_iff_mem.mpr (h name hname))).symm
  · rw [if_pos (by simpa using hkey)]

end Checked

namespace Setting

/-- The record that a setting stands in. -/
def home (s : Setting) (fields : Fields) : Fields := s.inner?.elim fields fields.inside

theorem home_of_outer {s : Setting} (h : s.inner? = none) (fields : Fields) :
    s.home fields = fields := by rw [home, h]; rfl

theorem home_of_inner {s : Setting} {name : String} (h : s.inner? = some name) (fields : Fields) :
    s.home fields = fields.inside name := by rw [home, h]; rfl

end Setting

/-- **What can be seen of a record when settings are made of it.** -/
@[ext] structure Outline where
  /-- The fields that belong to no setting. -/
  beside : Fields
  /-- What stands for the filters; of a record, the fields that belong to no setting. -/
  filters : Option Data
  /-- What stands for each setting, of a record only that it is one. -/
  value : Setting → Option Data

namespace Settings

open Setting (outerNames)

variable {fields fields' : Fields}

/-- The outline of a record. -/
def outline (fields : Fields) : Outline where
  beside := fields.beside outerNames
  filters := (fields.named? "filters").map (Data.beside FilterSettings.names)
  value s := ((s.home fields).named? s.field).map Data.emptied

/-! ## Settings are made of the outline -/

theorem readText_emptied (d : Data) : readText d.emptied = readText d := by cases d <;> rfl

theorem readTruth_emptied (d : Data) : readTruth d.emptied = readTruth d := by cases d <;> rfl

theorem readLevel_emptied (d : Data) : readLevel d.emptied = readLevel d := by
  rw [readLevel, readLevel, readText_emptied]

end Settings

namespace FilterSettings

open Checked

variable {fields fields' : Fields}

theorem readKeywords_emptied (d : Data) : readKeywords d.emptied = readKeywords d := by
  cases d <;> rfl

theorem readFeature_emptied (d : Data) : readFeature d.emptied = readFeature d := by
  cases d <;> rfl

theorem ofFields_congr (hbeside : fields.beside names = fields'.beside names)
    (hvalue : ∀ s : Setting, s.inner? = some "filters" →
      (fields.named? s.field).map Data.emptied = (fields'.named? s.field).map Data.emptied) :
    ofFields fields = ofFields fields' := by
  have hincluded : field fields "include_keywords" [] readKeywords =
      field fields' "include_keywords" [] readKeywords :=
    field_congr readKeywords_emptied (hvalue .included rfl)
  have hexcluded : field fields "exclude_keywords" [] readKeywords =
      field fields' "exclude_keywords" [] readKeywords :=
    field_congr readKeywords_emptied (hvalue .excluded rfl)
  have hfeature : field fields "feature" none readFeature =
      field fields' "feature" none readFeature :=
    field_congr readFeature_emptied (hvalue .feature rfl)
  have hstrangers : strangers names fields = strangers names fields' := by
    rw [← strangers_beside fun _ => id, hbeside, strangers_beside fun _ => id]
  rw [ofFields, ofFields, hincluded, hexcluded, hfeature, hstrangers]

/-- What is no record makes no filters, and a record makes them of what can be seen of it. -/
theorem ofData_congr {d d' : Data} (hbeside : d.beside names = d'.beside names)
    (hvalue : ∀ f f' : Fields, d = .record f → d' = .record f' → ∀ s : Setting,
      s.inner? = some "filters" →
        (f.named? s.field).map Data.emptied = (f'.named? s.field).map Data.emptied) :
    ofData d = ofData d' := by
  cases d with
  | record f =>
    obtain ⟨f', rfl, hf'⟩ := Data.beside_eq_record hbeside.symm
    exact ofFields_congr hf'.symm (hvalue f f' rfl rfl)
  | _ =>
    cases d' with
    | record f' => exact Data.noConfusion hbeside
    | _ => rfl

end FilterSettings

namespace Settings

open Checked

variable {fields fields' : Fields}

theorem field_filters_congr (h : outline fields = outline fields') :
    field fields "filters" .unset FilterSettings.ofData =
      field fields' "filters" .unset FilterSettings.ofData := by
  have hbeside : (fields.named? "filters").map (Data.beside FilterSettings.names) =
      (fields'.named? "filters").map (Data.beside FilterSettings.names) :=
    congrArg Outline.filters h
  have hvalue : ∀ s : Setting, s.inner? = some "filters" →
      ((fields.inside "filters").named? s.field).map Data.emptied =
        ((fields'.inside "filters").named? s.field).map Data.emptied := by
    intro s hs
    have hs' := congrFun (congrArg Outline.value h) s
    simpa only [outline, Setting.home_of_inner hs] using hs'
  rw [field, field]
  cases hd : fields.named? "filters" with
  | none =>
    rw [hd] at hbeside
    rw [Option.map_eq_none_iff.mp hbeside.symm]
  | some d =>
    rw [hd] at hbeside
    obtain ⟨d', hd', heq⟩ := Option.map_eq_some_iff.mp hbeside.symm
    rw [hd']
    refine congrArg (under (.field "filters")) (FilterSettings.ofData_congr heq.symm ?_)
    rintro f f' rfl rfl s hs
    simpa only [Fields.inside_eq hd, Fields.inside_eq hd'] using hvalue s hs

/-- **Settings are made of what can be seen of a record.** -/
theorem ofFields_congr (h : outline fields = outline fields') :
    ofFields fields = ofFields fields' := by
  have hbeside : fields.beside Setting.outerNames = fields'.beside Setting.outerNames :=
    congrArg Outline.beside h
  have hvalue : ∀ s : Setting, s.inner? = none →
      (fields.named? s.field).map Data.emptied = (fields'.named? s.field).map Data.emptied := by
    intro s hs
    have hs' := congrFun (congrArg Outline.value h) s
    simpa only [outline, Setting.home_of_outer hs] using hs'
  have hother : ∀ name ∉ Setting.outerNames, fields.named? name = fields'.named? name := by
    intro name hname
    rw [← Fields.named?_beside hname, hbeside, Fields.named?_beside hname]
  have hversion : field fields "version" unset.version readText =
      field fields' "version" unset.version readText := by
    rw [field, field, hother "version" (by decide)]
  have hcreated : field fields "created" none (fun d => (readMoment d).map some) =
      field fields' "created" none fun d => (readMoment d).map some := by
    rw [field, field, hother "created" (by decide)]
  have hverbose : field fields "verbose" false readTruth = field fields' "verbose" false readTruth :=
    field_congr readTruth_emptied (hvalue .verbose rfl)
  have hdebug : field fields "debug" false readTruth = field fields' "debug" false readTruth :=
    field_congr readTruth_emptied (hvalue .debug rfl)
  have hlevel : field fields "log_level" unset.level readLevel =
      field fields' "log_level" unset.level readLevel :=
    field_congr readLevel_emptied (hvalue .level rfl)
  have hstrangers : strangers names fields = strangers names fields' := by
    have hknown : ∀ name ∈ Setting.outerNames, name ∈ names := by decide
    rw [← strangers_beside hknown, hbeside, strangers_beside hknown]
  simp only [ofFields, hversion, hcreated, field_filters_congr h, hverbose, hdebug, hlevel,
    hstrangers]

end Settings

/-! ## What is said, seen in the outline -/

namespace Outline

variable {said above : Setting → Option Data}

/-- Something is said of a setting inside the filters. -/
def speaksInside (said : Setting → Option Data) : Bool :=
  Setting.all.any fun s => s.inner?.isSome && (said s).isSome

theorem speaksInside_iff :
    speaksInside said = true ↔ ∃ s : Setting, s.inner? = some "filters" ∧ said s ≠ none := by
  rw [speaksInside, List.any_eq_true]
  constructor
  · rintro ⟨s, -, hs⟩
    obtain ⟨hinner, hsaid⟩ := Bool.and_eq_true_iff.mp hs
    exact ⟨s, s.inner?_cases.resolve_left (Option.isSome_iff_ne_none.mp hinner),
      Option.isSome_iff_ne_none.mp hsaid⟩
  · rintro ⟨s, hinner, hsaid⟩
    refine ⟨s, by cases s <;> simp [Setting.all], ?_⟩
    rw [hinner, Option.isSome_some, Bool.true_and]
    exact Option.isSome_iff_ne_none.mpr hsaid

theorem eq_none_of_not_speaksInside (h : ¬ speaksInside said = true) (s : Setting)
    (hs : s.inner? = some "filters") : said s = none :=
  by_contra fun hsaid => h (speaksInside_iff.mpr ⟨s, hs, hsaid⟩)

theorem speaksInside_or : speaksInside (fun s => (above s).or (said s)) =
    (speaksInside above || speaksInside said) := by
  rw [Bool.eq_iff_iff, Bool.or_eq_true, speaksInside_iff, speaksInside_iff, speaksInside_iff,
    ← exists_or]
  simp only [← and_or_left, ne_eq, Option.or_eq_none_iff, not_and_or]

/-- What stands for the filters once a setting inside is put in: a record. -/
def asRecord : Option Data → Data
  | some (.record fields) => .record fields
  | _ => .record []

theorem asRecord_asRecord (d : Option Data) : asRecord (some (asRecord d)) = asRecord d := by
  cases d with
  | none => rfl
  | some d => cases d <;> rfl

theorem asRecord_map_beside (fields : Fields) (name : String) (names : List String) :
    asRecord ((fields.named? name).map (Data.beside names)) =
      .record ((fields.inside name).beside names) := by
  rw [Fields.inside]
  cases fields.named? name with
  | none => rfl
  | some d => cases d <;> rfl

/-- **The outline with what is said put in its place.** -/
def under (o : Outline) (said : Setting → Option Data) : Outline where
  beside := o.beside
  filters := if speaksInside said then some (asRecord o.filters) else o.filters
  value s := ((said s).map Data.emptied).or (o.value s)

/-- Saying more after something was said is the same as saying both at once, the later one first. -/
theorem under_under (o : Outline) :
    (o.under said).under above = o.under fun s => (above s).or (said s) := by
  refine Outline.ext rfl ?_ ?_
  · simp only [under, speaksInside_or]
    cases speaksInside above <;> cases speaksInside said <;> simp [asRecord_asRecord]
  · funext s
    simp only [under, Option.map_or, Option.or_assoc]

end Outline

namespace Settings

open Outline

variable {said : Setting → Option Data} {file fields top : Fields}

/-- **The record that counts looks like the file's with what is said in its place.** -/
theorem Ranked.outline_eq (h : Ranked said file fields) :
    outline fields = (outline file).under said := by
  refine Outline.ext h.beside ?_ ?_
  · show (fields.named? "filters").map _ = if speaksInside said then _ else _
    by_cases hspeaks : speaksInside said = true
    · obtain ⟨s, hs, hsaid⟩ := speaksInside_iff.mp hspeaks
      obtain ⟨inner, hinner, hranked⟩ := h.inside s hs hsaid
      rw [if_pos hspeaks, hinner, outline, asRecord_map_beside, ← hranked.beside]
      rfl
    · rw [if_neg hspeaks, h.silent (eq_none_of_not_speaksInside hspeaks)]
      rfl
  · funext s
    show ((s.home fields).named? s.field).map _ =
      ((said s).map _).or (((s.home file).named? s.field).map _)
    rcases s.inner?_cases with hs | hs
    · rw [Setting.home_of_outer hs, Setting.home_of_outer hs, h.outside s hs, Option.map_or]
    · rw [Setting.home_of_inner hs, Setting.home_of_inner hs, h.ranked_inside.value s hs,
        Option.map_or]

/-- The filters of the two records laid over each other look like those beneath with what is said of
the settings inside. -/
theorem Ranked.inside_override (h : Ranked said [] top) (htidy : Tidy top) (base : Fields) :
    ((Fields.override base top).inside "filters").beside FilterSettings.names =
      (base.inside "filters").beside FilterSettings.names ∧
    ∀ s : Setting, s.inner? = some "filters" →
      (((Fields.override base top).inside "filters").named? s.field).map Data.emptied =
        ((said s).map Data.emptied).or
          (((base.inside "filters").named? s.field).map Data.emptied) := by
  by_cases hspeaks : speaksInside said = true
  · obtain ⟨s, hs, hsaid⟩ := speaksInside_iff.mp hspeaks
    obtain ⟨inner, hinner, hranked⟩ := h.inside s hs hsaid
    have hvalue : ∀ s : Setting, s.inner? = some "filters" → Fields.named? inner s.field = said s :=
      fun s hs => (hranked.value s hs).trans (Option.or_none)
    -- what is said stands in a record, which is laid over another one and else stands alone
    obtain ⟨merged, hmerged, rfl | ⟨hnil, rfl⟩⟩ :=
      Fields.named?_override_record base htidy.outer hinner
    · rw [Fields.inside_eq hmerged]
      refine ⟨Fields.beside_override hranked.beside, fun s hs => ?_⟩
      rw [Fields.map_emptied_named?_override (Fields.inside_eq hinner ▸ htidy.inner), hvalue s hs]
    · rw [Fields.inside_eq hmerged, hnil]
      refine ⟨hranked.beside, fun s hs => ?_⟩
      rw [hvalue s hs, Fields.named?_nil, Option.map_none, Option.or_none]
  · have hsilent := eq_none_of_not_speaksInside hspeaks
    have hsame : (Fields.override base top).named? "filters" = base.named? "filters" := by
      rw [Fields.named?_override htidy.outer, h.silent hsilent]
      rfl
    rw [Fields.inside_congr hsame]
    exact ⟨rfl, fun s hs => by rw [hsilent s hs, Option.map_none, Option.none_or]⟩

/-- **Laying what is said over a record looks like putting it in its place.** -/
theorem Ranked.outline_override (h : Ranked said [] top) (htidy : Tidy top) (base : Fields) :
    outline (Fields.override base top) = (outline base).under said := by
  obtain ⟨hbeside, hvalue⟩ := h.inside_override htidy base
  refine Outline.ext (Fields.beside_override h.beside) ?_ ?_
  · show ((Fields.override base top).named? "filters").map _ = if speaksInside said then _ else _
    by_cases hspeaks : speaksInside said = true
    · obtain ⟨s, hs, hsaid⟩ := speaksInside_iff.mp hspeaks
      obtain ⟨inner, hinner, -⟩ := h.inside s hs hsaid
      obtain ⟨merged, hmerged, -⟩ := Fields.named?_override_record base htidy.outer hinner
      rw [if_pos hspeaks, outline, asRecord_map_beside, ← hbeside, hmerged,
        Fields.inside_eq hmerged]
      rfl
    · rw [if_neg hspeaks, Fields.named?_override htidy.outer,
        h.silent (eq_none_of_not_speaksInside hspeaks)]
      rfl
  · funext s
    show ((s.home _).named? s.field).map _ =
      ((said s).map _).or (((s.home base).named? s.field).map _)
    rcases s.inner?_cases with hs | hs
    · rw [Setting.home_of_outer hs, Setting.home_of_outer hs,
        Fields.map_emptied_named?_override htidy.outer, h.outside s hs]
      exact congrArg (fun d => (Option.map Data.emptied d).or _) Option.or_none
    · rw [Setting.home_of_inner hs, Setting.home_of_inner hs, hvalue s hs]

end Settings

end QuerySieve
