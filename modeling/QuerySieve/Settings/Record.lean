import QuerySieve.Settings.Field

/-!
# Settings/Record — settings from records, and changes to settings

`ofFields` makes settings of a record: a field that is left out has its usual value, every field that
is wrong is told of in the order of the fields, and a field that nobody knows comes last. That no
keyword may be both included and excluded is looked at when all fields of the filters are right.
`assign` changes one field in the same way. A field that is refused leaves all as it was; keywords
that overlap are told of as well, but after the change has been made.
-/

namespace QuerySieve

namespace Checked

/-- A field of a record, or its usual value. -/
def field {α : Type} (fields : Fields) (name : String) (usual : α) (read : Data → Checked α) :
    Checked α :=
  match Fields.named? fields name with
  | some d => (read d).under (.field name)
  | none => .ok usual

/-- **The place that a key leads to.** Whole numbers of 64 bits and truth values are numbers of items. -/
def stepOf : Key → Step
  | .name s => .field s
  | .bool b => .item (if b then 1 else 0)
  | .int n => if Word64.holds n then .item n else .field (Key.int n).shown
  | key => .field key.shown

/-- What is wrong with a key that does not stand for a field. -/
def stranger? (known : List String) : Key → Option Violation
  | .name s => if known.contains s then none else some ⟨[stepOf (.name s)], .unknownField⟩
  | key => some ⟨[stepOf key], .unnamedField⟩

/-- The fields of a record that nobody knows. -/
def strangers (known : List String) (fields : Fields) : List Violation :=
  fields.filterMap fun (key, _) => stranger? known key

end Checked

namespace FilterSettings

/-- The names of the fields. -/
def names : List String := ["include_keywords", "exclude_keywords", "feature"]

/-- What is wrong with filters whose keywords overlap. -/
def overlapViolations (f : FilterSettings) : List Violation :=
  if f.overlap.isEmpty then [] else [⟨[], .overlap f.overlap⟩]

/-- The filters, unless their keywords overlap. -/
def consistent (f : FilterSettings) : Checked FilterSettings :=
  Checked.refusing f.overlapViolations (.ok f)

/-- **Filters from a record.** -/
def ofFields (fields : Fields) : Checked FilterSettings := do
  let included := Checked.field fields "include_keywords" [] readKeywords
  let excluded := Checked.field fields "exclude_keywords" [] readKeywords
  let feature := Checked.field fields "feature" none readFeature
  let all := (((Checked.accept FilterSettings.mk).also included).also excluded).also feature
  let f ← all.refusing (Checked.strangers names fields)
  consistent f

/-- Filters from a value, which must be a record. -/
def ofData : Data → Checked FilterSettings
  | .record fields => ofFields fields
  | _ => .refuse .notFilters

/-- The filters with one field changed, whether or not the keywords then overlap. -/
def change (f : FilterSettings) (name : String) (d : Data) : Checked FilterSettings :=
  match name with
  | "include_keywords" =>
    (readKeywords d).under (.field name) |>.map fun ks => { f with included := ks }
  | "exclude_keywords" =>
    (readKeywords d).under (.field name) |>.map fun ks => { f with excluded := ks }
  | "feature" => (readFeature d).under (.field name) |>.map fun x => { f with feature := x }
  | _ => .error [⟨[.field name], .noSuchField name⟩]

/-- **The filters after a field has been set**, and what was wrong with that. -/
def assign (f : FilterSettings) (name : String) (d : Data) : FilterSettings × List Violation :=
  match f.change name d with
  | .ok f' => (f', f'.overlapViolations)
  | .error vs => (f, vs)

end FilterSettings

namespace Settings

/-- The names of the fields. -/
def names : List String := ["version", "created", "filters", "verbose", "debug", "log_level"]

/-- **Settings from a record.** -/
def ofFields (fields : Fields) : Checked Settings :=
  let version := Checked.field fields "version" unset.version readText
  let created := Checked.field fields "created" none fun d => (readMoment d).map some
  let filters := Checked.field fields "filters" .unset FilterSettings.ofData
  let verbose := Checked.field fields "verbose" false readTruth
  let debug := Checked.field fields "debug" false readTruth
  let level := Checked.field fields "log_level" unset.level readLevel
  let all := ((((((Checked.accept Settings.mk).also version).also created).also filters).also
    verbose).also debug).also level
  all.refusing (Checked.strangers names fields)

/-- The settings with one field changed. -/
def change (s : Settings) (name : String) (d : Data) : Checked Settings :=
  let at' {α : Type} (read : Data → Checked α) : Checked α := (read d).under (.field name)
  match name with
  | "version" => (at' readText).map fun x => { s with version := x }
  | "created" => (at' readMoment).map fun x => { s with created := some x }
  | "filters" => (at' FilterSettings.ofData).map fun x => { s with filters := x }
  | "verbose" => (at' readTruth).map fun x => { s with verbose := x }
  | "debug" => (at' readTruth).map fun x => { s with debug := x }
  | "log_level" => (at' readLevel).map fun x => { s with level := x }
  | _ => .error [⟨[.field name], .noSuchField name⟩]

/-- **The settings after a field has been set**, and what was wrong with that. -/
def assign (s : Settings) (name : String) (d : Data) : Settings × List Violation :=
  match s.change name d with
  | .ok s' => (s', [])
  | .error vs => (s, vs)

/-- The settings after a field of their filters has been set, and what was wrong with that. -/
def assignFilters (s : Settings) (name : String) (d : Data) : Settings × List Violation :=
  let (f, vs) := s.filters.assign name d
  ({ s with filters := f }, vs)

end Settings

end QuerySieve
