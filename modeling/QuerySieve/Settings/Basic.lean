import QuerySieve.Filter
import QuerySieve.Journal

/-!
# Settings/Basic — what a user sets once for every search

Settings are filters that are added to those of every query, and how much is told of what is going on.
The filters of the settings share one feature: with it they form a requirement of their own, without
it they are alternatives to the filters of the query that have none. `toData` is the form in which
settings are written to a file.
-/

namespace QuerySieve

/-- The keywords that are set, and the feature that groups them. -/
structure FilterSettings where
  included : List String
  excluded : List String
  feature : Option Feature
  deriving DecidableEq, Repr

/-- What is set. Settings that do not say when they were made were made when they were loaded. -/
structure Settings where
  version : String
  created : Option Moment
  filters : FilterSettings
  verbose : Bool
  debug : Bool
  /-- The severity from which on entries are shown, unless more is asked for. -/
  level : Severity
  deriving DecidableEq, Repr

namespace FilterSettings

/-- Nothing is set. -/
def unset : FilterSettings := ⟨[], [], none⟩

/-- **The filters that are set**: what must occur, then what must not, each in its order. -/
def toFilters (f : FilterSettings) : List Filter :=
  let mark := f.feature.map Mark.feature
  f.included.map (fun k => Filter.make true k mark none) ++
    f.excluded.map (fun k => Filter.make false k mark none)

/-- The keywords that are included as well as excluded, each once, in the order of code points. -/
def overlap (f : FilterSettings) : List String :=
  (f.included.filter f.excluded.contains).eraseDups.mergeSort fun a b => !(b < a)

/-- The keywords and the feature as a record. -/
def toData (f : FilterSettings) : Data :=
  .ofFields [("include_keywords", .ofTexts f.included), ("exclude_keywords", .ofTexts f.excluded),
    ("feature", f.feature.elim .null fun x => .text x.name)]

end FilterSettings

namespace Settings

/-- The settings of one who sets nothing. -/
def unset : Settings := ⟨"0.1.0", none, .unset, false, false, .warning⟩

/-- **The severity from which on entries are shown.** -/
def effectiveLevel (s : Settings) : Severity :=
  if s.debug then .debug else if s.verbose then .info else s.level

/-- The settings as a record, made at the given time if they do not say. -/
def toData (now : Moment) (s : Settings) : Data :=
  .ofFields [("version", .text s.version), ("created", .text (s.created.getD now).zonedText),
    ("filters", s.filters.toData), ("verbose", .bool s.verbose), ("debug", .bool s.debug),
    ("log_level", .text s.level.name)]

end Settings

end QuerySieve
