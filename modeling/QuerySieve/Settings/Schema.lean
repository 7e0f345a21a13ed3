import QuerySieve.Settings.Record

/-!
# Settings/Schema — the form of a file of settings, for other programs

`Settings.schema` describes the record that settings are made from, in the usual notation for forms of
records: a type for every field, and what it holds when it is left out.
-/

namespace QuerySieve.Settings

/-- A field with a usual value. -/
def fieldSchema (usual : Data) (description title kind : String) : Data :=
  .ofFields [("default", usual), ("description", .text description), ("title", .text title),
    ("type", .text kind)]

/-- A list of keywords, usually empty. -/
def keywordsSchema (description title : String) : Data :=
  .ofFields [("default", .list []), ("description", .text description),
    ("items", .ofFields [("type", .text "string")]), ("title", .text title), ("type", .text "array")]

/-- A record of which no other fields are known. -/
def recordSchema (description title : String) (fields : List (String × Data)) : List (String × Data) :=
  [("additionalProperties", .bool false), ("description", .text description),
    ("properties", .ofFields fields), ("title", .text title), ("type", .text "object")]

/-- Where the form of something is found. -/
def reference (name : String) : String × Data := ("$ref", .text ("#/$defs/" ++ name))

/-- The form of a feature. -/
def featureSchema : Data := .ofFields [
  ("description", .text (String.intercalate "\n" [
    "Common grouping keys for keyword filters.", "",
    "Filters sharing a feature are alternatives (OR), different features are",
    "independent requirements (AND). Any hashable value can serve as a",
    "feature; these are the ones the search UI assigns."])),
  ("enum", .ofTexts (Feature.all.map Feature.name)),
  ("title", .text "Feature"), ("type", .text "string")]

/-- The form of the filters. -/
def filtersSchema : Data := .ofFields (recordSchema
  "Keyword filters applied in addition to the ones typed in a query." "FilterConfig" [
    ("include_keywords", keywordsSchema "Keywords a result must contain" "Include Keywords"),
    ("exclude_keywords", keywordsSchema "Keywords a result must not contain" "Exclude Keywords"),
    ("feature", .ofFields [
      ("anyOf", .list [.ofFields [reference "Feature"], .ofFields [("type", .text "null")]]),
      ("default", .null),
      ("description", .text ("Feature group for configured keywords. Unset keeps them in the same " ++
        "OR-group as untagged query filters; a feature makes them a separate requirement"))])])

/-- **The form of the settings.** -/
def schema : Data := .ofFields (
  [("$defs", .ofFields [("Feature", featureSchema), ("FilterConfig", filtersSchema)])] ++
  recordSchema "Root application configuration model." "AppConfig" [
    ("version", fieldSchema (.text unset.version) "Configuration version" "Version" "string"),
    ("created", .ofFields [("description", .text "Configuration creation time"),
      ("format", .text "date-time"), ("title", .text "Created"), ("type", .text "string")]),
    ("filters", .ofFields [reference "FilterConfig", ("description", .text "Filter configuration")]),
    ("verbose", fieldSchema (.bool unset.verbose) "Enable verbose logging output" "Verbose" "boolean"),
    ("debug", fieldSchema (.bool unset.debug) "Enable debug mode with detailed logging" "Debug"
      "boolean"),
    ("log_level", fieldSchema (.text unset.level.name)
      "Log level used when neither verbose nor debug is set" "Log Level" "string")])

end QuerySieve.Settings
