import QuerySieve.Settings.Basic

/-!
# Settings/Advice — settings that are valid but hardly meant

Nothing here keeps settings from being used: a feature without keywords to group, a keyword that is
listed twice, a level that is not looked at.
-/

namespace QuerySieve

/-- Something that the user may want to know about the settings. -/
inductive Advice where
  | featureWithoutKeywords
  | repeatedInclusion
  | repeatedExclusion
  /-- The level is not looked at, as everything is shown. -/
  | ignoredLevel (level : Severity)
  deriving DecidableEq, Repr

namespace Advice

/-- **The advice in words.** -/
def message : Advice → String
  | featureWithoutKeywords => "filters.feature is set but no keywords are configured"
  | repeatedInclusion => "include_keywords contains duplicates"
  | repeatedExclusion => "exclude_keywords contains duplicates"
  | ignoredLevel level => "debug is enabled, log_level " ++ level.name ++ " is ignored"

/-- What is said where settings are asked for before any have been loaded. -/
def nothingLoaded : String := "No configuration loaded"

end Advice

namespace Settings

/-- **The advice on settings**, in a fixed order. -/
def advice (s : Settings) : List Advice :=
  (if s.filters.feature.isSome && s.filters.toFilters.isEmpty
    then [.featureWithoutKeywords] else []) ++
  (if s.filters.included.Nodup then [] else [.repeatedInclusion]) ++
  (if s.filters.excluded.Nodup then [] else [.repeatedExclusion]) ++
  (if s.debug && s.level != .debug then [.ignoredLevel s.level] else [])

end Settings

end QuerySieve
