import QuerySieve.Report
import QuerySieve.Yaml.Fault

/-!
# Failure — how an operation ends without a value

Most failures are reports. Settings that are made directly from a value fail with the violations
found in it. The rest are told to nobody in particular: they end whatever was going on.
-/

namespace QuerySieve

/-- What was to be made from a value. -/
inductive Model where
  | settings
  | filters
  deriving DecidableEq, Repr

/-- A failure without a report. -/
inductive Breakdown where
  /-- A filter is grouped by something that cannot be compared. -/
  | ungroupable
  /-- What a filter is grouped by cannot be shown, for reasons of its own. -/
  | unshowable
  /-- What is shown for a group that failed is no text. -/
  | wordless
  /-- A size is infinite. -/
  | infinite
  /-- A number has too many digits. -/
  | tooManyDigits
  /-- Lists and records lie too deep inside one another. -/
  | tooDeep
  /-- Something in a file of settings stands for nothing. -/
  | meaningless (fault : Yaml.Fault)
  /-- A file of settings is no text. -/
  | undecodable
  /-- A key of the settings is no name. -/
  | unnamedKey
  /-- A place leads nowhere, or not to what is wanted. -/
  | unreachable (fault : PathFault)
  /-- The user's own folder is not known. -/
  | homeless
  /-- Nothing has been loaded yet. -/
  | nothingLoaded
  deriving DecidableEq, Repr

/-- The failure in words. -/
def Breakdown.words : Breakdown → String
  | ungroupable => "filters cannot be grouped by what cannot be compared"
  | unshowable => "what a filter is grouped by cannot be shown"
  | wordless => "what is shown for a group is no text"
  | infinite => "a size is infinite"
  | tooManyDigits => "a number has too many digits"
  | tooDeep => "lists and records lie too deep inside one another"
  | meaningless fault => fault.words
  | undecodable => "a file of settings is no text"
  | unnamedKey => "a key of the settings is no name"
  | unreachable fault => fault.words
  | homeless => "the user's own folder is not known"
  | nothingLoaded => "nothing has been loaded yet"

/-- The breakdown of what shows a value. -/
def Breakdown.ofShowing : ShowFault → Breakdown
  | .tooLong => .tooManyDigits
  | .tooDeep => .tooDeep
  | .refused => .unshowable

/-- How an operation ends without a value. -/
inductive Failure where
  | report (r : Report)
  | unfit (model : Model) (violations : List Violation)
  | breakdown (b : Breakdown)

end QuerySieve
