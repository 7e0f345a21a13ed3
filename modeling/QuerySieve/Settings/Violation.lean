import QuerySieve.Feature

/-!
# Settings/Violation — what is wrong with a value that was to become settings

A violation names a place in the value and a problem with what stands there. Several can be found in
one value; they are listed in the order of the settings' fields.
-/

namespace QuerySieve

/-- A step on the way to a place inside a value. -/
inductive Step where
  | field (name : String)
  | item (index : Int)
  deriving DecidableEq, Repr

/-- What is wrong with a value. -/
inductive Problem where
  /-- A keyword has no characters but blanks. -/
  | emptyKeyword
  /-- A keyword holds a character that ends the word of a token. -/
  | brokenKeyword (keyword : String)
  /-- Some keywords are included as well as excluded. -/
  | overlap (keywords : List String)
  /-- A level has none of the five names. -/
  | unknownLevel
  /-- There is no field of that name to fill. -/
  | unknownField
  /-- There is no field of that name to change. -/
  | noSuchField (name : String)
  /-- A key is no name. -/
  | unnamedField
  | notText
  /-- The bytes are no text. -/
  | undecodableText
  | notList
  | notFilters
  | unknownFeature
  /-- The value is of a kind that is never taken for a truth value. -/
  | notTruth
  /-- The value is of a right kind, but neither true nor false. -/
  | unclearTruth
  /-- The value is of a kind that is never taken for a moment. -/
  | notMoment
  /-- The text writes no moment. -/
  | unreadableMoment
  /-- The number lies too far from the present. -/
  | momentOutOfRange
  deriving DecidableEq, Repr

/-- A problem and its place. -/
structure Violation where
  place : List Step
  problem : Problem
  deriving DecidableEq, Repr

namespace Problem

/-- The quoted names with commas between them, and a word before the last. -/
def alternatives : List String → String
  | [] => ""
  | [a] => "'" ++ a ++ "'"
  | [a, b] => "'" ++ a ++ "' or '" ++ b ++ "'"
  | a :: rest => "'" ++ a ++ "', " ++ alternatives rest

/-- **The problem in words.** -/
def message : Problem → String
  | emptyKeyword => "Value error, Keywords cannot be empty"
  | brokenKeyword keyword =>
    "Value error, Keyword '" ++ keyword ++ "' cannot contain whitespace or '-'"
  | overlap keywords =>
    "Value error, Keywords cannot be both included and excluded: "
      ++ String.intercalate ", " keywords
  | unknownLevel =>
    "Value error, Log level must be one of: CRITICAL, DEBUG, ERROR, INFO, WARNING"
  | unknownField => "Extra inputs are not permitted"
  | noSuchField name => "Object has no attribute '" ++ name ++ "'"
  | unnamedField => "Keys should be strings"
  | notText => "Input should be a valid string"
  | undecodableText => "Input should be a valid string, unable to parse raw data as a unicode string"
  | notList => "Input should be a valid list"
  | notFilters => "Input should be a valid dictionary or instance of FilterConfig"
  | unknownFeature => "Input should be " ++ alternatives (Feature.all.map Feature.name)
  | notTruth => "Input should be a valid boolean"
  | unclearTruth => "Input should be a valid boolean, unable to interpret input"
  | notMoment => "Input should be a valid datetime"
  | unreadableMoment => "Input should be a valid datetime or date"
  | momentOutOfRange => "Input should be a valid datetime, dates before 1600 or after 9999 are not supported"

end Problem

namespace Violation

/-- The violation seen from further out. -/
def under (step : Step) (v : Violation) : Violation := { v with place := step :: v.place }

end Violation

end QuerySieve
