import QuerySieve.License

/-!
# Result/Basic — one answer of a search, and the text that filters look into

Only what a keyword can match is kept of a result. `fields` lists its texts in their order, `haystack`
is the small form of them all with single spaces between; a licence that is unknown adds nothing.
-/

namespace QuerySieve

/-- The file that a result leads to. -/
structure FileEntry where
  name : String
  size : Int
  deriving DecidableEq, Repr, Inhabited

/-- A search result; one with a file can be downloaded. -/
structure Result where
  displayName : String
  detailsUrl : String
  thumbnailUrl : Option String
  source : Option String
  license : License
  file : Option FileEntry
  deriving DecidableEq, Repr, Inhabited

namespace Result

/-- The word for the kind of a result. -/
def kindName (r : Result) : String :=
  if r.file.isSome then "FileSearchResult" else "SearchResult"

/-- **The texts of a result that a keyword can match**, in order. -/
def fields (r : Result) : List String :=
  r.source.toList ++ [r.displayName] ++ (r.file.map (·.name)).toList ++ [r.detailsUrl]
    ++ r.thumbnailUrl.toList ++ (if r.license = License.unknown then [] else [r.license.name])

/-- **The text that filters look into.** -/
def haystack (r : Result) : String := Text.lowerString (String.intercalate " " r.fields)

end Result

end QuerySieve
