import QuerySieve.Query.Token

/-!
# Query/Basic — the filters of a query, and the query without them

A query is a text in which filter tokens may stand among the words to search for. `Query.filters`
reads the filters off its tokens; `Query.without` takes the tokens of given filters out again, each
where its text first occurs; `Query.terms` is what is left when all are gone.
-/

namespace QuerySieve.Query

/-- **The filters that a query names**, in the order of their tokens. -/
def filters (query : String) : List Filter := (Piece.scan query.toList).filterMap Piece.filter?

/-- **The query without the tokens of some filters** — one occurrence for each filter, and no blanks
at the ends. -/
def without (query : String) (fs : List Filter) : String :=
  String.ofList
    (Text.trim (fs.foldl (fun cs f => Text.removeFirst f.form.toList cs) query.toList))

/-- The words of a query: the query without the tokens of its own filters. -/
def terms (query : String) : String := without query (filters query)

end QuerySieve.Query
