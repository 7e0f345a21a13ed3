import QuerySieve.Feature
import QuerySieve.Text.Case
import QuerySieve.Text.Substring

/-!
# Filter — one keyword that a result must have or must not have

A filter is inclusive or exclusive, and its keyword is in small letters: `Filter.make` sees to that,
and `accepts` expects the same of the text it looks into. Two filters are equal if they have the same
polarity and keyword; what they are grouped by and how they are written plays no part.
-/

namespace QuerySieve

/-- A keyword filter. -/
structure Filter where
  inclusive : Bool
  keyword : String
  mark : Option Mark
  /-- The token that the filter is written as. -/
  form : String
  deriving Repr

namespace Filter

/-- The tag between the sign and the keyword of a token. -/
def tag : String := ":keyword:"

/-- The token for a keyword: sign, tag, keyword. -/
def formOf (inclusive : Bool) (keyword : String) : String :=
  (if inclusive then "+" else "-") ++ tag ++ keyword

/-- **A filter for a keyword in any case.** Without a form of its own it is written as the token for
its keyword. -/
def make (inclusive : Bool) (keyword : String) (mark : Option Mark) (form : Option String) :
    Filter :=
  let small := Text.lowerString keyword
  ⟨inclusive, small, mark, form.getD (formOf inclusive small)⟩

/-- **The filter accepts a text in small letters**: the keyword occurs in it, or, for an exclusive
filter, does not. -/
def accepts (f : Filter) (text : String) : Bool :=
  Text.occursIn f.keyword.toList text.toList == f.inclusive

/-- The filter with the opposite polarity, written as the token for its keyword. -/
def flip (f : Filter) : Filter := make (!f.inclusive) f.keyword f.mark none

/-- Equality of filters: polarity and keyword. -/
instance : BEq Filter := ⟨fun f g => f.inclusive == g.inclusive && f.keyword == g.keyword⟩

theorem beq_iff (f g : Filter) :
    (f == g) = true ↔ f.inclusive = g.inclusive ∧ f.keyword = g.keyword := by
  simp [BEq.beq]

/-- The list without every filter that equals an earlier one. -/
def distinct : List Filter → List Filter
  | [] => []
  | f :: fs => f :: (distinct fs).filter (· != f)

/-- The filter as a record, with what is shown for its mark. -/
def toData (room : Nat) (f : Filter) : Except ShowFault Data := do
  let label ← Mark.labelOf room f.mark
  .ok (.ofFields [("inclusive", .bool f.inclusive), ("keyword", .text f.keyword), ("feature", label),
    ("canonical_form", .text f.form)])

end Filter

end QuerySieve
