/-!
# Text/Range — character classes as tables of code point ranges

A class of characters is written down as a list of ranges in ascending order; `inRanges` looks a
character up in it. The tables themselves stand in modules of their own, named for the property.
-/

namespace QuerySieve.Text

/-- The code points from `first` to `last`, both included. -/
structure Range where
  first : Nat
  last : Nat

namespace Range

/-- The code point lies in the range. -/
def covers (r : Range) (n : Nat) : Bool := r.first ≤ n && n ≤ r.last

end Range

/-- The character lies in one of the ranges. -/
def inRanges (table : List Range) (c : Char) : Bool := table.any (·.covers c.toNat)

end QuerySieve.Text
