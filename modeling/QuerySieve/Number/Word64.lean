/-!
# Number/Word64 — whole numbers that fit into 64 bits

Whole numbers have no bounds here, but some rules hold only for those that 64 bits can write with a
sign.
-/

namespace QuerySieve.Word64

/-- **The whole number fits into 64 bits with a sign.** -/
def holds (n : Int) : Bool := -(Nat.pow 2 63 : Int) ≤ n && n < (Nat.pow 2 63 : Int)

end QuerySieve.Word64
