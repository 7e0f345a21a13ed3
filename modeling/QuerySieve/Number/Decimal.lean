import QuerySieve.Number.Binary64
import QuerySieve.Text.Digit

/-!
# Number/Decimal — floating-point numbers as people write them

A decimal is a row of digits, perhaps with a point among them and a power of ten behind. It is read as
the number of the format that is nearest to it.
-/

namespace QuerySieve.Binary64

open Text (plainDigit? ofDigits?)

/-- A sign at the beginning, true for a minus, and what follows. -/
def readSign : List Char → Bool × List Char
  | '-' :: cs => (true, cs)
  | '+' :: cs => (false, cs)
  | cs => (false, cs)

/-- The power of ten that a text consists of, or none at all. -/
def readExponent? : List Char → Option Int
  | [] => some 0
  | e :: cs =>
    if e = 'e' ∨ e = 'E' then
      let (negative, digits) := readSign cs
      if digits.isEmpty then none
      else (ofDigits? 10 plainDigit? digits).map fun n => if negative then -(n : Int) else n
    else none

/-- A point and the digits after it, and what follows. -/
def readFraction : List Char → List Char × List Char
  | '.' :: cs => (cs.takeWhile Char.isDigit, cs.dropWhile Char.isDigit)
  | cs => ([], cs)

/-- **The number that a text without a sign writes.** There must be a digit before the power of ten. -/
def readDecimal? (negative : Bool) (cs : List Char) : Option Binary64 := do
  let whole := cs.takeWhile Char.isDigit
  let (fraction, rest) := readFraction (cs.dropWhile Char.isDigit)
  let exponent ← readExponent? rest
  if whole.isEmpty && fraction.isEmpty then none
  else
    let digits ← ofDigits? 10 plainDigit? (whole ++ fraction)
    some (ofDecimal negative digits (exponent - fraction.length))

end QuerySieve.Binary64
