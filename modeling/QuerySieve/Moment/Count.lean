import QuerySieve.Moment.Notation
import QuerySieve.Number.Decimal
import QuerySieve.Number.Word64

/-!
# Moment/Count — moments as counts of time

A number names the moment that lies as many seconds after the beginning of 1970, and a number of great
size as many thousandths of a second. A count with a fraction is a floating-point number: what is left
above its whole part is counted in microseconds, by arithmetic of that format. `Moment.read?` takes a
text for a moment in the international notation, and else for a count.
-/

namespace QuerySieve.Moment

open Text (plainDigit? ofDigits?)

/-- Counts of a greater size are counts of thousandths of a second. -/
def greatestSeconds : Nat := 20000000000

/-- The moment that lies some thousandths of a second, and microseconds, after the beginning of 1970. -/
def ofThousandths? (count : Int) (micros : Nat) : Option Moment :=
  ofSeconds? (Int.fdiv count 1000) ((Int.fmod count 1000).toNat * 1000 + micros)

/-- **The moment that a whole number counts.** -/
def ofCount? (n : Int) : Option Moment :=
  if n.natAbs ≤ greatestSeconds then ofSeconds? n 0 else ofThousandths? n 0

/-- **The moment that a floating-point number counts**, to the nearest microsecond. -/
def ofNumber? : Binary64 → Option Moment
  | .finite negative m q =>
    let whole := Binary64.floor negative m q
    let fraction := Binary64.aboveFloor negative m q
    if Binary64.exceeds m q greatestSeconds then ofThousandths? whole (fraction.times 1000).rounded
    else ofSeconds? whole (fraction.times 1000000).rounded
  | _ => none

/-- **The moment that a text counts.** What stands before the point must fit into 64 bits, and only a
number with a point may have an exponent. -/
def readCount? (cs : List Char) : Option Moment := do
  let (negative, cs) := Binary64.readSign cs
  let whole := cs.takeWhile Char.isDigit
  let count ← ofDigits? 10 plainDigit? whole
  if !Word64.holds count then none
  else
    match cs.drop whole.length with
    | [] => if whole.isEmpty then none else ofCount? (if negative then -(count : Int) else count)
    | '.' :: _ => (Binary64.readDecimal? negative cs).bind ofNumber?
    | _ => none

/-- **The moment that a text names.** -/
def read? (s : String) : Option Moment := readNotation? s.toList <|> readCount? s.toList

end QuerySieve.Moment
