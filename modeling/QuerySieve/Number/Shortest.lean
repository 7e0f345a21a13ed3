import QuerySieve.Number.Binary64

/-!
# Number/Shortest — the fewest digits that read back

The text of a floating-point number has as few significant digits as still read back as that number,
and of those the nearest. Every decimal between the midpoints to its two neighbours reads back as the
number. For one digit, two digits and so on up to seventeen, the two decimals of that length next to
the number are tried against those midpoints; the first length with a hit wins.
-/

namespace QuerySieve.Binary64

/-- The decimals that read back as a number lie between `lower / unit` and `upper / unit`; the ends
belong to them if `closed`. The number itself is `value / unit`. -/
structure Basin where
  value : Nat
  lower : Nat
  upper : Nat
  unit : Nat
  closed : Bool

/-- The basin of `m · 2 ^ q` with `m` above zero. Below a power of two the neighbour is only half as
far away, unless the format has no finer exponent. -/
def Basin.of (m : Nat) (q : Int) : Basin :=
  let (a, b) := ratio 1 (q - 2)
  let below := if m = Nat.pow 2 52 && leastExponent < q then 1 else 2
  ⟨4 * m * a, (4 * m - below) * a, (4 * m + 2) * a, b, m % 2 == 0⟩

/-- The decimal `d · 10 ^ e` lies in the basin. -/
def Basin.holds (basin : Basin) (d : Nat) (e : Int) : Bool :=
  let (a, b) := if 0 ≤ e then (d * Nat.pow 10 e.toNat, 1) else (d, Nat.pow 10 (-e).toNat)
  let x := a * basin.unit
  if basin.closed then basin.lower * b ≤ x && x ≤ basin.upper * b
  else basin.lower * b < x && x < basin.upper * b

/-- The whole number of steps of `10 ^ e` below the number, and twice what is left of a step, in
relation to the step. -/
def Basin.below (basin : Basin) (e : Int) : Nat × Ordering :=
  let (n, d) := if 0 ≤ e then (basin.value, basin.unit * Nat.pow 10 e.toNat)
    else (basin.value * Nat.pow 10 (-e).toNat, basin.unit)
  (n / d, compare (2 * (n % d)) d)

/-- The decimal on the grid of `10 ^ e` that lies in the basin, the nearer of two. -/
def Basin.onGrid? (basin : Basin) (e : Int) : Option Nat :=
  let (d, half) := basin.below e
  match basin.holds d e, basin.holds (d + 1) e with
  | true, true => some (match half with | .lt => d | .gt => d + 1 | .eq => d + d % 2)
  | true, false => some d
  | false, true => some (d + 1)
  | false, false => none

/-- The place of the first digit: the greatest `p` with `10 ^ p` not above the number, found from a
guess by going up at most `fuel` times. -/
def Basin.leading (basin : Basin) : Nat → Int → Int
  | 0, p => p
  | fuel + 1, p =>
    if (basin.below (p + 1)).1 = 0 then p else basin.leading fuel (p + 1)

/-- The first hit among the grids that give `length` digits, one more, and so on, seventeen at the
most. -/
def Basin.search (basin : Basin) (place : Int) : Nat → Nat → Nat × Int
  | 0, length => ((basin.below (place - length + 1)).1, place - length + 1)
  | fuel + 1, length =>
    let e := place - length + 1
    match basin.onGrid? e with
    | some d => (d, e)
    | none => basin.search place fuel (length + 1)

/-- **The shortest decimal `d · 10 ^ e` that reads back as `m · 2 ^ q`.** -/
def shortest (m : Nat) (q : Int) : Nat × Int :=
  let basin := Basin.of m q
  let guess := ((Nat.log2 m : Int) + q) * 30103 / 100000 - 2
  basin.search (basin.leading 6 guess) 17 1

/-- The digits without the zeros at their end, and how many those were. -/
def withoutZeros (cs : List Char) : List Char × Nat :=
  let rest := cs.reverse.dropWhile (· == '0')
  (rest.reverse, cs.length - rest.length)

/-- How a number is written: with a point in its place for exponents in this range, in powers of ten
otherwise. -/
structure DecimalStyle where
  leastPositional : Int
  mostPositional : Int
  exponentDigits : Nat

/-- Numbers from a ten-thousandth up to ten to the sixteenth have their point in its place; an exponent
has a sign and at least two digits. -/
def plainStyle : DecimalStyle := ⟨-4, 15, 2⟩

/-- The digits with a point after the first `places` of them, and a zero on a side that is empty. -/
def withPoint (digits : List Char) (places : Int) : List Char :=
  if places ≤ 0 then '0' :: '.' :: List.replicate (-places).toNat '0' ++ digits
  else if digits.length ≤ places.toNat then
    digits ++ List.replicate (places.toNat - digits.length) '0' ++ ['.', '0']
  else digits.take places.toNat ++ '.' :: digits.drop places.toNat

/-- The exponent with its sign and at least `width` digits. -/
def exponentText (width : Nat) (e : Int) : List Char :=
  let digits := Nat.toDigits 10 e.natAbs
  (if e < 0 then '-' else '+') :: List.replicate (width - digits.length) '0' ++ digits

/-- The text of `m · 2 ^ q`. -/
def textOf (style : DecimalStyle) (m : Nat) (q : Int) : List Char :=
  if m = 0 then ['0', '.', '0']
  else
    let (d, e) := shortest m q
    let (digits, zeros) := withoutZeros (Nat.toDigits 10 d)
    let place := e + zeros + digits.length - 1
    if style.leastPositional ≤ place ∧ place ≤ style.mostPositional then
      withPoint digits (place + 1)
    else
      let mantissa := match digits with
        | [c] => [c]
        | c :: cs => c :: '.' :: cs
        | [] => []
      mantissa ++ 'e' :: exponentText style.exponentDigits place

/-- **The text of a floating-point number.** -/
def text : Binary64 → String
  | .finite negative m q =>
    String.ofList ((if negative then ['-'] else []) ++ textOf plainStyle m q)
  | .infinite negative => if negative then "-inf" else "inf"
  | .nan => "nan"

end QuerySieve.Binary64
