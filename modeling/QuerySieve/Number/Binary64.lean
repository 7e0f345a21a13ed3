/-!
# Number/Binary64 — floating-point numbers of 64 bits, by value

A number is kept as sign, mantissa and exponent, so that reading a decimal, cutting off a fraction and
comparing are exact arithmetic on whole numbers. `ofRatio` rounds a positive fraction to the nearest
number of the format, a tie to the even mantissa.
-/

namespace QuerySieve

/-- A floating-point number: `± mantissa · 2 ^ exponent`, an infinity, or no number. In a finite one
the mantissa has at most 53 bits, and fewer only at the least exponent. -/
inductive Binary64 where
  | finite (negative : Bool) (mantissa : Nat) (exponent : Int)
  | infinite (negative : Bool)
  | nan
  deriving DecidableEq, Repr, Inhabited

namespace Binary64

/-- The bits of a mantissa. -/
def precision : Nat := 53

/-- The exponent of the least number above zero. -/
def leastExponent : Int := -1074

/-- The exponent of the greatest numbers. -/
def greatestExponent : Int := 971

/-- Zero with the given sign. -/
def zero (negative : Bool) : Binary64 := .finite negative 0 leastExponent

/-- The quotient rounded to the nearest whole number, a tie to the even one. -/
def roundQuotient (n d : Nat) : Nat :=
  let q := n / d
  let r := n % d
  if 2 * r < d then q else if d < 2 * r then q + 1 else q + q % 2

/-- The fraction `n / d` divided by `2 ^ q`, as numerator and denominator. -/
def scaled (n d : Nat) (q : Int) : Nat × Nat :=
  if 0 ≤ q then (n, d * Nat.pow 2 q.toNat) else (n * Nat.pow 2 (-q).toNat, d)

/-- The exponent that gives `n / d` a mantissa of full length, but no less than the least one. -/
def exponentOf (n d : Nat) : Int :=
  let q := (Nat.log2 n : Int) - Nat.log2 d - 52
  let (n', d') := scaled n d q
  max leastExponent (if n' < Nat.pow 2 52 * d' then q - 1 else q)

/-- **The number of the format that is nearest to `n / d`.** -/
def ofRatio (negative : Bool) (n d : Nat) : Binary64 :=
  if n = 0 then zero negative
  else
    let q := exponentOf n d
    let (n', d') := scaled n d q
    let m := roundQuotient n' d'
    let (m, q) := if m = Nat.pow 2 precision then (Nat.pow 2 52, q + 1) else (m, q)
    if greatestExponent < q then .infinite negative else .finite negative m q

/-- **The number of the format that is nearest to `digits · 10 ^ exponent`.** A number with too many
places before or after the point to matter is told by its size alone. -/
def ofDecimal (negative : Bool) (digits : Nat) (exponent : Int) : Binary64 :=
  if digits = 0 then zero negative
  else
    let places := (Nat.toDigits 10 digits).length + exponent
    if 400 < places then .infinite negative
    else if places < -400 then zero negative
    else if 0 ≤ exponent then ofRatio negative (digits * Nat.pow 10 exponent.toNat) 1
    else ofRatio negative digits (Nat.pow 10 (-exponent).toNat)

/-- The number is zero, of either sign. -/
def isZero : Binary64 → Bool
  | .finite _ m _ => m == 0
  | _ => false

/-- The size of a finite number as a fraction. -/
def ratio (m : Nat) (q : Int) : Nat × Nat :=
  if 0 ≤ q then (m * Nat.pow 2 q.toNat, 1) else (m, Nat.pow 2 (-q).toNat)

/-- A finite number as a fraction with its sign. -/
def signedRatio (negative : Bool) (m : Nat) (q : Int) : Int × Nat :=
  let (a, b) := ratio m q
  (if negative then -(a : Int) else a, b)

/-- The number is exactly the whole number. -/
def isInt (x : Binary64) (n : Int) : Bool :=
  match x with
  | .finite negative m q =>
    let (a, b) := signedRatio negative m q
    a == n * b
  | _ => false

/-- The whole number next to a finite number on the side of zero. -/
def truncate (negative : Bool) (m : Nat) (q : Int) : Int :=
  let (a, b) := ratio m q
  if negative then -((a / b : Nat) : Int) else (a / b : Nat)

/-- The size of a finite number is greater than a whole number. -/
def exceeds (m : Nat) (q : Int) (n : Nat) : Bool :=
  let (a, b) := ratio m q
  n * b < a

/-- The greatest whole number that is not above a finite number. -/
def floor (negative : Bool) (m : Nat) (q : Int) : Int :=
  let (a, b) := signedRatio negative m q
  Int.fdiv a b

/-- **What a finite number has above the greatest whole number that is not above it**, rounded to the
format. -/
def aboveFloor (negative : Bool) (m : Nat) (q : Int) : Binary64 :=
  let (a, b) := signedRatio negative m q
  ofRatio false (Int.fmod a b).toNat b

/-- The number of the format that is nearest to a whole number. -/
def ofInt (n : Int) : Binary64 := ofRatio (n < 0) n.natAbs 1

/-- The product with a whole number, rounded to the format. -/
def times : Binary64 → Nat → Binary64
  | .finite negative m q, k =>
    let (a, b) := ratio m q
    ofRatio negative (a * k) b
  | x, _ => x

/-- The number with the other sign. -/
def negated : Binary64 → Binary64
  | .finite negative m q => .finite (!negative) m q
  | .infinite negative => .infinite (!negative)
  | .nan => .nan

/-- **The sum**, rounded to the format. Only two zeros below zero make another one. -/
def plus (x y : Binary64) : Binary64 :=
  match x, y with
  | .finite s m q, .finite s' m' q' =>
    let (a, b) := signedRatio s m q
    let (a', b') := signedRatio s' m' q'
    let sum := a * b' + a' * b
    if sum = 0 then zero (s && s') else ofRatio (sum < 0) sum.natAbs (b * b')
  | .infinite s, .infinite s' => if s = s' then .infinite s else .nan
  | .nan, _ => .nan
  | _, .nan => .nan
  | .infinite s, _ => .infinite s
  | _, .infinite s => .infinite s

/-- The whole number next to the size of a number, a half counted as one; zero if there is none. -/
def rounded : Binary64 → Nat
  | .finite _ m q =>
    let (a, b) := ratio m q
    (2 * a + b) / (2 * b)
  | _ => 0

end Binary64

end QuerySieve
