import QuerySieve.Moment
import QuerySieve.Text.Digit

/-!
# Moment/Notation — dates and times of day as they are written

In the international notation a moment is a date and a time of day with a letter or a blank between
them; the second, its fraction and the distance from universal time may be missing. The readers take
what they need from the beginning of a text and hand on the rest.
-/

namespace QuerySieve.Moment

open Text (plainDigit? ofDigits?)

/-- Two digits and what follows them. -/
def twoDigits? : List Char → Option (Nat × List Char)
  | a :: b :: rest => do
    let a ← plainDigit? a
    let b ← plainDigit? b
    some (10 * a + b, rest)
  | _ => none

/-- Year, month and day with hyphens between them, and what follows. -/
def readDate? (cs : List Char) : Option ((Nat × Nat × Nat) × List Char) := do
  let (century, cs) ← twoDigits? cs
  let (year, cs) ← twoDigits? cs
  match cs with
  | '-' :: cs =>
    let (month, cs) ← twoDigits? cs
    match cs with
    | '-' :: cs =>
      let (day, cs) ← twoDigits? cs
      some ((100 * century + year, month, day), cs)
    | _ => none
  | _ => none

/-- The first six digits after a point as millionths, missing ones counted as zeros. -/
def millionthsOf (digits : List Char) : Nat :=
  let kept := digits.take 6
  ((ofDigits? 10 plainDigit? kept).getD 0) * Nat.pow 10 (6 - kept.length)

/-- The fraction of a second after a point or comma, at least one digit, and what follows. -/
def readFraction? : List Char → Option (Nat × List Char)
  | c :: cs =>
    if c = '.' ∨ c = ',' then
      let digits := cs.takeWhile Char.isDigit
      if digits.isEmpty then none else some (millionthsOf digits, cs.drop digits.length)
    else some (0, c :: cs)
  | [] => some (0, [])

/-- Hour, minute and, unless left out, second with its fraction; and what follows. -/
def readTime? (cs : List Char) : Option ((Nat × Nat × Nat × Nat) × List Char) := do
  let (hour, cs) ← twoDigits? cs
  match cs with
  | ':' :: cs =>
    let (minute, cs) ← twoDigits? cs
    match cs with
    | ':' :: cs =>
      let (second, cs) ← twoDigits? cs
      let (micro, cs) ← readFraction? cs
      some ((hour, minute, second, micro), cs)
    | _ => some ((hour, minute, 0, 0), cs)
  | _ => none

/-- Hours and minutes, with or without a colon between them, counted in minutes. -/
def readDistance? (cs : List Char) : Option Nat := do
  let (hours, cs) ← twoDigits? cs
  let (minutes, cs) ← twoDigits? (match cs with | ':' :: cs => cs | cs => cs)
  if cs.isEmpty && minutes < 60 then some (60 * hours + minutes) else none

/-- The offset at the end of a text: none, universal time, or hours and minutes after a sign. -/
def readOffset? : List Char → Option (Option Int)
  | [] => some none
  | ['Z'] => some (some 0)
  | ['z'] => some (some 0)
  | sign :: cs =>
    if sign = '+' then (readDistance? cs).map fun n : Nat => some (n : Int)
    else if sign = '-' ∨ sign = '−' then (readDistance? cs).map fun n : Nat => some (-(n : Int))
    else none

/-- The date and the time of day that a text writes, whether or not they exist; a bare date is its
midnight. -/
def readParts? (cs : List Char) : Option Moment := do
  let ((year, month, day), cs) ← readDate? cs
  match cs with
  | [] => some (midnight year month day)
  | c :: cs =>
    if c = 'T' ∨ c = 't' ∨ c = ' ' ∨ c = '_' then do
      let ((hour, minute, second, micro), cs) ← readTime? cs
      let offset ← readOffset? cs
      some ⟨year, month, day, hour, minute, second, micro, offset⟩
    else none

/-- **The moment that a text writes in the international notation.** -/
def readNotation? (cs : List Char) : Option Moment := (readParts? cs).filter isValid

end QuerySieve.Moment
