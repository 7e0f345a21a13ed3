import QuerySieve.Text.Blank
import QuerySieve.Text.Digit

/-!
# Text/Integer — whole numbers as people write them

`readInteger?` is generous: blanks may stand around the number, a sign before it, the digits may be
those of any script, and single underscores may group them. A number of more than `maxDigits` digits
is refused, here as wherever a whole number is read from text.
-/

namespace QuerySieve.Text

/-- The most digits that a number read from text may have. -/
def maxDigits : Nat := 4300

/-- The digits without single underscores between them; nothing if an underscore stands elsewhere. -/
def joinDigitGroups? : List Char → Option (List Char)
  | [] => some []
  | ['_'] => none
  | '_' :: '_' :: _ => none
  | '_' :: cs => joinDigitGroups? cs
  | c :: cs => (joinDigitGroups? cs).map (c :: ·)

/-- The number that digits of any script write, the first of them a digit. -/
def readDigits? (cs : List Char) : Option Nat :=
  match cs with
  | [] => none
  | '_' :: _ => none
  | _ => do
    let digits ← joinDigitGroups? cs
    if digits.length ≤ maxDigits then ofDigits? 10 digitValue? digits else none

/-- **The whole number that a text writes.** -/
def readInteger? (text : String) : Option Int :=
  match trimOf isNumberBlank text.toList with
  | '+' :: cs => (readDigits? cs).map Int.ofNat
  | '-' :: cs => (readDigits? cs).map fun n => -(n : Int)
  | cs => (readDigits? cs).map Int.ofNat

end QuerySieve.Text
