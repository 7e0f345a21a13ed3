import QuerySieve.Data.Basic
import QuerySieve.Moment.Notation
import QuerySieve.Number.Decimal
import QuerySieve.Text.Base64
import QuerySieve.Text.Case
import QuerySieve.Text.Integer
import QuerySieve.Text.Substring
import QuerySieve.Yaml.Cursor

/-!
# Yaml/Scalar — what a text stands for when it is not quoted

`Kind.of` tells from its form what a plain text stands for: nothing, a truth value, a number, a moment,
or just itself. Numbers may be written in base two, eight, ten, sixteen, or sixty with colons, and
underscores may stand between digits; a floating-point number always has a point. `Kind.value` gives
the value, and a fault where there is no such value, or where a text has not the form of its kind.
-/

namespace QuerySieve.Yaml

/-- What a text stands for. -/
inductive Kind where
  | null
  | bool
  | int
  | float
  | moment
  | text
  /-- Bytes in base 64. No text has the form of this kind. -/
  | binary
  /-- As a key it says that the fields of other records belong here. -/
  | merge
  /-- As a key it is just itself; as a value it stands for nothing that there is. -/
  | equals
  deriving DecidableEq, Repr

namespace Kind

/-! ## Forms -/

/-- The words for the truth values. -/
def truthWords : List (String × Bool) := [("yes", true), ("true", true), ("on", true), ("no", false),
  ("false", false), ("off", false)]

/-- The word in small letters, with a capital, and in capitals. -/
def spellings (word : String) : List String := [word, word.capitalize, word.toUpper]

/-- The words for nothing. -/
def nullWords : List String := ["", "~"] ++ spellings "null"

/-- The text without its sign. -/
def unsigned : List Char → List Char
  | '+' :: cs => cs
  | '-' :: cs => cs
  | cs => cs

/-- The text has a minus sign. -/
def isNegative : List Char → Bool
  | '-' :: _ => true
  | _ => false

/-- A digit or an underscore. -/
def isDigitPlace (c : Char) : Bool := c.isDigit || c == '_'

/-- A digit, and then digits and underscores. -/
def isDigits : List Char → Bool
  | [] => false
  | c :: cs => c.isDigit && cs.all isDigitPlace

/-- One or two digits that write a number below sixty. -/
def isSixtieth : List Char → Bool
  | [c] => c.isDigit
  | [c, d] => '0' ≤ c && c ≤ '5' && d.isDigit
  | _ => false

/-- Digits, and after colons at least one number below sixty. -/
def isSixties (leading : List Char → Bool) (cs : List Char) : Bool :=
  match Text.splitOn ':' cs with
  | first :: more => leading first && !more.isEmpty && more.all isSixtieth
  | [] => false

/-- The form of a whole number without its sign. -/
def isIntForm : List Char → Bool
  | '0' :: 'b' :: cs => !cs.isEmpty && cs.all fun c => c == '0' || c == '1' || c == '_'
  | '0' :: 'x' :: cs => !cs.isEmpty && cs.all fun c => (Text.hexDigit? c).isSome || c == '_'
  | '0' :: cs => cs.all fun c => ('0' ≤ c && c ≤ '7') || c == '_'
  | cs => isDigits cs || isSixties isDigits cs

/-- The form of an exponent, or nothing. -/
def isExponent : List Char → Bool
  | [] => true
  | e :: sign :: cs =>
    (e == 'e' || e == 'E') && (sign == '+' || sign == '-') && !cs.isEmpty && cs.all Char.isDigit
  | _ => false

/-- Digits, a point, and perhaps more digits and an exponent. -/
def isPointForm (cs : List Char) : Bool :=
  let whole := cs.takeWhile isDigitPlace
  isDigits whole &&
    match cs.drop whole.length with
    | '.' :: rest => isExponent (rest.dropWhile isDigitPlace)
    | _ => false

/-- A point and then digits, perhaps with an exponent. -/
def isFractionForm : List Char → Bool
  | '.' :: cs => isDigits (cs.takeWhile isDigitPlace) && isExponent (cs.dropWhile isDigitPlace)
  | _ => false

/-- Numbers in base sixty, a point, and perhaps digits. -/
def isSixtiesPointForm (cs : List Char) : Bool :=
  let whole := cs.takeWhile (· != '.')
  isSixties isDigits whole &&
    match cs.drop whole.length with
    | '.' :: rest => rest.all isDigitPlace
    | _ => false

/-- The form of a floating-point number. A number that begins with the point has no sign. -/
def isFloatForm (cs : List Char) : Bool :=
  let u := unsigned cs
  isPointForm u || isFractionForm cs || isSixtiesPointForm u ||
    [".inf", ".Inf", ".INF"].contains (String.ofList u) ||
    [".nan", ".NaN", ".NAN"].contains (String.ofList cs)

/-- One or two digits, and what follows. -/
def shortNumber? (cs : List Char) : Option (Nat × List Char) :=
  let digits := (cs.take 2).takeWhile Char.isDigit
  if digits.isEmpty then none
  else (Text.ofDigits? 10 Text.plainDigit? digits).map fun n => (n, cs.drop digits.length)

/-- The rest after a character that must stand here. -/
def expect? (ch : Char) : List Char → Option (List Char)
  | c :: cs => if c = ch then some cs else none
  | [] => none

/-- Blanks within a line. -/
def isGap (c : Char) : Bool := c == ' ' || c == '\t'

/-- The distance from universal time at the end of a moment, if it is given. -/
def readZone? (cs : List Char) : Option (Option Int) :=
  match cs.dropWhile isGap with
  | [] => if cs.isEmpty then some none else none
  | ['Z'] => some (some 0)
  | sign :: rest => do
    if sign != '+' && sign != '-' then none
    else
      let (hours, rest) ← shortNumber? rest
      let minutes ← match rest with
        | [] => some 0
        | _ => do
          let rest ← expect? ':' rest
          let (minutes, rest') ← Moment.twoDigits? rest
          if rest'.isEmpty then some minutes else none
      let distance : Int := 60 * hours + minutes
      some (some (if sign = '-' then -distance else distance))

/-- **The parts of a moment**, whether or not there is such a moment: a date, or a date and a time of
day. Months, days and hours may have one digit. -/
def readMoment? (cs : List Char) : Option Moment := do
  let (century, cs) ← Moment.twoDigits? cs
  let (year, cs) ← Moment.twoDigits? cs
  let (month, cs) ← shortNumber? (← expect? '-' cs)
  let (day, cs) ← shortNumber? (← expect? '-' cs)
  let year := 100 * century + year
  match cs with
  | [] => some (Moment.midnight year month day)
  | c :: rest =>
    let time ← if c = 'T' ∨ c = 't' then some rest
      else if isGap c then some (rest.dropWhile isGap) else none
    let (hour, cs) ← shortNumber? time
    let (minute, cs) ← Moment.twoDigits? (← expect? ':' cs)
    let (second, cs) ← Moment.twoDigits? (← expect? ':' cs)
    let (micro, cs) := match cs with
      | '.' :: rest =>
        (Moment.millionthsOf (rest.takeWhile Char.isDigit), rest.dropWhile Char.isDigit)
      | cs => (0, cs)
    let offset ← readZone? cs
    some ⟨year, month, day, hour, minute, second, micro, offset⟩

/-- The text has nothing but what a date is written with. -/
def isDateForm (cs : List Char) : Bool := cs.all fun c => c.isDigit || c == '-'

/-- The form of a moment. A date alone must have all its digits. -/
def isMomentForm (cs : List Char) : Bool :=
  (readMoment? cs).isSome && (cs.length == 10 || !isDateForm cs)

/-- The text without a line end behind it, which is not looked at where a form is recognised. -/
def withoutLineEnd (cs : List Char) : List Char :=
  if 1 < cs.length ∧ cs.getLast? = some '\n' then cs.dropLast else cs

/-- **What a plain text stands for.** -/
def of (text : String) : Kind :=
  let cs := withoutLineEnd text.toList
  let s := String.ofList cs
  if truthWords.any fun entry => (spellings entry.1).contains s then .bool
  else if isFloatForm cs then .float
  else if isIntForm (unsigned cs) then .int
  else if s = "<<" then .merge
  else if nullWords.contains s then .null
  else if isMomentForm cs then .moment
  else if s = "=" then .equals
  else .text

/-! ## Values -/

/-- The value of a digit in a base of at most sixteen. -/
def digitValue? (c : Char) : Option Nat := (Text.digitValue? c).or (Text.hexDigit? c)

/-- The number in a base. Blanks may stand around it, a sign before it, and the mark of the base behind
a zero. -/
def numberIn (base : Nat) (mark : Char) (cs : List Char) : Except Fault Int :=
  let (negative, cs) := Binary64.readSign (Text.trimOf Text.isNumberBlank cs)
  let digits := match cs with
    | '0' :: c :: rest => if c.toLower = mark then rest else cs
    | _ => cs
  match Text.ofDigits? base digitValue? digits with
  | some n =>
    if digits.isEmpty then .error .noSuchValue else .ok (if negative then -(n : Int) else n)
  | none => .error .noSuchValue

/-- A whole number in the usual base. -/
def wholeNumber (cs : List Char) : Except Fault Int :=
  match Text.readInteger? (String.ofList cs) with
  | some n => .ok n
  | none => .error .noSuchValue

/-- The number that is given in base sixty. -/
def inSixties (parts : List Int) : Int := parts.foldl (fun n part => 60 * n + part) 0

/-- The whole number that a text writes. -/
def intValue (s : String) : Except Fault Int := do
  let cs := s.toList.filter (· != '_')
  let size ← match unsigned cs with
    | [] => .error .noDigits
    | ['0'] => .ok 0
    | '0' :: 'b' :: cs => numberIn 2 'b' cs
    | '0' :: 'x' :: cs => numberIn 16 'x' cs
    | '0' :: cs => numberIn 8 'o' ('0' :: cs)
    | cs =>
      if cs.contains ':' then inSixties <$> (Text.splitOn ':' cs).mapM wholeNumber
      else wholeNumber cs
  .ok (if isNegative cs then -size else size)

/-- The character, or the plain digit of the same value. -/
def plainForm (c : Char) : Char :=
  match Text.digitValue? c with
  | some d => Char.ofNat (0x30 + d)
  | none => c

/-- A floating-point number in the usual base, or a word for one. -/
def decimalNumber (cs : List Char) : Except Fault Binary64 :=
  let (negative, cs) := Binary64.readSign ((Text.trimOf Text.isNumberBlank cs).map plainForm)
  if cs = "inf".toList ∨ cs = "infinity".toList then .ok (.infinite negative)
  else if cs = "nan".toList then .ok .nan
  else
    match Binary64.readDecimal? negative cs with
    | some x => .ok x
    | none => .error .noSuchValue

/-- The floating-point number that is given in base sixty: from the last part on, each is added with
its weight. -/
def sixtiesSum (parts : List Binary64) : Binary64 :=
  (parts.reverse.foldl (fun (sum, weight) part => (Binary64.plus sum (part.times weight), 60 * weight))
    (Binary64.zero false, 1)).1

/-- The floating-point number that a text writes. -/
def floatValue (s : String) : Except Fault Binary64 := do
  let cs := (Text.lowerString s).toList.filter (· != '_')
  let u := unsigned cs
  if cs.isEmpty then .error .noDigits
  else if u = ".nan".toList then .ok .nan
  else
    let size ← if u = ".inf".toList then .ok (.infinite false)
      else if u.contains ':' then sixtiesSum <$> (Text.splitOn ':' u).mapM decimalNumber
      else decimalNumber u
    .ok (if isNegative cs then size.negated else size)

/-- The bytes that a text writes in base 64. -/
def binaryValue (s : String) : Except Fault (List UInt8) :=
  if s.toList.all fun c => c.toNat < 0x80 then
    match Text.Base64.decode? s.toList with
    | some content => .ok content
    | none => .error .malformed
  else .error .malformed

/-- **The value that a text has as a text of its kind.** -/
def value (k : Kind) (s : String) : Except Fault Data :=
  match k with
  | .null => .ok .null
  | .text => .ok (.text s)
  | .bool =>
    match truthWords.lookup (Text.lowerString s) with
    | some b => .ok (.bool b)
    | none => .error .noSuchWord
  | .int => Data.int <$> intValue s
  | .float => Data.float <$> floatValue s
  | .moment =>
    let cs := withoutLineEnd s.toList
    match readMoment? cs with
    | some m =>
      if !m.isValid || m.year = 0 then .error .noSuchValue
      else if isDateForm cs then .ok (.date m.year m.month m.day)
      else .ok (.moment m)
    | none => .error .noDate
  | .binary => Data.bytes <$> binaryValue s
  | .merge => .error .malformed
  | .equals => .error .malformed

end Kind

end QuerySieve.Yaml
