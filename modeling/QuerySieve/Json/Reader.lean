import QuerySieve.Data.Basic
import QuerySieve.Text.Digit
import QuerySieve.Text.Integer

/-!
# Json/Reader — values written in the object notation

`Json.read` reads exactly one value with blanks around it. Beyond the standard it accepts the words
`NaN`, `Infinity` and `-Infinity` for numbers. A number with a fraction or an exponent is a floating-
point number, any other a whole number, which may have `Text.maxDigits` digits at most. Of fields
with one name the last counts.

The reader goes through the text once; `fuel` bounds its steps and is the length of the text, and `room`
bounds the nesting.

A text has only characters. Half of a pair of units that stands alone has none, and is read as the
replacement character, so two texts that differ in such halves only are not told apart here.
-/

namespace QuerySieve.Json

/-- Why a text is not read. -/
inductive Fault where
  /-- The text is not one value in the notation. -/
  | malformed
  /-- A whole number has too many digits. -/
  | tooLong
  /-- Lists and records lie too deep inside one another. -/
  | tooDeep
  deriving DecidableEq, Repr

/-- The blanks of the notation. -/
def isSpace (c : Char) : Bool := c == ' ' || c == '\t' || c == '\n' || c == '\r'

/-- The text without the blanks at its beginning. -/
def skipSpace (cs : List Char) : List Char := cs.dropWhile isSpace

/-- Four hexadecimal digits and what follows. -/
def readUnit? : List Char → Option (Nat × List Char)
  | a :: b :: c :: d :: rest => do
    let n ← Text.ofDigits? 16 Text.hexDigit? [a, b, c, d]
    some (n, rest)
  | _ => none

/-- The character that two units of sixteen bits stand for together. -/
def paired (high low : Nat) : Char := Char.ofNat (0x10000 + (high - 0xD800) * 0x400 + (low - 0xDC00))

/-- The character that one unit stands for. Half of a pair alone stands for none, and is taken for the
replacement character. -/
def single (unit : Nat) : Char := if 0xD800 ≤ unit ∧ unit < 0xE000 then '\uFFFD' else Char.ofNat unit

/-- A character given by number, after the letter `u`. -/
def readNumbered? (cs : List Char) : Option (Char × List Char) := do
  let (unit, rest) ← readUnit? cs
  if 0xD800 ≤ unit ∧ unit < 0xDC00 then
    match rest with
    | '\\' :: 'u' :: after =>
      match readUnit? after with
      | some (low, rest') =>
        if 0xDC00 ≤ low ∧ low < 0xE000 then some (paired unit low, rest')
        else some (single unit, rest)
      | none => none
    | _ => some (single unit, rest)
  else some (single unit, rest)

/-- The character after a backslash, but for one given by number. -/
def named? : Char → Option Char
  | '"' => some '"'
  | '\\' => some '\\'
  | '/' => some '/'
  | 'b' => some '\x08'
  | 'f' => some '\x0c'
  | 'n' => some '\n'
  | 'r' => some '\r'
  | 't' => some '\t'
  | _ => none

/-- A text after its opening quote: the characters before its closing one, and what follows. -/
def readText : Nat → List Char → Except Fault (List Char × List Char)
  | 0, _ => .error .malformed
  | _, [] => .error .malformed
  | _, '"' :: rest => .ok ([], rest)
  | fuel + 1, '\\' :: 'u' :: rest =>
    match readNumbered? rest with
    | some (c, rest) => do
      let (cs, rest) ← readText fuel rest
      .ok (c :: cs, rest)
    | none => .error .malformed
  | fuel + 1, '\\' :: c :: rest =>
    match named? c with
    | some c => do
      let (cs, rest) ← readText fuel rest
      .ok (c :: cs, rest)
    | none => .error .malformed
  | fuel + 1, c :: rest =>
    if c.toNat < 0x20 then .error .malformed
    else do
      let (cs, rest) ← readText fuel rest
      .ok (c :: cs, rest)

/-- A row of plain digits and what follows. -/
def readDigits (cs : List Char) : List Char × List Char :=
  (cs.takeWhile Char.isDigit, cs.dropWhile Char.isDigit)

/-- The digits before the point — a zero alone, or a row that starts with another digit — and what
follows. -/
def readWhole? : List Char → Option (List Char × List Char)
  | '0' :: rest => some (['0'], rest)
  | c :: rest => if c.isDigit then some (readDigits (c :: rest)) else none
  | [] => none

/-- The digits after a point, if there is a point and a digit, and what follows. -/
def readFraction (cs : List Char) : List Char × List Char :=
  match cs with
  | '.' :: rest => if (readDigits rest).1.isEmpty then ([], cs) else readDigits rest
  | _ => ([], cs)

/-- The exponent, if there is one, and what follows. -/
def readExponent? (cs : List Char) : Option (Int × List Char) :=
  match cs with
  | e :: rest =>
    if e = 'e' ∨ e = 'E' then
      let (negative, rest) := match rest with
        | '-' :: rest => (true, rest)
        | '+' :: rest => (false, rest)
        | rest => (false, rest)
      let (digits, rest) := readDigits rest
      if digits.isEmpty then none
      else
        let n := (Text.ofDigits? 10 Text.plainDigit? digits).getD 0
        some (if negative then -(n : Int) else n, rest)
    else none
  | [] => none

/-- The number that a row of plain digits writes. -/
def valueOf (digits : List Char) : Nat := (Text.ofDigits? 10 Text.plainDigit? digits).getD 0

/-- A number after its sign. -/
def readNumber (negative : Bool) (cs : List Char) : Except Fault (Data × List Char) :=
  match readWhole? cs with
  | none => .error .malformed
  | some (whole, rest) =>
    let (fraction, rest) := readFraction rest
    match readExponent? rest with
    | some (e, rest) =>
      .ok (.float (Binary64.ofDecimal negative (valueOf (whole ++ fraction)) (e - fraction.length)), rest)
    | none =>
      if fraction.isEmpty then
        if Text.maxDigits < whole.length then .error .tooLong
        else .ok (.int (if negative then -(valueOf whole : Int) else valueOf whole), rest)
      else
        .ok (.float (Binary64.ofDecimal negative (valueOf (whole ++ fraction)) (-fraction.length)), rest)

/-- The words of the notation and what they stand for. -/
def words : List (List Char × Data) :=
  [("null".toList, .null), ("true".toList, .bool true), ("false".toList, .bool false),
    ("NaN".toList, .float .nan), ("Infinity".toList, .float (.infinite false)),
    ("-Infinity".toList, .float (.infinite true))]

/-- A word of the notation at the beginning of a text. -/
def readWord? (cs : List Char) : Option (Data × List Char) :=
  (words.find? fun w => w.1.isPrefixOf cs).map fun w => (w.2, cs.drop w.1.length)

/-- What follows the character, blanks before it left out. -/
def expect (c : Char) (cs : List Char) : Except Fault (List Char) :=
  match skipSpace cs with
  | d :: rest => if d = c then .ok rest else .error .malformed
  | [] => .error .malformed

mutual

/-- A value at the beginning of a text, with `room` for as many lists and records inside one another. -/
def readValue : Nat → Nat → List Char → Except Fault (Data × List Char)
  | _, 0, _ => .error .malformed
  | room, fuel + 1, cs =>
    match cs with
    | [] => .error .malformed
    | '"' :: rest => do
      let (s, rest) ← readText fuel rest
      .ok (.text (String.ofList s), rest)
    | '[' :: rest =>
      if room = 0 then .error .tooDeep
      else
        match skipSpace rest with
        | ']' :: rest => .ok (.list [], rest)
        | rest => do
          let (items, rest) ← readItems (room - 1) fuel rest
          .ok (.list items, rest)
    | '\x7b' :: rest =>
      if room = 0 then .error .tooDeep
      else
        match skipSpace rest with
        | '\x7d' :: rest => .ok (.record [], rest)
        | rest => do
          let (fields, rest) ← readFields (room - 1) fuel [] rest
          .ok (.record fields, rest)
    | c :: rest =>
      match readWord? cs with
      | some reading => .ok reading
      | none => if c = '-' then readNumber true rest else readNumber false cs

/-- The items of a list, from the first one on, and what follows the closing bracket. -/
def readItems : Nat → Nat → List Char → Except Fault (List Data × List Char)
  | _, 0, _ => .error .malformed
  | room, fuel + 1, cs => do
    let (item, rest) ← readValue room fuel cs
    match skipSpace rest with
    | ',' :: rest => do
      let (items, rest) ← readItems room fuel (skipSpace rest)
      .ok (item :: items, rest)
    | ']' :: rest => .ok ([item], rest)
    | _ => .error .malformed

/-- The fields of a record after those already read, and what follows the closing brace. -/
def readFields : Nat → Nat → Fields → List Char → Except Fault (Fields × List Char)
  | _, 0, _, _ => .error .malformed
  | room, fuel + 1, fields, cs =>
    match cs with
    | '"' :: rest => do
      let (name, rest) ← readText fuel rest
      let rest ← expect ':' rest
      let (value, rest) ← readValue room fuel (skipSpace rest)
      let fields := Fields.put fields (.name (String.ofList name)) value
      match skipSpace rest with
      | ',' :: rest => readFields room fuel fields (skipSpace rest)
      | '\x7d' :: rest => .ok (fields, rest)
      | _ => .error .malformed
    | _ => .error .malformed

end

/-- **The value that a text writes**, with room for as many lists and records inside one another. A byte
order mark is no blank, so a text that begins with one is malformed. -/
def read (room : Nat) (s : String) : Except Fault Data := do
  let cs := s.toList
  let (value, rest) ← readValue room (cs.length + 1) (skipSpace cs)
  if (skipSpace rest).isEmpty then .ok value else .error .malformed

end QuerySieve.Json
