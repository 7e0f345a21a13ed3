import QuerySieve.Data.Show

/-!
# Json/Writer — values in the object notation

`Json.line` writes a value on one line, `Json.page` on several, a field or item on each, two spaces
further in at every level. Both keep to plain ASCII: every other character is written by number, one
beyond sixteen bits as a pair.
-/

namespace QuerySieve.Json

/-- A unit of sixteen bits by its number. -/
def unitText (n : Nat) : List Char := '\\' :: 'u' :: Text.hexadecimal 4 n

/-- A character inside quotes. -/
def charText (c : Char) : List Char :=
  let n := c.toNat
  if c = '"' then ['\\', '"']
  else if c = '\\' then ['\\', '\\']
  else if c = '\n' then ['\\', 'n']
  else if c = '\r' then ['\\', 'r']
  else if c = '\t' then ['\\', 't']
  else if c = '\x08' then ['\\', 'b']
  else if c = '\x0c' then ['\\', 'f']
  else if 0x20 ≤ n ∧ n < 0x7F then [c]
  else if n < 0x10000 then unitText n
  else unitText (0xD800 + (n - 0x10000) / 0x400) ++ unitText (0xDC00 + (n - 0x10000) % 0x400)

/-- A text in quotes. -/
def textOf (s : String) : String := String.ofList ('"' :: s.toList.flatMap charText ++ ['"'])

/-- A number. -/
def numberText : Binary64 → String
  | .infinite negative => if negative then "-Infinity" else "Infinity"
  | .nan => "NaN"
  | x => x.text

/-- A key as a text. -/
def keyText : Key → String
  | .name s => textOf s
  | key => textOf key.shown

/-- What stands between brackets on a page: each part on a line of its own, `depth` levels in. -/
def block (opening closing : String) (depth : Nat) (parts : List String) : String :=
  if parts.isEmpty then opening ++ closing
  else
    let inner := "\n" ++ String.ofList (List.replicate (2 * (depth + 1)) ' ')
    let outer := "\n" ++ String.ofList (List.replicate (2 * depth) ' ')
    opening ++ inner ++ String.intercalate ("," ++ inner) parts ++ outer ++ closing

mutual

/-- The value on one line. -/
def line : Data → String
  | .null => "null"
  | .bool b => if b then "true" else "false"
  | .int n => toString n
  | .float x => numberText x
  | .text s => textOf s
  | .date year month day => textOf (Moment.dateText year month day)
  | .moment m => textOf m.text
  | .bytes content => textOf (Key.bytes content).shown
  | .list items => "[" ++ String.intercalate ", " (lineItems items) ++ "]"
  | .record fields => "\x7b" ++ String.intercalate ", " (lineFields fields) ++ "\x7d"

/-- The items of a list on one line. -/
def lineItems : List Data → List String
  | [] => []
  | item :: items => line item :: lineItems items

/-- The fields of a record on one line. -/
def lineFields : List (Key × Data) → List String
  | [] => []
  | (key, value) :: fields => (keyText key ++ ": " ++ line value) :: lineFields fields

end

mutual

/-- The value on a page, `depth` levels in. -/
def pageAt (depth : Nat) : Data → String
  | .list items => block "[" "]" depth (pageItems (depth + 1) items)
  | .record fields => block "\x7b" "\x7d" depth (pageFields (depth + 1) fields)
  | d => line d

/-- The items of a list on a page. -/
def pageItems (depth : Nat) : List Data → List String
  | [] => []
  | item :: items => pageAt depth item :: pageItems depth items

/-- The fields of a record on a page. -/
def pageFields (depth : Nat) : List (Key × Data) → List String
  | [] => []
  | (key, value) :: fields => (keyText key ++ ": " ++ pageAt depth value) :: pageFields depth fields

end

/-- **The value on a page.** -/
def page (d : Data) : String := pageAt 0 d

end QuerySieve.Json
