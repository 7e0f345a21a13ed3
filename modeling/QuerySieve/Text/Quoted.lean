import QuerySieve.Text.PrintableTables

/-!
# Text/Quoted — a text between quotes, every character visible

Used where a message shows a value as it was given. The quote is the single one unless the text holds
single quotes and no double ones; the backslash, the quote itself and every hidden character are
escaped — line end, tab and carriage return by name, the others by number.
-/

namespace QuerySieve.Text

/-- The character is shown as itself. -/
def isShown (c : Char) : Bool :=
  if c.toNat < 0x7F then 0x20 ≤ c.toNat else !inRanges hiddenRanges c

/-- The number in hexadecimal with at least `width` digits. -/
def hexadecimal (width n : Nat) : List Char :=
  let digits := Nat.toDigits 16 n
  List.replicate (width - digits.length) '0' ++ digits

/-- The character by its number, in as few digits as its size allows: two, four or eight. -/
def escapedByNumber (c : Char) : List Char :=
  let n := c.toNat
  if n < 0x100 then '\\' :: 'x' :: hexadecimal 2 n
  else if n < 0x10000 then '\\' :: 'u' :: hexadecimal 4 n
  else '\\' :: 'U' :: hexadecimal 8 n

/-- A character inside a text that stands between the quotes `q`. -/
def quotedChar (q c : Char) : List Char :=
  if c = q || c = '\\' then ['\\', c]
  else if c = '\n' then ['\\', 'n']
  else if c = '\r' then ['\\', 'r']
  else if c = '\t' then ['\\', 't']
  else if isShown c then [c]
  else escapedByNumber c

/-- The quote that a text is put in. -/
def quoteFor (s : String) : Char := if s.contains '\'' && !s.contains '"' then '"' else '\''

/-- **The text between quotes.** -/
def quoted (s : String) : String :=
  let q := quoteFor s
  String.ofList (q :: s.toList.flatMap (quotedChar q) ++ [q])

/-- **Bytes between quotes**: those of plain characters as these, the others by number. -/
def quotedBytes (content : List UInt8) : String :=
  let cs := content.map fun b => Char.ofNat b.toNat
  let q := quoteFor (String.ofList cs)
  let byte (c : Char) : List Char := if c.toNat < 0x7F then quotedChar q c else escapedByNumber c
  String.ofList ('b' :: q :: cs.flatMap byte ++ [q])

end QuerySieve.Text
