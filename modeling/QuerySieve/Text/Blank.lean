/-!
# Text/Blank — the blank characters, and text without them at its ends

`isBlank` is the class that ends a keyword, and that `trim` takes off both ends of a text. It holds the
separators of lines, paragraphs and files as well as the spaces of every width, but no zero-width
character and no byte order mark. Around a written number the four separators of files, groups,
records and units do not pass for blanks.
-/

namespace QuerySieve.Text

/-- The blank characters. -/
def isBlank (c : Char) : Bool :=
  let n := c.toNat
  (0x09 ≤ n && n ≤ 0x0D) || (0x1C ≤ n && n ≤ 0x20) || n == 0x85 || n == 0xA0 || n == 0x1680
    || (0x2000 ≤ n && n ≤ 0x200A) || n == 0x2028 || n == 0x2029 || n == 0x202F || n == 0x205F
    || n == 0x3000

/-- The separators of files, groups, records and units. -/
def isSeparator (c : Char) : Bool := 0x1C ≤ c.toNat && c.toNat ≤ 0x1F

/-- The blanks that may stand around a written number. -/
def isNumberBlank (c : Char) : Bool := isBlank c && !isSeparator c

/-- The text without what a class takes off its end. -/
def trimEndOf (p : Char → Bool) (cs : List Char) : List Char := (cs.reverse.dropWhile p).reverse

/-- The text without what a class takes off its ends. -/
def trimOf (p : Char → Bool) (cs : List Char) : List Char := trimEndOf p (cs.dropWhile p)

/-- **The text without the blanks at its ends** — blanks between other characters stay. -/
def trim (cs : List Char) : List Char := trimOf isBlank cs

/-- `trim` on strings. -/
def trimString (s : String) : String := String.ofList (trim s.toList)

@[simp] theorem trim_nil : trim [] = [] := rfl

@[simp] theorem isBlank_space : isBlank ' ' = true := rfl

@[simp] theorem toList_trimString (s : String) : (trimString s).toList = trim s.toList := by
  simp [trimString]

end QuerySieve.Text
