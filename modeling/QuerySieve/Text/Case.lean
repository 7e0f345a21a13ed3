import QuerySieve.Text.CaseTables

/-!
# Text/Case — the small form of a text

`lower` writes every character in its small form. All but two characters are mapped by themselves:
the capital I with a dot becomes an i and a combining dot, and the capital sigma becomes a final
sigma where it ends a word and an ordinary one elsewhere. So the small form of a text is not put
together from the small forms of its characters, and `lowerFrom` carries along whether a letter has
been seen just before.
-/

namespace QuerySieve.Text

/-- The character has case, and is looked at when a neighbour is looked for. -/
def isCased (c : Char) : Bool :=
  if c.toNat < 0x80 then c.isAlpha else inRanges casedRanges c

/-- The character is passed over when a neighbour is looked for. -/
def isIgnorable (c : Char) : Bool :=
  if c.toNat < 0x80 then c == '\'' || c == '.' || c == ':' || c == '^' || c.toNat == 0x60
  else inRanges ignorableRanges c

/-- The small form of a character that has one of one character; the character itself otherwise. -/
def lowerChar (c : Char) : Char :=
  if c.toNat < 0x80 then c.toLower
  else match smallForms.find? (·.covers c.toNat) with
    | some run => Char.ofNat ((c.toNat : Int) + run.shift).toNat
    | none => c

/-- Whether the next character that is not passed over has case. -/
def startsCased : List Char → Bool
  | [] => false
  | c :: cs => if isIgnorable c then startsCased cs else isCased c

/-- The small form of a character after `seen` — a letter stands before it — and before `rest`. -/
def lowerAt (seen : Bool) (c : Char) (rest : List Char) : List Char :=
  if c = 'Σ' then [if seen && !startsCased rest then 'ς' else 'σ']
  else if c = 'İ' then ['i', '\u0307']
  else [lowerChar c]

/-- Whether a letter stands before the next character once `c` has been read. -/
def seenAfter (seen : Bool) (c : Char) : Bool := if isIgnorable c then seen else isCased c

/-- The small form of a text that comes after `seen`. -/
def lowerFrom : Bool → List Char → List Char
  | _, [] => []
  | seen, c :: cs => lowerAt seen c cs ++ lowerFrom (seenAfter seen c) cs

/-- **The small form of a text.** -/
def lower (cs : List Char) : List Char := lowerFrom false cs

/-- `lower` on strings. -/
def lowerString (s : String) : String := String.ofList (lower s.toList)

@[simp] theorem lower_nil : lower [] = [] := rfl

theorem lowerFrom_cons (seen : Bool) (c : Char) (cs : List Char) :
    lowerFrom seen (c :: cs) = lowerAt seen c cs ++ lowerFrom (seenAfter seen c) cs := rfl

@[simp] theorem toList_lowerString (s : String) :
    (lowerString s).toList = lower s.toList := by
  simp [lowerString]

/-- The plain capital that a character has as its large form: those of the small letters, and those
of the dotless i and the long s. No other single character has one. -/
def plainCapital? (c : Char) : Option Char :=
  if c.isUpper then some c
  else if c.isLower then some c.toUpper
  else if c = 'ı' then some 'I'
  else if c = 'ſ' then some 'S'
  else none

/-- **The text is the given word of plain capitals, but for case.** The characters with a large form
of several letters — the sharp s, the ligatures — spell out two capitals at once; the words that are
looked for here hold none of their pairs. -/
def spells (word text : String) : Bool := text.toList.map plainCapital? == word.toList.map some

end QuerySieve.Text
