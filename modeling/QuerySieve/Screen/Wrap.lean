import QuerySieve.Screen.WidthTables
import QuerySieve.Text.Blank
import QuerySieve.Text.Substring

/-!
# Screen/Wrap — lines that fit into a number of columns

A line that is too long is broken between words, each word keeping the blanks behind it. A word that is
too long for any line is broken as well, or else stands on a line of its own and is cut off; `LongWords`
tells which. Blanks that stick out at the end of a line are dropped.
-/

namespace QuerySieve.Screen

/-! ## Widths -/

/-- How many columns a character takes up. -/
def charWidth (c : Char) : Nat :=
  if 0x20 ≤ c.toNat ∧ c.toNat < 0x7F then 1
  else if Text.inRanges narrowRanges c then 0
  else if Text.inRanges broadRanges c then 2
  else 1

/-- How many columns a text takes up. -/
def width (cs : List Char) : Nat := cs.foldl (fun n c => n + charWidth c) 0

/-- The character ends a line where a text is measured. -/
def endsMeasured (c : Char) : Bool :=
  c == '\n' || (0x1C ≤ c.toNat && c.toNat ≤ 0x1E) || c == '\x85' || c == '\u2028' || c == '\u2029'

/-- The columns of the widest line after a line of which `sofar` columns are known. -/
def widestFrom (sofar : Nat) : List Char → Nat
  | [] => sofar
  | c :: cs =>
    if endsMeasured c then max sofar (widestFrom 0 cs) else widestFrom (sofar + charWidth c) cs

/-- **The columns that a text asks for**: those of its widest line. A tab asks for none. -/
def measure (cs : List Char) : Nat := widestFrom 0 cs

/-! ## Breaking -/

/-- What becomes of words that are too long for a line. -/
inductive LongWords where
  | broken
  | cutOff
  deriving DecidableEq, Repr

/-- A line with spaces for its tabs, the first of them after `column` columns. -/
def expandTabs (column : Nat) : List Char → List Char
  | [] => []
  | c :: cs =>
    if c = '\t' then
      let spaces := 8 - column % 8
      List.replicate spaces ' ' ++ expandTabs (column + spaces) cs
    else c :: expandTabs (column + charWidth c) cs

/-- The words of a line, each with the blanks behind it, and the first with those before it as well.
`fuel` is at least the length of the line. -/
def words : Nat → List Char → List (List Char)
  | 0, _ => []
  | fuel + 1, cs =>
    let blanks := cs.takeWhile Text.isBlank
    let rest := cs.drop blanks.length
    let word := rest.takeWhile fun c => !Text.isBlank c
    let after := (rest.drop word.length).takeWhile Text.isBlank
    if word.isEmpty then []
    else (blanks ++ word ++ after) :: words fuel (rest.drop (word.length + after.length))

/-- A word in pieces that fit, after a piece of which some columns are taken. -/
def pieces (columns : Nat) (piece : List Char) (taken : Nat) : List Char → List (List Char)
  | [] => [piece]
  | c :: cs =>
    if columns < taken + charWidth c then piece :: pieces columns [c] (charWidth c) cs
    else pieces columns (piece ++ [c]) (taken + charWidth c) cs

/-- A line, unless there is nothing on it. -/
def unlessEmpty (line : List Char) : List (List Char) := if line.isEmpty then [] else [line]

/-- The lines of some words, after a line of which some columns are taken. -/
def fill (long : LongWords) (columns : Nat) (line : List Char) (taken : Nat) :
    List (List Char) → List (List Char)
  | [] => [line]
  | word :: rest =>
    let needed := width (Text.trimEndOf Text.isBlank word)
    if taken + needed ≤ columns then fill long columns (line ++ word) (taken + width word) rest
    else if columns < needed then
      match long with
      | .broken =>
        let parts := pieces columns [] 0 word
        let last := parts.getLast?.getD []
        unlessEmpty line ++ parts.dropLast ++ fill long columns last (width last) rest
      | .cutOff => unlessEmpty line ++ fill long columns word (width word) rest
    else if taken = 0 then fill long columns (line ++ word) taken rest
    else unlessEmpty line ++ fill long columns word (width word) rest

/-- The line without the blanks at its end that lie behind a number of characters. -/
def dropOverhang (columns : Nat) (line : List Char) : List Char :=
  let kept := Text.trimEndOf Text.isBlank line
  line.take (max kept.length (min columns line.length))

/-- The beginning of a line that fills some columns, looked for by halving between two positions, since
characters of no width leave a choice; half a character becomes a space. `fuel` bounds the halvings. -/
def beginning (columns : Nat) (line : List Char) : Nat → Nat → Nat → List Char
  | 0, _, _ => []
  | fuel + 1, low, high =>
    let middle := (low + high) / 2
    let kept := line.take (middle + 1)
    if width kept = columns + 1 ∧ kept.getLast?.any (charWidth · = 2) then kept.dropLast ++ [' ']
    else if width kept = columns then kept
    else if columns < width kept then beginning columns line fuel low middle
    else beginning columns line fuel middle high

/-- The beginning of a line that is too long, as much as fills some columns. -/
def crop (columns : Nat) (line : List Char) : List Char :=
  if columns = 0 then [] else beginning columns line (line.length + 1) 0 line.length

/-- A line that fits. Of one that does not, the beginning is kept; where words are cut off, three dots
tell so. -/
def fit (long : LongWords) (columns : Nat) (line : List Char) : List Char :=
  if width line ≤ columns then line
  else
    match long with
    | .broken => crop columns line
    | .cutOff => crop (columns - 1) line ++ ['…']

/-- **The lines of a text that fit into some columns.** -/
def wrap (long : LongWords) (columns : Nat) (cs : List Char) : List (List Char) :=
  (Text.splitOn '\n' cs).flatMap fun line =>
    let line := if line.contains '\t' then expandTabs 0 line else line
    let lines := match words (line.length + 1) line with
      | [] => [line]
      | ws => fill long columns [] 0 ws
    lines.map fun l => fit long columns (dropOverhang columns l)

end QuerySieve.Screen
