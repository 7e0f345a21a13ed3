import QuerySieve.Yaml.Fault

/-!
# Yaml/Cursor — going through a text and knowing where one is

A `Cursor` stands before the rest of a text and counts lines and columns, as indentation is what holds
a text in this notation together. At the end it sees the character zero, which no text holds. The line
ends are those of Unicode, and the byte order mark has no width.
-/

namespace QuerySieve.Yaml

/-- What the cursor sees at the end. -/
def endMark : Char := '\x00'

/-- The character ends a line. -/
def isBreak (c : Char) : Bool :=
  c == '\n' || c == '\r' || c == '\x85' || c == '\u2028' || c == '\u2029'

/-- No more of the line comes after this. -/
def endsLine (c : Char) : Bool := c == endMark || isBreak c

/-- No more of the word comes after this. -/
def endsWord (c : Char) : Bool := c == ' ' || c == '\t' || endsLine c

/-- The character may stand in names of anchors, tags and directives. -/
def isNameChar (c : Char) : Bool := c.isAlphanum || c == '-' || c == '_'

/-- A place in a text: what comes after it, how many characters came before, and in which line and
column it is. -/
structure Cursor where
  rest : List Char
  index : Nat
  line : Nat
  column : Nat

namespace Cursor

/-- The cursor before a text. -/
def before (cs : List Char) : Cursor := ⟨cs, 0, 0, 0⟩

/-- The next character. -/
def peek (c : Cursor) : Char := c.rest.headD endMark

/-- The character some way ahead. -/
def peekAt (c : Cursor) (n : Nat) : Char := c.rest.getD n endMark

/-- Past the next character. -/
def next (c : Cursor) : Cursor :=
  match c.rest with
  | [] => c
  | ch :: rest =>
    if isBreak ch then ⟨rest, c.index + 1, c.line + 1, 0⟩
    else ⟨rest, c.index + 1, c.line, if ch = '\uFEFF' then c.column else c.column + 1⟩

/-- Past some characters. -/
def skip (c : Cursor) : Nat → Cursor
  | 0 => c
  | n + 1 => c.next.skip n

/-- The characters from here on that are in a class. -/
def run (c : Cursor) (p : Char → Bool) : List Char := c.rest.takeWhile p

/-- Past the characters that are in a class. -/
def skipRun (c : Cursor) (p : Char → Bool) : Cursor := c.skip (c.run p).length

/-- Past the spaces. -/
def skipSpaces (c : Cursor) : Cursor := c.skipRun (· == ' ')

/-- Past spaces, but not beyond a column. -/
def skipSpacesTo (c : Cursor) (column : Nat) : Cursor :=
  c.skip (min (column - c.column) (c.run (· == ' ')).length)

/-- Past everything up to the end of the line. -/
def skipLine (c : Cursor) : Cursor := c.skipRun fun ch => !isBreak ch

/-- What a line end stands for: the separators stand for themselves, the others for a new line. -/
def breakText (ch : Char) : Char := if ch == '\u2028' || ch == '\u2029' then ch else '\n'

/-- Past a comment, if one begins here. -/
def skipComment (c : Cursor) : Cursor := if c.peek = '#' then c.skipLine else c

/-- Past what may still stand in a line that is otherwise done, and past its end. -/
def finishLine (c : Cursor) : Except Fault Cursor :=
  let c := c.skipSpaces.skipComment
  if endsLine c.peek then .ok c.next else .error .malformed

/-- Three equal characters and the end of a word stand here. -/
def isMark (c : Cursor) (ch : Char) : Bool :=
  c.peek == ch && c.peekAt 1 == ch && c.peekAt 2 == ch && endsWord (c.peekAt 3)

/-- The beginning or the end of a document is marked here. -/
def isDocumentMark (c : Cursor) : Bool := c.isMark '-' || c.isMark '.'

end Cursor

end QuerySieve.Yaml
