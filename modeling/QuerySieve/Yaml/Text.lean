import QuerySieve.Text.Digit
import QuerySieve.Yaml.Cursor

/-!
# Yaml/Text — the texts of the notation: plain, quoted, and in blocks

Each reader takes a cursor to the beginning of a text and gives the text and the cursor after it.
In plain and quoted texts a single line end stands for a space, and of several the first for nothing;
spaces around them are dropped. A block keeps its lines, or folds them if it begins with the greater-than
sign. The loops are bounded by `fuel`, the number of characters that are left.
-/

namespace QuerySieve.Yaml

/-- What a line end and the empty lines after it stand for in running text. -/
def folded (first : Char) (more : List Char) : List Char :=
  if first != '\n' then first :: more else if more.isEmpty then [' '] else more

/-! ## Plain text -/

/-- The characters of a plain text up to the next space. Inside brackets more characters end it. -/
def plainWord (inFlow : Bool) : List Char → List Char
  | [] => []
  | c :: cs =>
    let after := cs.headD endMark
    if endsWord c then []
    else if c = ':' && (endsWord after || (inFlow && ",[]\x7b\x7d".toList.contains after)) then []
    else if inFlow && ",?[]\x7b\x7d".toList.contains c then []
    else c :: plainWord inFlow cs

/-- The line ends after the first one, past all spaces between them; nothing before the mark of a
document. -/
def plainBreaks (fuel : Nat) (seen : List Char) (c : Cursor) : Option (List Char) × Cursor :=
  match fuel with
  | 0 => (some seen, c)
  | fuel + 1 =>
    if c.peek = ' ' then plainBreaks fuel seen c.next
    else if isBreak c.peek then
      let seen := seen ++ [Cursor.breakText c.peek]
      if c.next.isDocumentMark then (none, c.next) else plainBreaks fuel seen c.next
    else (some seen, c)

/-- What stands between two words of a plain text: what it stands for, whether a line ended there, and
the cursor after it. Nothing stands for the end of the text. -/
def plainGap (c : Cursor) : List Char × Bool × Cursor :=
  let spaces := c.run (· == ' ')
  let c := c.skip spaces.length
  if isBreak c.peek then
    if c.next.isDocumentMark then ([], true, c.next)
    else
      match plainBreaks c.rest.length [] c.next with
      | (none, after) => ([], true, after)
      | (some more, after) => (folded (Cursor.breakText c.peek) more, true, after)
  else (spaces, false, c)

/-- **A plain text**, and whether a line ended after it. `indent` is the least column that it goes on
in. -/
def plainText (fuel : Nat) (inFlow : Bool) (indent : Nat) (ended : Bool) (gap : List Char)
    (c : Cursor) : List Char × Bool × Cursor :=
  match fuel with
  | 0 => ([], ended, c)
  | fuel + 1 =>
    let word := if c.peek = '#' then [] else plainWord inFlow c.rest
    if word.isEmpty then ([], ended, c)
    else
      let (nextGap, ended, c) := plainGap (c.skip word.length)
      if nextGap.isEmpty || c.peek = '#' || (!inFlow && c.column < indent) then
        (gap ++ word, ended, c)
      else
        let (more, ended, c) := plainText fuel inFlow indent ended nextGap c
        (gap ++ word ++ more, ended, c)

/-! ## Quoted text -/

/-- The characters that a backslash makes of others. -/
def escapes : List (Char × Char) := [
  ('0', '\x00'), ('a', '\x07'), ('b', '\x08'), ('t', '\t'), ('\t', '\t'), ('n', '\n'), ('v', '\x0b'),
  ('f', '\x0c'), ('r', '\r'), ('e', '\x1b'), (' ', ' '), ('"', '"'), ('\\', '\\'), ('/', '/'),
  ('N', '\x85'), ('_', '\xa0'), ('L', '\u2028'), ('P', '\u2029')]

/-- How many digits a character by number has after its letter. -/
def escapeDigits : List (Char × Nat) := [('x', 2), ('u', 4), ('U', 8)]

/-- The character with a number. Half of a pair stands for none, and is taken for the replacement
character, so texts that differ in such halves only are not told apart. -/
def numbered (n : Nat) : Except Fault Char :=
  if 0x7FFFFFFF < n then .error .greatCharacter
  else if 0x10FFFF < n then .error .noSuchValue
  else if 0xD800 ≤ n ∧ n < 0xE000 then .ok '\uFFFD'
  else .ok (Char.ofNat n)

/-- The line ends after the first one inside quotes, past all blanks between them. -/
def quotedBreaks (fuel : Nat) (c : Cursor) : Except Fault (List Char × Cursor) :=
  match fuel with
  | 0 => .ok ([], c)
  | fuel + 1 =>
    if c.isDocumentMark then .error .malformed
    else
      let c := c.skipRun fun ch => ch == ' ' || ch == '\t'
      if isBreak c.peek then do
        let (more, after) ← quotedBreaks fuel c.next
        .ok (Cursor.breakText c.peek :: more, after)
      else .ok ([], c)

/-- The characters that an escape stands for, from the backslash on. -/
def escaped (c : Cursor) : Except Fault (List Char × Cursor) :=
  let ch := c.peekAt 1
  match escapes.lookup ch, escapeDigits.lookup ch with
  | some meant, _ => .ok ([meant], c.skip 2)
  | none, some count =>
    let digits := (c.rest.drop 2).take count
    match Text.ofDigits? 16 Text.hexDigit? digits with
    | some n =>
      if digits.length = count then do
        let meant ← numbered n
        .ok ([meant], c.skip (2 + count))
      else .error .malformed
    | none => .error .malformed
  | none, none =>
    if isBreak ch then quotedBreaks (c.rest.length + 1) (c.skip 2) else .error .malformed

/-- **A quoted text** from behind its opening quote, and the cursor behind its closing one. A single
quote is doubled between single quotes; backslashes mean something between double ones only. -/
def quotedText (fuel : Nat) (quote : Char) (c : Cursor) : Except Fault (List Char × Cursor) :=
  match fuel with
  | 0 => .error .malformed
  | fuel + 1 => do
    let ch := c.peek
    let step (piece : List Char) (after : Cursor) : Except Fault (List Char × Cursor) := do
      let (more, after) ← quotedText fuel quote after
      .ok (piece ++ more, after)
    if c.rest.isEmpty then .error .malformed
    else if ch = quote then
      if quote = '\'' && c.peekAt 1 = '\'' then step ['\''] (c.skip 2) else .ok ([], c.next)
    else if endsWord ch then
      let blanks := c.run fun ch => ch == ' ' || ch == '\t'
      let c := c.skip blanks.length
      if isBreak c.peek then do
        let (more, after) ← quotedBreaks (c.rest.length + 1) c.next
        step (folded (Cursor.breakText c.peek) more) after
      else step blanks c
    else if quote = '"' && ch = '\\' then do
      let (piece, after) ← escaped c
      step piece after
    else step [ch] c.next

/-! ## Blocks -/

/-- What is kept of the line ends at the end of a block. -/
inductive Chomping where
  | none
  | one
  | all
  deriving DecidableEq

/-- The signs after the one that opens a block: what is kept at its end, and by how much it is
indented. -/
def blockSigns (c : Cursor) : Except Fault (Chomping × Option Nat × Cursor) :=
  let chomping (ch : Char) : Option Chomping :=
    if ch = '+' then some .all else if ch = '-' then some .none else Option.none
  let digit (ch : Char) : Option Nat := Text.plainDigit? ch
  let done (k : Chomping) (n : Option Nat) (c : Cursor) : Except Fault (Chomping × Option Nat × Cursor) :=
    if n = some 0 || !(c.peek == ' ' || endsLine c.peek) then .error .malformed else .ok (k, n, c)
  match chomping c.peek, digit c.peek with
  | some k, _ =>
    match digit c.next.peek with
    | some n => done k (some n) (c.skip 2)
    | none => done k none c.next
  | none, some n =>
    match chomping c.next.peek with
    | some k => done k (some n) (c.skip 2)
    | none => done .one (some n) c.next
  | none, none => done .one none c

/-- The empty lines at the beginning of a block, and the furthest column that spaces reach there. -/
def blockStart (fuel : Nat) (furthest : Nat) (c : Cursor) : List Char × Nat × Cursor :=
  match fuel with
  | 0 => ([], furthest, c)
  | fuel + 1 =>
    if c.peek = ' ' then blockStart fuel (max furthest c.next.column) c.next
    else if isBreak c.peek then
      let (more, furthest, after) := blockStart fuel furthest c.next
      (Cursor.breakText c.peek :: more, furthest, after)
    else ([], furthest, c)

/-- The line ends before the next line of a block that is not empty. -/
def blockBreaks (fuel : Nat) (indent : Nat) (c : Cursor) : List Char × Cursor :=
  match fuel with
  | 0 => ([], c)
  | fuel + 1 =>
    let c := c.skipSpacesTo indent
    if isBreak c.peek then
      let (more, after) := blockBreaks fuel indent c.next
      (Cursor.breakText c.peek :: more, after)
    else ([], c)

/-- The lines of a block, each with the line ends before it; and at the end the last line end, and the
ones after it. -/
def blockLines (fuel : Nat) (foldLines : Bool) (indent : Nat) (breaks : List Char) (c : Cursor) :
    List Char × List Char × List Char × Cursor :=
  let isBlank (ch : Char) : Bool := ch == ' ' || ch == '\t'
  match fuel with
  | 0 => ([], [], breaks, c)
  | fuel + 1 =>
    if c.column = indent && !c.rest.isEmpty then
      let text := c.run fun ch => !isBreak ch
      let after := c.skip text.length
      let (lineEnd, after) : List Char × Cursor :=
        if isBreak after.peek then ([Cursor.breakText after.peek], after.next) else ([], after)
      let (nextBreaks, next) := blockBreaks (after.rest.length + 1) indent after
      if next.column = indent && !next.rest.isEmpty then
        let joint : List Char :=
          if foldLines && lineEnd = ['\n'] && !isBlank c.peek && !isBlank next.peek then
            (if nextBreaks.isEmpty then [' '] else [])
          else lineEnd
        let (more, rest) := blockLines fuel foldLines indent nextBreaks next
        (breaks ++ text ++ joint ++ more, rest)
      else (breaks ++ text, lineEnd, nextBreaks, next)
    else ([], [], breaks, c)

/-- **A text in a block** from the sign that opens it on. `indent` is the least column of its lines. -/
def blockText (foldLines : Bool) (indent : Nat) (c : Cursor) : Except Fault (List Char × Cursor) := do
  let (chomping, increment, c) ← blockSigns c.next
  let c ← c.finishLine
  let fuel := c.rest.length + 1
  let least := max 1 indent
  let (column, breaks, c) : Nat × List Char × Cursor :=
    match increment with
    | some n =>
      let column := least + n - 1
      let (breaks, c) := blockBreaks fuel column c
      (column, breaks, c)
    | none =>
      let (breaks, furthest, c) := blockStart fuel 0 c
      (max least furthest, breaks, c)
  let (text, lineEnd, breaks, c) := blockLines fuel foldLines column breaks c
  .ok (text ++ (match chomping with
    | .none => []
    | .one => lineEnd
    | .all => lineEnd ++ breaks), c)

end QuerySieve.Yaml
