import QuerySieve.Text.Integer
import QuerySieve.Yaml.Text

/-!
# Yaml/Token — the parts that a text of the notation is made of

`Token.scan` cuts a text into tokens and makes its indentation visible: a token stands where a block
begins, and one where it ends. That a text or a bracket is the key of a field shows only when the colon
comes, so every place where a key may begin is remembered — one at each depth of brackets — and the
tokens that announce a key are put in there afterwards. The tokens are kept backwards until all are
found. A remembered place is forgotten at the end of its line; where nothing but a key may stand, that
is a fault. What comes after a fault is not scanned.
-/

namespace QuerySieve.Yaml

/-- A part of a text. -/
inductive Token where
  | documentStart
  | documentEnd
  /-- The version of the notation that is asked for. -/
  | version (major : Nat)
  /-- What the handle of a tag stands for. -/
  | handle (name : String) (meaning : String)
  /-- A directive that is passed over. -/
  | directive
  | blockListStart
  | blockRecordStart
  | blockEnd
  | listStart
  | listEnd
  | recordStart
  | recordEnd
  | entry
  | comma
  | key
  | value
  | alias (name : String)
  | anchor (name : String)
  | tag (handle : Option String) (rest : String)
  | text (isPlain : Bool) (s : String)
  /-- Nothing is known from here on, because of a fault. -/
  | broken (fault : Fault)
  deriving DecidableEq, Repr

/-! ## Names, tags and directives -/

/-- A name of letters, digits, hyphens and underscores, and the cursor after it. -/
def readName (c : Cursor) : Except Fault (String × Cursor) :=
  let name := c.run isNameChar
  if name.isEmpty then .error .malformed else .ok (String.ofList name, c.skip name.length)

/-- The name of an anchor, behind its sign. -/
def readAnchor (c : Cursor) : Except Fault (String × Cursor) := do
  let (name, c) ← readName c
  if endsWord c.peek || "?:,]\x7d%@\x60".toList.contains c.peek then .ok (name, c) else .error .malformed

/-- The character may stand in the rest of a tag. -/
def isTagChar (c : Char) : Bool := isNameChar c || ";/?:@&=+$,.!~*'()[]%".toList.contains c

/-- The bytes that are given by number after percent signs, and the cursor after them. -/
def readBytes (fuel : Nat) (c : Cursor) : Except Fault (List UInt8 × Cursor) :=
  match fuel with
  | 0 => .error .malformed
  | fuel + 1 =>
    if c.peek = '%' then
      let digits := (c.rest.drop 1).take 2
      match Text.ofDigits? 16 Text.hexDigit? digits with
      | some n =>
        if digits.length = 2 then do
          let (more, after) ← readBytes fuel (c.skip 3)
          .ok (n.toUInt8 :: more, after)
        else .error .malformed
      | none => .error .malformed
    else .ok ([], c)

/-- The rest of a tag: its characters, with those given by number put in. -/
def readTagRest (fuel : Nat) (c : Cursor) : Except Fault (List Char × Cursor) :=
  match fuel with
  | 0 => .error .malformed
  | fuel + 1 =>
    if c.peek = '%' then do
      let (bytes, c) ← readBytes (c.rest.length + 1) c
      match String.fromUTF8? ⟨bytes.toArray⟩ with
      | some s =>
        let (more, after) ← readTagRest fuel c
        .ok (s.toList ++ more, after)
      | none => .error .malformed
    else if isTagChar c.peek then do
      let (more, after) ← readTagRest fuel c.next
      .ok (c.peek :: more, after)
    else .ok ([], c)

/-- The rest of a tag, which must not be empty. -/
def tagRest (c : Cursor) : Except Fault (String × Cursor) := do
  let (rest, after) ← readTagRest (c.rest.length + 1) c
  if after.index = c.index then .error .malformed else .ok (String.ofList rest, after)

/-- The handle of a tag: an exclamation mark, or a name between two. -/
def readHandle (c : Cursor) : Except Fault (String × Cursor) :=
  if c.peek != '!' then .error .malformed
  else
    let name := c.next.run isNameChar
    if c.peekAt 1 = ' ' then .ok ("!", c.next)
    else if c.peekAt (1 + name.length) = '!' then
      .ok ("!" ++ String.ofList name ++ "!", c.skip (name.length + 2))
    else .error .malformed

/-- The tag that begins here. -/
def readTag (c : Cursor) : Except Fault (Token × Cursor) := do
  let endsTag (ch : Char) : Bool := ch == ' ' || endsLine ch
  let (token, after) ←
    if c.peekAt 1 = '<' then do
      let (rest, after) ← tagRest (c.skip 2)
      if after.peek = '>' then .ok (Token.tag none rest, after.next) else .error .malformed
    else if endsWord (c.peekAt 1) then .ok (Token.tag none "!", c.next)
    else do
      let word := c.next.run fun ch => !endsTag ch
      let (handle, after) ← if word.contains '!' then readHandle c else .ok ("!", c.next)
      let (rest, after) ← tagRest after
      .ok (Token.tag (some handle) rest, after)
  if endsTag after.peek then .ok (token, after) else .error .malformed

/-- A whole number. -/
def readCount (c : Cursor) : Except Fault (Nat × Cursor) :=
  let digits := c.run Char.isDigit
  match Text.ofDigits? 10 Text.plainDigit? digits with
  | some n =>
    if digits.isEmpty then .error .malformed
    else if Text.maxDigits < digits.length then .error .noSuchValue
    else .ok (n, c.skip digits.length)
  | none => .error .malformed

/-- The directive that begins here, and the cursor after its line. -/
def readDirective (c : Cursor) : Except Fault (Token × Cursor) := do
  let (name, c) ← readName c.next
  let endsPart (ch : Char) : Bool := ch == ' ' || endsLine ch
  if !endsPart c.peek then .error .malformed
  else
    let (token, c) ←
      if name = "YAML" then do
        let (major, c) ← readCount c.skipSpaces
        if c.peek != '.' then .error .malformed
        else
          let (_, c) ← readCount c.next
          if endsPart c.peek then .ok (Token.version major, c) else .error .malformed
      else if name = "TAG" then do
        let (handle, c) ← readHandle c.skipSpaces
        if c.peek != ' ' then .error .malformed
        else
          let (meaning, c) ← tagRest c.skipSpaces
          if endsPart c.peek then .ok (Token.handle handle meaning, c) else .error .malformed
      else .ok (Token.directive, c.skipLine)
    let c ← c.finishLine
    .ok (token, c)

/-! ## Scanning -/

/-- A place where a key may have begun: after how many tokens, and whether one has to. -/
structure KeyPlace where
  tokens : Nat
  required : Bool
  index : Nat
  line : Nat
  column : Nat

/-- How far the scanning has come. -/
structure Scan where
  cursor : Cursor
  /-- The tokens, the last one first. -/
  tokens : List Token
  /-- The column of the innermost block, counted from one; none outside all. -/
  indent : Nat
  /-- The columns of the blocks around it. -/
  outer : List Nat
  /-- The remembered places, for the innermost bracket first and the outside of all last. -/
  places : List (Option KeyPlace)
  /-- A key may begin here. -/
  keyAllowed : Bool

namespace Scan

/-- The scan at the beginning of a text. -/
def start (cs : List Char) : Scan := ⟨.before cs, [], 0, [], [none], true⟩

/-- The scan is inside brackets. -/
def inFlow (s : Scan) : Bool := 1 < s.places.length

/-- The column of the cursor, counted from one. -/
def column (s : Scan) : Nat := s.cursor.column + 1

/-- The scan with one more token. -/
def push (s : Scan) (t : Token) : Scan := { s with tokens := t :: s.tokens }

/-- The scan with one more token, and past some characters. -/
def pushPast (s : Scan) (t : Token) (n : Nat) : Scan :=
  { s with tokens := t :: s.tokens, cursor := s.cursor.skip n }

/-- The farthest that a key may be from its colon. -/
def longestKey : Nat := 1024

/-- The place is forgotten here. -/
def isStale (s : Scan) (k : KeyPlace) : Bool :=
  k.line != s.cursor.line || longestKey < s.cursor.index - k.index

/-- The scan without the places that are forgotten by now. -/
def forgetStale (s : Scan) : Except Fault Scan :=
  let stale (k? : Option KeyPlace) : Bool := k?.any s.isStale
  if s.places.any fun k? => stale k? && k?.any (·.required) then .error .malformed
  else .ok { s with places := s.places.map fun k? => if stale k? then none else k? }

/-- The scan without the place of the innermost bracket. -/
def dropPlace (s : Scan) : Except Fault Scan :=
  match s.places with
  | some k :: rest => if k.required then .error .malformed else .ok { s with places := none :: rest }
  | _ => .ok s

/-- The scan that remembers this place, if a key may begin here. -/
def savePlace (s : Scan) : Except Fault Scan :=
  if s.keyAllowed then do
    let required := !s.inFlow && s.indent == s.column
    let s ← s.dropPlace
    let c := s.cursor
    let place : KeyPlace := ⟨s.tokens.length, required, c.index, c.line, c.column⟩
    .ok { s with places := some place :: s.places.drop 1 }
  else .ok s

/-- The scan after the ends of all blocks that are indented further than a column. -/
def closeBlocks (column : Nat) (s : Scan) : Scan :=
  if s.inFlow then s else go s.outer s
where
  /-- Goes through the blocks from the innermost one on. -/
  go : List Nat → Scan → Scan
    | [], s => s
    | around :: rest, s =>
      if column < s.indent then
        go rest { s with tokens := .blockEnd :: s.tokens, indent := around, outer := rest }
      else s

/-- A block begins in a column that lies further in: the scan inside it. -/
def openBlock? (column : Nat) (s : Scan) : Option Scan :=
  if s.indent < column then some { s with indent := column, outer := s.indent :: s.outer } else none

/-- The scan inside a new block, with the token that begins it. -/
def openWith (t : Token) (s : Scan) : Scan :=
  match s.openBlock? s.column with
  | some s => s.push t
  | none => s

/-- The scan before the next token: spaces, comments and line ends are passed over. -/
def toNext (fuel : Nat) (s : Scan) : Scan :=
  match fuel with
  | 0 => s
  | fuel + 1 =>
    let c := s.cursor.skipSpaces.skipComment
    if isBreak c.peek then
      toNext fuel { s with cursor := c.next, keyAllowed := s.keyAllowed || !s.inFlow }
    else { s with cursor := c }

/-- The scan before the next token. A byte order mark at the very beginning is passed over. -/
def skipGap (s : Scan) : Scan :=
  let s := if s.cursor.index = 0 && s.cursor.peek = '\uFEFF' then { s with cursor := s.cursor.next }
    else s
  toNext (s.cursor.rest.length + 1) s

/-- The end of all blocks, where a document or the text ends. -/
def leaveAll (s : Scan) : Except Fault Scan := do
  let s ← (s.closeBlocks 0).dropPlace
  .ok { s with keyAllowed := false }

/-- A bracket opens. -/
def openBracket (t : Token) (s : Scan) : Except Fault Scan := do
  let s ← s.savePlace
  .ok (({ s with places := none :: s.places, keyAllowed := true } : Scan).pushPast t 1)

/-- A bracket closes. -/
def closeBracket (t : Token) (s : Scan) : Except Fault Scan := do
  let s ← s.dropPlace
  if s.inFlow then
    .ok (({ s with places := s.places.drop 1, keyAllowed := false } : Scan).pushPast t 1)
  else .error .malformed

/-- A comma between brackets. -/
def comma (s : Scan) : Except Fault Scan := do
  let s ← s.dropPlace
  .ok (({ s with keyAllowed := true } : Scan).pushPast .comma 1)

/-- The hyphen before an item of a list. -/
def entry (s : Scan) : Except Fault Scan := do
  if !s.inFlow && !s.keyAllowed then .error .malformed
  else
    let s := if s.inFlow then s else s.openWith .blockListStart
    let s ← s.dropPlace
    .ok (({ s with keyAllowed := true } : Scan).pushPast .entry 1)

/-- The question mark before a key. -/
def key (s : Scan) : Except Fault Scan := do
  if !s.inFlow && !s.keyAllowed then .error .malformed
  else
    let s := if s.inFlow then s else s.openWith .blockRecordStart
    let s ← s.dropPlace
    .ok (({ s with keyAllowed := !s.inFlow } : Scan).pushPast .key 1)

/-- The scan with tokens put in after the first `n`, given backwards. -/
def putIn (s : Scan) (n : Nat) (ts : List Token) : Scan :=
  let (later, earlier) := s.tokens.splitAt (s.tokens.length - n)
  { s with tokens := later ++ ts ++ earlier }

/-- The colon after a key: the place where the key began is known now. -/
def value (s : Scan) : Except Fault Scan :=
  match s.places with
  | some k :: rest =>
    let s := { s with places := none :: rest, keyAllowed := false }
    let s := match if s.inFlow then none else s.openBlock? (k.column + 1) with
      | some s => s.putIn k.tokens [.key, .blockRecordStart]
      | none => s.putIn k.tokens [.key]
    .ok (s.pushPast .value 1)
  | _ => do
    if !s.inFlow && !s.keyAllowed then .error .malformed
    else
      let s := if s.inFlow then s else s.openWith .blockRecordStart
      let s ← s.dropPlace
      .ok (({ s with keyAllowed := !s.inFlow } : Scan).pushPast .value 1)

/-- A token that may be or begin a key. -/
def leaf (s : Scan) (read : Cursor → Except Fault (Token × Cursor)) : Except Fault Scan := do
  let s ← s.savePlace
  let (t, c) ← read s.cursor
  .ok { s with tokens := t :: s.tokens, cursor := c, keyAllowed := false }

/-- A plain text. After a line end a key may begin again. -/
def plain (s : Scan) : Except Fault Scan := do
  let s ← s.savePlace
  let c := s.cursor
  let (text, ended, after) := plainText (c.rest.length + 1) s.inFlow s.indent false [] c
  .ok { s with
    tokens := .text true (String.ofList text) :: s.tokens, cursor := after, keyAllowed := ended }

/-- A text in a block. -/
def block (foldLines : Bool) (s : Scan) : Except Fault Scan := do
  let s ← s.dropPlace
  let (text, c) ← blockText foldLines s.indent s.cursor
  .ok { s with tokens := .text false (String.ofList text) :: s.tokens, cursor := c, keyAllowed := true }

/-- A text between quotes. -/
def readQuoted (c : Cursor) : Except Fault (Token × Cursor) := do
  let (text, after) ← quotedText (c.rest.length + 1) c.peek c.next
  .ok (.text false (String.ofList text), after)

/-- A plain text may begin with the character before the other. -/
def beginsPlain (inFlow : Bool) (ch after : Char) : Bool :=
  !(endsWord ch || "-?:,[]\x7b\x7d#&*!|>'\"%@\x60".toList.contains ch) ||
    (!endsWord after && (ch == '-' || (!inFlow && (ch == '?' || ch == ':'))))

/-- The mark of a document. -/
def mark (t : Token) (s : Scan) : Except Fault Scan := do
  let s ← s.leaveAll
  .ok (s.pushPast t 3)

/-- A directive. -/
def directive (s : Scan) : Except Fault Scan := do
  let s ← s.leaveAll
  let (t, c) ← readDirective s.cursor
  .ok { s with tokens := t :: s.tokens, cursor := c }

/-- **The scan after the next token**, which begins at the cursor. -/
def step (s : Scan) : Except Fault Scan :=
  let ch := s.cursor.peek
  let after := s.cursor.peekAt 1
  let atStart := s.cursor.column == 0
  if atStart && ch == '%' then s.directive
  else if atStart && s.cursor.isMark '-' then s.mark .documentStart
  else if atStart && s.cursor.isMark '.' then s.mark .documentEnd
  else if ch == '[' then s.openBracket .listStart
  else if ch == '\x7b' then s.openBracket .recordStart
  else if ch == ']' then s.closeBracket .listEnd
  else if ch == '\x7d' then s.closeBracket .recordEnd
  else if ch == ',' then s.comma
  else if ch == '-' && endsWord after then s.entry
  else if ch == '?' && (s.inFlow || endsWord after) then s.key
  else if ch == ':' && (s.inFlow || endsWord after) then s.value
  else if ch == '*' then s.leaf fun c => do
    let (name, c) ← readAnchor c.next
    .ok (.alias name, c)
  else if ch == '&' then s.leaf fun c => do
    let (name, c) ← readAnchor c.next
    .ok (.anchor name, c)
  else if ch == '!' then s.leaf readTag
  else if ch == '|' && !s.inFlow then s.block false
  else if ch == '>' && !s.inFlow then s.block true
  else if ch == '\'' || ch == '"' then s.leaf readQuoted
  else if beginsPlain s.inFlow ch after then s.plain
  else .error .malformed

/-- How many tokens are known for good: none from the first place on where a key may have begun. -/
def settled (s : Scan) : Nat :=
  s.places.foldl (fun n k? => match k? with
    | some k => if s.isStale k then n else min n k.tokens
    | none => n) s.tokens.length

/-- The scan after what comes next: a token, or the end of the text, which leaves no more. -/
def advance (s : Scan) : Except Fault (Scan × Bool) := do
  let s ← s.skipGap.forgetStale
  let s := s.closeBlocks s.column
  if s.cursor.rest.isEmpty then do
    let s ← s.leaveAll
    .ok (s, false)
  else
    let s ← s.step
    .ok (s, true)

/-- The tokens of the rest of a text. Where the scanning comes to a fault, only the tokens that are
known for good stand before it. -/
def run (fuel : Nat) (s : Scan) : List Token :=
  match fuel with
  | 0 => [.broken .malformed]
  | fuel + 1 =>
    match s.advance with
    | .ok (s, true) => run fuel s
    | .ok (s, false) => s.tokens.reverse
    | .error f => s.tokens.reverse.take s.settled ++ [.broken f]

end Scan

namespace Token

/-- **The tokens of a text.** A fault is a token, as what is wrong with the tokens before it is told
first. -/
def scan (cs : List Char) : List Token := (Scan.start cs).run (cs.length + 1)

end Token

end QuerySieve.Yaml
