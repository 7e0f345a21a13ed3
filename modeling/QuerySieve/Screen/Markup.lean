import QuerySieve.Screen.Emoji

/-!
# Screen/Markup — text with tags for its style

A tag is a word between square brackets; it says how what follows looks, and is not shown. A backslash
before a tag makes it part of the text. `escape` makes any text safe to be put between tags, `plain` is
what is shown of a text with tags. A backslash at the very end of an escaped text is written twice, as
a tag may follow it.
-/

namespace QuerySieve.Markup

/-- A part of a text with tags. -/
inductive Piece where
  | char (c : Char)
  /-- A tag, and how many backslashes stand before it. -/
  | tag (backslashes : Nat) (body : List Char)

/-- A tag begins with a small letter or one of three signs. -/
def isTagStart (c : Char) : Bool := c.isLower || c == '#' || c == '/' || c == '@'

/-- What stands between the brackets of the tag that begins here, and what follows. -/
def readTag? : List Char → Option (List Char × List Char)
  | '[' :: c :: rest =>
    if isTagStart c then
      let body := rest.takeWhile fun c => c != '[' && c != ']'
      match rest.drop body.length with
      | ']' :: after => some (c :: body, after)
      | _ => none
    else none
  | _ => none

/-- The parts of a text, from left to right. `fuel` is at least its length. -/
def pieces : Nat → List Char → List Piece
  | 0, _ => []
  | _, [] => []
  | fuel + 1, c :: cs =>
    let backslashes := ((c :: cs).takeWhile (· == '\\')).length
    match readTag? ((c :: cs).drop backslashes) with
    | some (body, after) => .tag backslashes body :: pieces fuel after
    | none => .char c :: pieces fuel cs

/-- The parts of a text. -/
def ofText (s : String) : List Piece := pieces s.length s.toList

/-- The tag with its brackets. -/
def bracketed (body : List Char) : List Char := '[' :: body ++ [']']

/-- A part as it is escaped: one backslash more than twice as many before a tag. -/
def escapedPiece : Piece → List Char
  | .char c => [c]
  | .tag backslashes body => List.replicate (2 * backslashes + 1) '\\' ++ bracketed body

/-- The text ends with exactly one backslash. -/
def endsWithBackslash (cs : List Char) : Bool :=
  match cs.reverse with
  | ['\\'] => true
  | '\\' :: c :: _ => c != '\\'
  | _ => false

/-- **The text made safe.** -/
def escape (s : String) : String :=
  let cs := (ofText s).flatMap escapedPiece
  String.ofList (if endsWithBackslash cs then cs ++ ['\\'] else cs)

/-- The text with a backslash less before each bracket. -/
def unescaped : List Char → List Char
  | '\\' :: '[' :: cs => '[' :: unescaped cs
  | c :: cs => c :: unescaped cs
  | [] => []

/-- What is shown of characters in a row. -/
def shownRun (cs : List Char) : List Char := Emoji.draw (unescaped cs)

/-- What is shown of the parts of a text, after some characters in a row. Of the backslashes before a
tag every second one is shown, and the tag itself if their number is odd. -/
def shown (pending : List Char) : List Piece → List Char
  | [] => shownRun pending
  | .char c :: ps => shown (pending ++ [c]) ps
  | .tag backslashes body :: ps =>
    shownRun pending ++ List.replicate (backslashes / 2) '\\' ++
      (if backslashes % 2 = 1 then shownRun (bracketed body) else []) ++ shown [] ps

/-- **What is shown of a text with tags**, with pictures for their names. -/
def plain (s : String) : String := String.ofList (shown [] (ofText s))

end QuerySieve.Markup
