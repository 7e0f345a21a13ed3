import QuerySieve.Filter
import QuerySieve.Text.Blank

/-!
# Query/Token — the filter tokens in a query

A token is a sign or none, the tag in letters of any case, and the word up to the next blank or
hyphen. `scan` cuts a query into tokens and the single characters between them, from left to right:
where a token can be read it is read, and nothing inside it is looked at again. A token whose word is
empty is still read as one, though it names no filter.
-/

namespace QuerySieve

/-- The sign before a tag. -/
inductive Sign where
  | plus
  | minus
  deriving DecidableEq, Repr

/-- A filter token, piece by piece as it is written. -/
structure Token where
  sign : Option Sign
  tag : List Char
  word : List Char
  deriving DecidableEq, Repr

namespace Token

/-- The character that a sign is written as. -/
def signText : Option Sign → List Char
  | none => []
  | some .plus => ['+']
  | some .minus => ['-']

/-- The token as it is written. -/
def text (t : Token) : List Char := signText t.sign ++ t.tag ++ t.word

/-- The character may stand for a small letter of the tag: it is that letter in either case, or the
sign of the kelvin for a k. -/
def isTagLetter (letter c : Char) : Bool := c.toLower == letter || (letter == 'k' && c == '\u212A')

/-- The beginning of a text in letters of any case as a pattern has it, and the rest. -/
def readTag? : List Char → List Char → Option (List Char × List Char)
  | [], cs => some ([], cs)
  | _, [] => none
  | letter :: letters, c :: cs =>
    if isTagLetter letter c then (readTag? letters cs).map fun (tag, rest) => (c :: tag, rest)
    else none

/-- The character can stand in a word. -/
def isWordChar (c : Char) : Bool := !Text.isBlank c && c != '-'

/-- Tag and word at the beginning of a text. -/
def readUnsigned? (sign : Option Sign) (cs : List Char) : Option Token :=
  (readTag? Filter.tag.toList cs).map fun (tag, rest) => ⟨sign, tag, rest.takeWhile isWordChar⟩

/-- **The token at the beginning of a text.** -/
def read? (cs : List Char) : Option Token :=
  match cs with
  | '+' :: rest => readUnsigned? (some .plus) rest
  | '-' :: rest => readUnsigned? (some .minus) rest
  | _ => readUnsigned? none cs

/-- The filter that a token names; none if its word is empty. -/
def filter? (t : Token) : Option Filter :=
  if t.word.isEmpty then none
  else some (Filter.make (t.sign != some .minus) (String.ofList t.word) none
    (some (String.ofList t.text)))

end Token

/-- A part of a query: a token, or a character that belongs to none. -/
inductive Piece where
  | token (t : Token)
  | char (c : Char)
  deriving DecidableEq, Repr

namespace Piece

/-- The part as it is written. -/
def text : Piece → List Char
  | token t => t.text
  | char c => [c]

/-- The filter that a part names. -/
def filter? : Piece → Option Filter
  | token t => t.filter?
  | char _ => none

/-- The pieces of a text after as many characters as still belong to the last token. -/
def scanAfter : Nat → List Char → List Piece
  | _, [] => []
  | pending + 1, _ :: cs => scanAfter pending cs
  | 0, c :: cs =>
    match Token.read? (c :: cs) with
    | some t => token t :: scanAfter (t.text.length - 1) cs
    | none => char c :: scanAfter 0 cs

/-- **The pieces of a query**, from left to right. -/
def scan (cs : List Char) : List Piece := scanAfter 0 cs

end Piece

end QuerySieve
