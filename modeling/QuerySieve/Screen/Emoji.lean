import QuerySieve.Screen.EmojiTable
import QuerySieve.Text.Blank
import QuerySieve.Text.Case
import QuerySieve.Text.Digit
import QuerySieve.Text.Substring

/-!
# Screen/Emoji — pictures by their names

The name of a picture between two colons stands for the picture. Behind a hyphen a word may say whether
it is wanted as a picture or as a letter. A name that is not known stays as it is, and its second
colon begins no other name.
-/

namespace QuerySieve.Emoji

/-- A picture, and whether it shows skin. -/
structure Picture where
  characters : List Char
  showsSkin : Bool
  deriving DecidableEq, Repr

/-- The character with a number in hexadecimal. -/
def character (cs : List Char) : Char := Char.ofNat ((Text.ofDigits? 16 Text.hexDigit? cs).getD 0)

/-- The entry that a word of the table writes. -/
def entryOf (word : List Char) : String × Picture :=
  let name := word.takeWhile (· != '=')
  let rest := word.drop (name.length + 1)
  let codes := rest.filter (· != '~')
  (String.ofList name, ⟨(Text.splitOn '-' codes).map character, rest.contains '~'⟩)

/-- The pictures by their names. -/
def table : List (String × Picture) :=
  ((Text.splitOn '\n' entryLines.toList).flatMap (Text.splitOn ' ')).filter (!·.isEmpty) |>.map entryOf

/-- The colours of skin, and the numbers of the characters that give them to the picture before. -/
def tones : List (String × Nat) := [("light", 0x1F3FB), ("medium-light", 0x1F3FC),
  ("medium", 0x1F3FD), ("medium-dark", 0x1F3FE), ("dark", 0x1F3FF)]

/-- The character that asks for a picture where there is a letter as well. -/
def asPicture : Char := '\uFE0F'

/-- The character that asks for a letter where there is a picture as well. -/
def asLetter : Char := '\uFE0E'

/-- The picture with a colour of skin behind its first character. -/
def toned (tone : Char) : List Char → List Char
  | c :: d :: cs => if d = asPicture then c :: tone :: cs else c :: tone :: d :: cs
  | [c] => [c, tone]
  | [] => []

/-- The text without an ending. -/
def withoutEnding? (ending cs : List Char) : Option (List Char) :=
  let length := cs.length - ending.length
  if cs.drop length = ending then some (cs.take length) else none

/-- The picture whose name ends with the colour of the skin. -/
def tonedPicture? (name : List Char) : Option (List Char) :=
  tones.findSome? fun (word, tone) => do
    let base ← withoutEnding? (("_" ++ word ++ "_skin_tone").toList) name
    let picture ← table.lookup (String.ofList base)
    if picture.showsSkin then some (toned (Char.ofNat tone) picture.characters) else none

/-- **The picture with a name**, which is in small letters. -/
def picture? (name : List Char) : Option (List Char) :=
  match table.lookup (String.ofList name) with
  | some picture => some picture.characters
  | none => tonedPicture? name

/-- The words that may stand behind a name, and the characters that they add. -/
def variants : List (List Char × Char) := [("-emoji".toList, asPicture), ("-text".toList, asLetter)]

/-- What a name in any case stands for between colons, with the word behind it. -/
def meaning? (word : List Char) : Option (List Char) :=
  match variants.findSome? fun v => (withoutEnding? v.1 word).map fun name => (name, [v.2]) with
  | some (name, added) => (picture? (Text.lower name)).map (· ++ added)
  | none => picture? (Text.lower word)

/-- The word between the colon that begins a text and the next one, and what follows; no blank may
stand between them. -/
def readCode? : List Char → Option (List Char × List Char)
  | ':' :: cs =>
    let word := cs.takeWhile fun c => c != ':' && !Text.isBlank c
    match cs.drop word.length with
    | ':' :: rest => some (word, rest)
    | _ => none
  | _ => none

/-- The text with pictures for their names. `fuel` is at least its length. -/
def drawFrom : Nat → List Char → List Char
  | 0, cs => cs
  | _, [] => []
  | fuel + 1, c :: cs =>
    match readCode? (c :: cs) with
    | some (word, rest) => (meaning? word).getD (':' :: word ++ [':']) ++ drawFrom fuel rest
    | none => c :: drawFrom fuel cs

/-- **The text with pictures for their names.** -/
def draw (cs : List Char) : List Char := drawFrom cs.length cs

end QuerySieve.Emoji
