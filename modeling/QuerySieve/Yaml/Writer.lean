import QuerySieve.Data.Show
import QuerySieve.Yaml.Scalar

/-!
# Yaml/Writer — values on pages in the notation

Every field and every item stands on a line of its own, the fields in the order of their names. The
items of a list in a field are not indented. A text is written plainly where that is read back as the
same text, and between single quotes elsewhere; it must fit on one line.
-/

namespace QuerySieve.Yaml

/-- The character may stand anywhere in a plain text but at its beginning. -/
def isPlainChar (c : Char) : Bool := c.isAlphanum || c == '_' || c == '.' || c == '-'

/-- **The text is written plainly**: it holds nothing that has a meaning of its own, and would not be
read as anything else. -/
def isPlain (s : String) : Bool :=
  match s.toList with
  | [] => false
  | c :: cs => c.isAlphanum && cs.all isPlainChar && Kind.of s == .text

/-- A text as it is written. -/
def textOf (s : String) : String :=
  if isPlain s then s
  else "'" ++ String.ofList (s.toList.flatMap fun c => if c = '\'' then [c, c] else [c]) ++ "'"

/-- A value on one line. -/
def inlineText : Data → String
  | .null => "null"
  | .bool b => if b then "true" else "false"
  | .text s => textOf s
  | .date year month day => textOf (Moment.dateText year month day)
  | .moment m => textOf m.text
  | .list _ => "[]"
  | .record _ => "\x7b\x7d"
  | .int n => (Key.int n).shown
  | .float x => (Key.float x).shown
  | .bytes content => (Key.bytes content).shown

/-- A key as it is written. -/
def keyText : Key → String
  | .name s => textOf s
  | key => key.shown

/-- Lines further in. -/
def indented (lines : List String) : List String := lines.map ("  " ++ ·)

/-- The lines after a mark on the first of them. -/
def marked (mark : String) : List String → List String
  | [] => []
  | first :: more => (mark ++ first) :: indented more

/-- The key of a field is not after the other. -/
def keyPrecedes (a b : Key × List String) : Bool := !(keyText b.1 < keyText a.1)

mutual

/-- The lines of a value. -/
def lines : Data → List String
  | .list (item :: items) => itemLines (item :: items)
  | .record (field :: fields) =>
    ((fieldLines (field :: fields)).mergeSort keyPrecedes).flatMap (·.2)
  | d => [inlineText d]

/-- The lines of the items of a list. -/
def itemLines : List Data → List String
  | [] => []
  | item :: items => marked "- " (lines item) ++ itemLines items

/-- The lines of each field of a record. -/
def fieldLines : List (Key × Data) → List (Key × List String)
  | [] => []
  | (key, value) :: fields =>
    let own := match value with
      | .list (_ :: _) => (keyText key ++ ":") :: lines value
      | .record (_ :: _) => (keyText key ++ ":") :: indented (lines value)
      | _ => [keyText key ++ ": " ++ inlineText value]
    (key, own) :: fieldLines fields

end

/-- **The value on a page.** -/
def page (d : Data) : String := String.join ((lines d).map (· ++ "\n"))

end QuerySieve.Yaml
