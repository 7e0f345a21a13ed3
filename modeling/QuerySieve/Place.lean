import QuerySieve.Text.Case
import QuerySieve.Text.Substring

/-!
# Place — where a file lies

A place is a row of names, counted from the top or from the current folder. Reading one drops what
says nothing — empty names and single dots — while two dots stay: they are only followed where the
folders are known.
-/

namespace QuerySieve

/-- A place in a tree of files. Exactly two slashes at the beginning are kept apart from one. -/
structure Place where
  slashes : Nat
  names : List String
  deriving DecidableEq, Repr

namespace Place

/-- The slashes that a place begins with: more than two count as one. -/
def leadingSlashes (cs : List Char) : Nat :=
  let n := (cs.takeWhile (· == '/')).length
  if n = 0 then 0 else if n = 2 then 2 else 1

/-- **The place that a text names.** -/
def ofText (s : String) : Place :=
  let names := (Text.splitOn '/' s.toList).filter fun cs => !cs.isEmpty && cs != ['.']
  ⟨leadingSlashes s.toList, names.map String.ofList⟩

/-- **The place as a text**; the current folder is a dot. -/
def text (p : Place) : String :=
  if p.slashes = 0 && p.names.isEmpty then "."
  else String.ofList (List.replicate p.slashes '/') ++ String.intercalate "/" p.names

/-- The place is counted from the top. -/
def isAbsolute (p : Place) : Bool := p.slashes != 0

/-- The place seen from another one. -/
def below (base p : Place) : Place :=
  if p.isAbsolute then p else ⟨base.slashes, base.names ++ p.names⟩

/-- **The ending of a name**: its last point and what follows, if something stands on both sides. -/
def endingOf (name : String) : String :=
  let back := name.toList.reverse
  let after := back.takeWhile (· != '.')
  match back.drop after.length with
  | _ :: _ :: _ => if after.isEmpty then "" else String.ofList ('.' :: after.reverse)
  | _ => ""

/-- The ending of the last name, in small letters. -/
def ending (p : Place) : String := Text.lowerString (endingOf (p.names.getLast?.getD ""))

end Place

end QuerySieve
