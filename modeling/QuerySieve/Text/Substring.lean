/-!
# Text/Substring — parts of a text: where they occur, what is left without them

`occursIn` is containment of one text in another, `removeFirst` takes out the leftmost occurrence,
`splitOn` cuts at every mark. An empty text occurs everywhere, and taking it out changes nothing.
-/

namespace QuerySieve.Text

/-- **The text `part` occurs in the other** — at its beginning or after some of its characters. -/
def occursIn (part : List Char) : List Char → Bool
  | [] => part.isEmpty
  | c :: cs => part.isPrefixOf (c :: cs) || occursIn part cs

/-- **The text without the leftmost occurrence of `part`**; the text itself if there is none. -/
def removeFirst (part : List Char) : List Char → List Char
  | [] => []
  | c :: cs =>
    if part.isPrefixOf (c :: cs) then (c :: cs).drop part.length else c :: removeFirst part cs

/-- The segments between the marks, one more of them than there are marks. -/
def splitOn (mark : Char) : List Char → List (List Char)
  | [] => [[]]
  | c :: cs =>
    match splitOn mark cs with
    | [] => [[c]]
    | segment :: segments =>
      if c = mark then [] :: segment :: segments else (c :: segment) :: segments

@[simp] theorem removeFirst_nil_text (part : List Char) : removeFirst part [] = [] := rfl

@[simp] theorem removeFirst_nil_part (cs : List Char) : removeFirst [] cs = cs := by
  cases cs <;> simp [removeFirst]

end QuerySieve.Text
