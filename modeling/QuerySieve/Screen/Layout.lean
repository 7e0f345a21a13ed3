import QuerySieve.Number.Binary64
import QuerySieve.Screen.Markup
import QuerySieve.Screen.Wrap

/-!
# Screen/Layout — lines, panels and tables

Everything is laid out in lines, on a screen of a thousand columns. A panel is text between bars, as
wide as its text asks for; a table has a title, a line with the names of its columns, and a line for
every row, or several if a cell has several. Where the columns of a table ask for more than there is,
the widest of them give way first. Texts are given with tags, and shown without.
-/

namespace QuerySieve.Screen

/-- The columns of the screen. -/
def screenWidth : Nat := 1000

/-- The characters that would move the cursor about, and are not shown. -/
def isControl (c : Char) : Bool :=
  c == '\x07' || c == '\x08' || c == '\x0b' || c == '\x0c' || c == '\r'

/-- The text as it is shown: without control characters. -/
def visible (s : String) : List Char := s.toList.filter fun c => !isControl c

/-- What is shown of a text with tags. -/
def shown (markup : String) : List Char := visible (Markup.plain markup)

/-- The lines of a text that fit into some columns. -/
def linesWithin (long : LongWords) (columns : Nat) (cs : List Char) : List String :=
  (wrap long columns cs).map String.ofList

/-- Lines one below the other. -/
def stack (lines : List String) : String := String.join (lines.map (· ++ "\n"))

/-- **A text with tags on lines of its own.** -/
def print (markup : String) : String := stack (linesWithin .broken screenWidth (shown markup))

/-- Cells next to each other. -/
def bar (cells : List String) : String := "| " ++ String.intercalate " | " cells ++ " |"

/-! ## Panels -/

/-- The spaces on both sides of a text between bars. -/
def padding : Nat := 2

/-- The lines of a panel. -/
def framed (lines : List String) : String := stack (lines.map fun line => bar [line])

/-- **A text between bars.** The panel is at least as wide as asked for, and as wide as its text wants to
be, if the screen is. -/
def panel (least : Nat) (cs : List Char) : String :=
  let inner := min (screenWidth - 2) (max least (measure cs + padding))
  framed (linesWithin .broken (inner - padding) cs)

/-! ## Tables -/

/-- The sum of some widths. -/
def total (widths : List Nat) : Nat := widths.foldl (· + ·) 0

/-- The widths after `excess` columns have been taken away, in equal shares from those that have a
limit above zero, from each no more than its limit; `sharers` counts those that are still to come. -/
def takeShares (excess sharers : Nat) : List (Nat × Nat) → List Nat
  | [] => []
  | (w, limit) :: rest =>
    if limit = 0 then w :: takeShares excess sharers rest
    else
      let share := min limit (Binary64.roundQuotient excess sharers)
      (w - share) :: takeShares (excess - share) (sharers - 1) rest

/-- The widths after `excess` columns have been taken away within the limits. -/
def reduce (excess : Nat) (widths limits : List Nat) : List Nat :=
  takeShares excess (limits.filter (· != 0)).length (widths.zip limits)

/-- The widths after the widest columns have given way down to the next widest ones, until all fit or
are equally wide. `fuel` bounds the rounds. -/
def collapse (available : Nat) : Nat → List Nat → List Nat
  | 0, widths => widths
  | fuel + 1, widths =>
    let excess := total widths - available
    let widest := widths.foldl max 0
    let next := (widths.filter (· != widest)).foldl max 0
    if excess = 0 ∨ widest = next then widths
    else
      let limit := min excess (widest - next)
      collapse available fuel
        (reduce excess widths (widths.map fun w => if w = widest then limit else 0))

/-- The widths of columns that want to be as wide as given. If they do not fit, the widest give way
first, and then all equally; none stays wider than it wants to be. -/
def columnWidths (available : Nat) (wanted : List Nat) : List Nat :=
  let widths := wanted.map (min available)
  if total widths ≤ available then widths
  else
    let collapsed := collapse available screenWidth widths
    let excess := total collapsed - available
    let fitting := if excess = 0 then collapsed else reduce excess collapsed collapsed
    (fitting.zip wanted).map fun (w, want) => min w want

/-- The lines of a row: as many as its highest cell has. -/
def row (widths : List Nat) (cells : List (List Char)) : List String :=
  let columns := (widths.zip cells).map fun (w, cell) => linesWithin .cutOff (w - padding) cell
  let height := columns.foldl (fun n lines => max n lines.length) 0
  (List.range height).map fun i => bar (columns.map fun lines => lines.getD i "")

/-- What a column asks for: the columns of its widest cell, and the padding. -/
def wantedWidth (cells : List (List Char)) : Nat :=
  cells.foldl (fun n cell => max n (measure cell)) 0 + padding

/-- **A table**, with tags in its cells. -/
def table (title : String) (names : List String) (rows : List (List String)) : String :=
  let cells := (names :: rows).map (·.map shown)
  let wanted := (List.range names.length).map fun i => wantedWidth (cells.map fun r => r.getD i [])
  let widths := columnWidths (screenWidth - 1 - names.length) wanted
  stack (String.ofList (shown title) :: cells.flatMap (row widths))

end QuerySieve.Screen
