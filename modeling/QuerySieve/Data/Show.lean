import QuerySieve.Data.Basic
import QuerySieve.Number.Shortest
import QuerySieve.Text.Integer
import QuerySieve.Text.Quoted

/-!
# Data/Show — the text of a value

`shown` is the text of a value inside a message, with quotes around texts; `plain` is the same but for
a text, which is then itself. The words for nothing, true and false are capitalised, and dates are
shown as calls with their parts.

Not every value has a text. A whole number may have `Text.maxDigits` digits at most, here as where it is
read, and `room` bounds how many values may lie inside one another. How much room there is depends on
what else is going on, so nothing is said of it here.
-/

namespace QuerySieve

/-- The name and the arguments of something that is made by a call. -/
def calledWith (name : String) (arguments : List String) : String :=
  name ++ "(" ++ String.intercalate ", " arguments ++ ")"

/-- The distance from universal time in minutes. A distance back is a whole day back and the rest of
the day forth. -/
def zoneShown (minutes : Int) : String :=
  let seconds (n : Nat) : String := "seconds=" ++ toString n
  if minutes = 0 then "datetime.timezone.utc"
  else
    let parts := if 0 < minutes then [seconds (60 * minutes.natAbs)]
      else ["days=-1", seconds (86400 - 60 * minutes.natAbs)]
    calledWith "datetime.timezone" [calledWith "datetime.timedelta" parts]

/-- The numbers of a date and a time of day; of second and fraction only what is needed. -/
def Moment.numbers (m : Moment) : List Nat :=
  [m.year, m.month, m.day, m.hour, m.minute] ++
    if m.micro != 0 then [m.second, m.micro] else if m.second != 0 then [m.second] else []

/-- The moment as a call with its parts. -/
def Moment.shown (m : Moment) : String :=
  calledWith "datetime.datetime"
    (m.numbers.map toString ++ (m.offset.map fun o => "tzinfo=" ++ zoneShown o).toList)

/-- **The text of a scalar**, quotes around names included. -/
def Key.shown : Key → String
  | .name s => Text.quoted s
  | .null => "None"
  | .bool b => if b then "True" else "False"
  | .int n => toString n
  | .float x => x.text
  | .date year month day => calledWith "datetime.date" ([year, month, day].map toString)
  | .moment m => m.shown
  | .bytes content => Text.quotedBytes content

/-- Why a value is not shown. -/
inductive ShowFault where
  /-- A whole number has too many digits. -/
  | tooLong
  /-- Values lie too deep inside one another. -/
  | tooDeep
  /-- The value comes from elsewhere, and has its own reasons. -/
  | refused
  deriving DecidableEq, Repr

/-- The scalar is no whole number of too many digits. -/
def Key.isWritable : Key → Bool
  | .int n => (Nat.toDigits 10 n.natAbs).length ≤ Text.maxDigits
  | _ => true

/-- The text of a scalar, where there is room for one more value. -/
def Key.spell (room : Nat) (key : Key) : Except ShowFault String :=
  if room = 0 then .error .tooDeep
  else if key.isWritable then .ok key.shown
  else .error .tooLong

namespace Data

mutual

/-- **The text of a value as it was given**, quotes included. What has no text is found from left to
right. -/
def shown (room : Nat) : Data → Except ShowFault String
  | .null => Key.null.spell room
  | .bool b => (Key.bool b).spell room
  | .int n => (Key.int n).spell room
  | .float x => (Key.float x).spell room
  | .text s => (Key.name s).spell room
  | .date year month day => (Key.date year month day).spell room
  | .moment m => (Key.moment m).spell room
  | .bytes content => (Key.bytes content).spell room
  | .list items =>
    if room = 0 then .error .tooDeep
    else do
      let texts ← shownItems (room - 1) items
      .ok ("[" ++ String.intercalate ", " texts ++ "]")
  | .record fields =>
    if room = 0 then .error .tooDeep
    else do
      let texts ← shownFields (room - 1) fields
      .ok ("\x7b" ++ String.intercalate ", " texts ++ "\x7d")

/-- The texts of the items of a list. -/
def shownItems (room : Nat) : List Data → Except ShowFault (List String)
  | [] => .ok []
  | item :: items => do
    let text ← shown room item
    let texts ← shownItems room items
    .ok (text :: texts)

/-- The texts of the fields of a record. -/
def shownFields (room : Nat) : List (Key × Data) → Except ShowFault (List String)
  | [] => .ok []
  | (key, value) :: fields => do
    let name ← key.spell room
    let text ← shown room value
    let texts ← shownFields room fields
    .ok ((name ++ ": " ++ text) :: texts)

end

/-- **The text of a value**: a text is itself, and takes no room. -/
def plain (room : Nat) : Data → Except ShowFault String
  | .text s => .ok s
  | d => if room = 0 then .error .tooDeep else d.shown (room - 1)

end Data

end QuerySieve
