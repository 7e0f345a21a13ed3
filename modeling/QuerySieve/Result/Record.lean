import QuerySieve.Failure
import QuerySieve.Result.Basic
import QuerySieve.Text.Integer

/-!
# Result/Record — search results from records

`Result.ofData` makes a result of a record as it stands in a file. Names may be written with underscores
or with capitals inside; a record that has the field `filename` leads to a file. The first thing that
is wrong with a record is reported. A value that stands where a text is wanted is shown instead, and
ends the reading if it cannot be.
-/

namespace QuerySieve.Result

/-- A report on a record. -/
def refusal (code : Code) (lead : String) (subject : Option String) (cause : Option Cause) :
    Failure :=
  .report (Report.make .input code lead (subject.map fun name => ⟨name, .null⟩) .unknown cause [])

/-- The first value that counts as true, if there is one. -/
def firstTruthy : List (Option Data) → Option Data
  | [] => none
  | some d :: ds => if d.isTruthy then some d else firstTruthy ds
  | none :: ds => firstTruthy ds

/-- The text of a field that may be left out or hold nothing, and must be a text otherwise. -/
def optionalText (name : String) (d : Option Data) : Except Failure (Option String) :=
  match d with
  | none => .ok none
  | some .null => .ok none
  | some (.text s) => .ok (some s)
  | some d => .error (refusal .fieldKind
      (s!"Search result '{name}' must be a string, got " ++ d.kindName) (some name) none)

/-- The text of a value, or the failure to show it. -/
def shownText (text : Except ShowFault String) : Except Failure String :=
  text.mapError fun fault => .breakdown (.ofShowing fault)

/-- The report on a size that is no whole number. -/
def sizeRefusal (room : Nat) (d : Data) (cause : Cause) : Except Failure Int := do
  let s ← shownText (d.shown room)
  .error (refusal .fieldKind ("Search result 'size' must be an integer, got " ++ s) (some "size")
    (some cause))

/-- **The size that a value stands for**: nothing and empty count as zero, a fraction is cut off, a
text must write a whole number. -/
def sizeOf (room : Nat) (d : Option Data) : Except Failure Int :=
  match firstTruthy [d] with
  | none => .ok 0
  | some (.int n) => .ok n
  | some (.bool b) => .ok (if b then 1 else 0)
  | some (.float (.finite negative m q)) => .ok (Binary64.truncate negative m q)
  | some (.float (.infinite _)) => .error (.breakdown .infinite)
  | some (.float .nan) => sizeRefusal room (.float .nan) (.value "not a number")
  | some (.text s) =>
    match Text.readInteger? s with
    | some n => .ok n
    | none => sizeRefusal room (.text s) (.value "not a whole number")
  | some d => sizeRefusal room d (.kind "not a number")

/-- The text of the first of some values that counts as true; empty if none does. -/
def textOf (room : Nat) (ds : List (Option Data)) : Except Failure String :=
  match firstTruthy ds with
  | none => .ok ""
  | some d => shownText (d.plain room)

/-- The file that a record leads to. -/
def fileOf (room : Nat) (fields : Fields) : Except Failure (Option FileEntry) :=
  match Fields.named? fields "filename" with
  | none => .ok none
  | some name => do
    let size ← sizeOf room (Fields.named? fields "size")
    let name ← textOf room [some name]
    .ok (some ⟨name, size⟩)

/-- The licence's name in a record, given by itself or as the name of a record of its own. -/
def licenseField (fields : Fields) : Option Data :=
  match Fields.named? fields "license" with
  | some (.record inner) => Fields.named? inner "name"
  | d => d

/-- The result of a record. -/
def ofFields (room : Nat) (fields : Fields) : Except Failure Result :=
  let named := Fields.named? fields
  match firstTruthy [named "display_name", named "displayName"] with
  | none => .error (refusal .fieldMissing "Search result is missing 'display_name'"
      (some "display_name") none)
  | some displayName => do
    let displayName ← textOf room [some displayName]
    let detailsUrl ← textOf room [named "details_url", named "detailsUrl"]
    let thumbnailUrl ← optionalText "thumbnail_url"
      (match named "thumbnail_url" with | some d => some d | none => named "thumbnailUrl")
    let source ← optionalText "source" (named "source")
    let license ← optionalText "license" (licenseField fields)
    let file ← fileOf room fields
    .ok ⟨displayName, detailsUrl, thumbnailUrl, source, License.byName license, file⟩

/-- **The result of a value**, which must be a record; `room` bounds how many values may lie inside one
another where one of them is shown. -/
def ofData (room : Nat) : Data → Except Failure Result
  | .record fields => ofFields room fields
  | d => .error (refusal .fieldKind ("Search result must be an object, got " ++ d.kindName) none none)

end QuerySieve.Result
