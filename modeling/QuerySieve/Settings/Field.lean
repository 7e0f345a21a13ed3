import QuerySieve.Moment.Count
import QuerySieve.Number.Word64
import QuerySieve.Query.Token
import QuerySieve.Settings.Basic
import QuerySieve.Settings.Violation

/-!
# Settings/Field — what a single field of the settings may hold

Each field has a reader of its own, from a value to what the field holds or to what is wrong with the
value. Texts, lists and records are never taken for one another; truth values may be written as
numbers or words, and moments as texts or as counts of seconds.
-/

namespace QuerySieve

/-- A value that has been looked at: what it stands for, or everything that is wrong with it. -/
abbrev Checked (α : Type) := Except (List Violation) α

namespace Checked

/-- A value in which nothing is wrong. -/
def accept {α : Type} (a : α) : Checked α := .ok a

/-- The one problem of a value as a whole. -/
def refuse {α : Type} (p : Problem) : Checked α := .error [⟨[], p⟩]

/-- The violations. -/
def violations {α : Type} : Checked α → List Violation
  | .ok _ => []
  | .error vs => vs

/-- The value one step further out. -/
def under {α : Type} (step : Step) (c : Checked α) : Checked α :=
  c.mapError (List.map (Violation.under step))

/-- **Two values at once**: what is wrong with the first, and then what is wrong with the second. -/
def also {α β : Type} (f : Checked (α → β)) (a : Checked α) : Checked β :=
  match f, a with
  | .ok f, .ok a => .ok (f a)
  | f, a => .error (f.violations ++ a.violations)

/-- The value, unless something else is wrong as well. -/
def refusing {α : Type} (more : List Violation) (a : Checked α) : Checked α :=
  if more.isEmpty then a else .error (a.violations ++ more)

end Checked

namespace Settings

/-- The text that bytes are. -/
def textOfBytes? (content : List UInt8) : Option String := String.fromUTF8? ⟨content.toArray⟩

/-- **A text**, or the bytes of one. -/
def readText : Data → Checked String
  | .text s => .ok s
  | .bytes content =>
    match textOfBytes? content with
    | some s => .ok s
    | none => .refuse .undecodableText
  | _ => .refuse .notText

/-- The words for the two truth values, in small letters. -/
def truthWords : List (String × Bool) :=
  ["0", "off", "f", "false", "n", "no"].map (·, false) ++
    ["1", "on", "t", "true", "y", "yes"].map (·, true)

/-- A word for a truth value. -/
def readTruthWord (s : String) : Checked Bool :=
  match truthWords.lookup (String.ofList (s.toList.map Char.toLower)) with
  | some b => .ok b
  | none => .refuse .unclearTruth

/-- **A truth value**, or one of the numbers and words for one. Words may be in any plain case; a whole
number that does not fit into 64 bits is of the wrong kind. -/
def readTruth : Data → Checked Bool
  | .bool b => .ok b
  | .int n =>
    if n = 0 then .ok false else if n = 1 then .ok true
    else if Word64.holds n then .refuse .unclearTruth else .refuse .notTruth
  | .float x =>
    if x.isInt 0 then .ok false else if x.isInt 1 then .ok true else .refuse .notTruth
  | .text s => readTruthWord s
  | .bytes content => (textOfBytes? content).elim (.refuse .unclearTruth) readTruthWord
  | _ => .refuse .notTruth

/-- The moment, unless there is none or it lies in the year zero. -/
def momentInRange : Option Moment → Checked Moment
  | some m => if m.year = 0 then .refuse .momentOutOfRange else .ok m
  | none => .refuse .momentOutOfRange

/-- A moment that is written. -/
def readMomentText (s : String) : Checked Moment :=
  match Moment.read? s with
  | some m => momentInRange (some m)
  | none => .refuse .unreadableMoment

/-- **A moment**, the text of one, or a count of seconds. A whole number that no floating-point number
comes near is none of these. -/
def readMoment : Data → Checked Moment
  | .date year month day => .ok (Moment.midnight year month day)
  | .moment m => .ok m
  | .text s => readMomentText s
  | .bytes content => (textOfBytes? content).elim (.refuse .unreadableMoment) readMomentText
  | .int n =>
    match Binary64.ofInt n with
    | .infinite _ => .refuse .notMoment
    | _ => momentInRange (Moment.ofCount? n)
  | .float x => momentInRange (Moment.ofNumber? x)
  | _ => .refuse .notMoment

/-- One of the five severities by name, in any case. -/
def readLevel (d : Data) : Checked Severity := do
  match Severity.ofName? (← readText d) with
  | some level => .ok level
  | none => .refuse .unknownLevel

end Settings

namespace FilterSettings

/-- **A keyword as tokens have it**: in small letters, without blanks at its ends. It must not be
empty, and nothing in it may end the word of a token. -/
def normalKeyword (keyword : String) : Except Problem String :=
  let small := Text.lowerString (Text.trimString keyword)
  if small.isEmpty then .error .emptyKeyword
  else if small.toList.all Token.isWordChar then .ok small
  else .error (.brokenKeyword keyword)

/-- The texts of a list from the place `index` on, or what is wrong with the items that are none. -/
def readTexts (index : Nat) : List Data → Checked (List String)
  | [] => .ok []
  | item :: items =>
    ((Checked.accept List.cons).also ((Settings.readText item).under (.item index))).also
      (readTexts (index + 1) items)

/-- **A list of keywords.** If all items are texts, the first keyword that is refused stands for the
whole list. -/
def readKeywords : Data → Checked (List String)
  | .list items => do
    match (← readTexts 0 items).mapM normalKeyword with
    | .ok keywords => .ok keywords
    | .error p => .refuse p
  | _ => .refuse .notList

/-- A feature by its name, or none. -/
def readFeature : Data → Checked (Option Feature)
  | .null => .ok none
  | .text s =>
    match Feature.ofName? s with
    | some f => .ok (some f)
    | none => .refuse .unknownFeature
  | _ => .refuse .unknownFeature

end FilterSettings

end QuerySieve
