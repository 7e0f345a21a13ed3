import QuerySieve.Data.Show

/-!
# Feature — what groups keyword filters together

Filters with the same feature are alternatives; different features are separate requirements. The
features that a search page hands out form the type `Feature`, but a caller may use any value of its
own: a `Mark`. A list may be attached to a filter as well, yet nothing can be grouped by it. Among marks
a truth value is the same as the number 1 or 0, while a feature of the page is never the same as its own
name.

Of a mark that is none of these — a pair, a moment, a name from another list — two things are known:
the slot that it stands under, which it shares with all marks that it is the same as, and what is shown
for it. What is shown need not be a text, and there may be nothing at all to show.
-/

namespace QuerySieve

/-- A feature that the search page assigns. -/
inductive Feature where
  | searchSource
  | fileExtension
  | fileName
  | manualEntry
  deriving DecidableEq, Repr

namespace Feature

/-- All features, in the order in which they are listed. -/
def all : List Feature := [searchSource, fileExtension, fileName, manualEntry]

/-- The name of a feature in settings and reports. -/
def name : Feature → String
  | searchSource => "search_source"
  | fileExtension => "file_extension"
  | fileName => "file_name"
  | manualEntry => "manual_entry"

/-- The feature with the name. -/
def ofName? (s : String) : Option Feature := all.find? (·.name == s)

theorem ofName?_name (f : Feature) : ofName? f.name = some f := by cases f <;> decide

end Feature

/-- **A place that a group can stand under**: the marks that can be compared, each with all others
that are the same as it. -/
inductive Slot where
  | ungrouped
  | feature (f : Feature)
  | text (s : String)
  | int (n : Int)
  /-- The other values that are the same as a certain one, by its number. -/
  | other (n : Nat)
  deriving DecidableEq, Repr

/-- What a filter is grouped by. -/
inductive Mark where
  | feature (f : Feature)
  | text (s : String)
  | int (n : Int)
  | bool (b : Bool)
  | list (items : List Data)
  /-- Any other value, with its slot, if it can be compared, and with what is shown for it. -/
  | other (slot : Option Slot) (label : Option Data)
  deriving Repr

namespace Mark

/-- The slot of a filter with this mark, or without one; nothing for what cannot be compared. -/
def slot? : Option Mark → Option Slot
  | none => some .ungrouped
  | some (feature f) => some (.feature f)
  | some (text s) => some (.text s)
  | some (int n) => some (.int n)
  | some (bool b) => some (.int (if b then 1 else 0))
  | some (list _) => none
  | some (other slot _) => slot

/-- **What is shown for a mark.** The marks of the caller's own that are plain values are put into
words. -/
def label (room : Nat) : Mark → Except ShowFault Data
  | feature f => .ok (.text f.name)
  | text s => .ok (.text s)
  | int n => ((Data.int n).plain room).map .text
  | bool b => ((Data.bool b).plain room).map .text
  | list items => ((Data.list items).plain room).map .text
  | other _ none => .error .refused
  | other _ (some d) => .ok d

/-- What is shown where there may be no mark. -/
def labelOf (room : Nat) : Option Mark → Except ShowFault Data
  | none => .ok .null
  | some m => m.label room

end Mark

end QuerySieve
