import QuerySieve.Settings.Basic
import QuerySieve.Yaml.Writer

/-!
# Settings/Profile — settings to begin with

A profile is a set of settings for a purpose, and is written to a file that the user can change.
-/

namespace QuerySieve

/-- A purpose that settings are made for. -/
inductive Profile where
  | usual
  | documents
  | noVideo
  deriving DecidableEq, Repr

namespace Profile

/-- All profiles, in the order in which they are listed. -/
def all : List Profile := [usual, documents, noVideo]

/-- The name of a profile. -/
def name : Profile → String
  | usual => "default"
  | documents => "documents"
  | noVideo => "no-video"

/-- The profile with the name. -/
def ofName? (s : String) : Option Profile := all.find? (·.name == s)

/-- The settings of a profile. -/
def settings : Profile → Settings
  | usual => .unset
  | documents =>
    { Settings.unset with filters := ⟨["pdf", "epub", "txt"], [], some .fileExtension⟩ }
  | noVideo => { Settings.unset with filters := ⟨[], ["mp4", "mkv", "avi"], none⟩ }

/-- **The file of a profile**, written at the given time. -/
def page (now : Moment) (p : Profile) : String := Yaml.page (p.settings.toData now)

end Profile

end QuerySieve
