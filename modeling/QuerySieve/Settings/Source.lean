import QuerySieve.Data.Merge
import QuerySieve.Text.Blank
import QuerySieve.Text.Case
import QuerySieve.Text.Substring

/-!
# Settings/Source — where settings come from

Settings are read from a file, from variables of the environment and from the arguments of a command,
and each source is laid over the ones before it. Variables and arguments can only speak of a few
settings: each `Setting` has a place in the record, the end of a variable's name, and the names of
arguments. What nobody speaks of is left to the file.
-/

namespace QuerySieve

/-- A setting that variables and arguments can speak of. -/
inductive Setting where
  | included
  | excluded
  | feature
  | verbose
  | debug
  | level
  deriving DecidableEq, Repr

namespace Setting

/-- The settings, in the order in which variables are looked up. -/
def all : List Setting := [included, excluded, feature, verbose, debug, level]

/-- The inner record that a setting stands in, if it does not stand outside. -/
def inner? : Setting → Option String
  | included => some "filters"
  | excluded => some "filters"
  | feature => some "filters"
  | _ => none

/-- The name of the field. -/
def field : Setting → String
  | included => "include_keywords"
  | excluded => "exclude_keywords"
  | feature => "feature"
  | verbose => "verbose"
  | debug => "debug"
  | level => "log_level"

/-- The end of the variable's name. -/
def variableEnd : Setting → String
  | included => "INCLUDE_KEYWORDS"
  | excluded => "EXCLUDE_KEYWORDS"
  | feature => "FEATURE"
  | verbose => "VERBOSE"
  | debug => "DEBUG"
  | level => "LOG_LEVEL"

/-- The setting that an argument speaks of. The lists of keywords have a short name as well. -/
def ofArgument? (name : String) : Option Setting :=
  match name with
  | "include" => some included
  | "exclude" => some excluded
  | _ => all.find? (·.field == name)

/-- **The record with one setting in its place.** -/
def put (s : Setting) (fields : Fields) (value : Data) : Fields :=
  match s.inner? with
  | none => Fields.put fields (.name s.field) value
  | some name =>
    let inner := match Fields.named? fields name with
      | some (.record inner) => inner
      | _ => []
    Fields.put fields (.name name) (.record (Fields.put inner (.name s.field) value))

end Setting

namespace Settings

/-! ## Words for values -/

/-- The words that switch something on, in small letters. -/
def switchWords : List String := ["true", "1", "yes", "on", "enabled"]

/-- **Whether a text switches something on.** Blanks around a word are not passed over. -/
def switchOfText (s : String) : Bool := switchWords.contains (Text.lowerString s)

/-- Whether a value switches something on; what is no text does so if it counts as true. -/
def switchOf : Data → Bool
  | .text s => switchOfText s
  | d => d.isTruthy

/-- **The items of a text**: what stands between its commas, without blanks around, unless nothing is
left. -/
def itemsOfText (s : String) : List String :=
  ((Text.splitOn ',' s.toList).map Text.trim).filter (fun cs => !cs.isEmpty) |>.map String.ofList

/-- The items that a value stands for; none if it is neither list nor text. -/
def itemsOf : Data → List Data
  | .list items => items
  | .text s => (itemsOfText s).map .text
  | _ => []

/-! ## Variables and arguments -/

/-- What the text of a variable stands for. -/
def ofVariable (s : Setting) (text : String) : Data :=
  match s with
  | .included => .ofTexts (itemsOfText text)
  | .excluded => .ofTexts (itemsOfText text)
  | .verbose => .bool (switchOfText text)
  | .debug => .bool (switchOfText text)
  | .feature => .text text
  | .level => .text text

/-- **What the variables say** whose names begin as given. -/
def ofVariables (start : String) (lookup : String → Option String) : Fields :=
  Setting.all.foldl (fun fields s =>
    match lookup (start ++ s.variableEnd) with
    | some text => s.put fields (ofVariable s text)
    | none => fields) []

/-- **What the arguments say**: the last one that says something about a setting counts. -/
def ofArguments (arguments : List (String × Data)) : Fields :=
  arguments.foldl (fun fields (name, value) =>
    match Setting.ofArgument? name, value with
    | _, .null => fields
    | some s, value => s.put fields value
    | none, _ => fields) []

/-- **The three sources as one record**, each laid over the ones before it. -/
def combine (file environment arguments : Fields) : Fields :=
  Fields.override (Fields.override file environment) arguments

end Settings

end QuerySieve
