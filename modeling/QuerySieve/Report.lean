import QuerySieve.FileTree
import QuerySieve.Settings.Violation

/-!
# Report — a failure told to the user

A report says what failed, under a code and with suggestions what to do about it. `addSuggestion` puts
a suggestion in and sorts by urgency, equally urgent ones staying in the order in which they came; the
suggestions that a report is made with stay unsorted until then. Reports on settings and on input
carry a suggestion of their own for some codes.
-/

namespace QuerySieve

/-- What a report is about. -/
inductive Area where
  | general
  | settings
  | input
  deriving DecidableEq, Repr

/-- What kind of failure is reported. -/
inductive Code where
  | settingsFormat
  | settingsValue
  | settingsMissing
  | settingsSchema
  | inputRefused
  | fieldMissing
  | fieldKind
  | inputFormat
  | unknown
  deriving DecidableEq, Repr

namespace Code

/-- All codes. -/
def all : List Code := [settingsFormat, settingsValue, settingsMissing, settingsSchema, inputRefused,
  fieldMissing, fieldKind, inputFormat, unknown]

/-- The number of a code: the thousands tell the area. -/
def number : Code → Nat
  | settingsFormat => 3001
  | settingsValue => 3003
  | settingsMissing => 3004
  | settingsSchema => 3006
  | inputRefused => 5001
  | fieldMissing => 5002
  | fieldKind => 5003
  | inputFormat => 5005
  | unknown => 9000

end Code

/-- What a user may do about a failure; a lower priority is more urgent. -/
structure Suggestion where
  action : String
  description : String
  command : Option String
  priority : Int
  deriving DecidableEq, Repr

/-- The named thing that a failure is about, and what it holds. -/
structure Subject where
  name : String
  holds : Data

/-- The circumstances of a failure. -/
structure Circumstances where
  operation : String
  filePath : Option String
  /-- An identifier given from outside. -/
  correlation : Option String
  /-- What is known about the system. -/
  system : Fields
  /-- What is known about the subject. -/
  facts : Fields

mutual

/-- The failure beneath a failure. -/
inductive Cause where
  /-- A value is not among those that are possible. -/
  | value (text : String)
  /-- A value is of the wrong kind. -/
  | kind (text : String)
  /-- A key is not there. -/
  | key (name : String)
  /-- The system refused something. -/
  | system (text : String)
  | malformedYaml
  | malformedJson
  | undecodable
  /-- A place leads nowhere, or not to a file. -/
  | unreachable (fault : PathFault)
  /-- A value cannot become settings. -/
  | unfit (violations : List Violation)
  /-- Another report. -/
  | report (r : Report)

/-- A failure told to the user. If the report quotes its cause, the cause in words ends the message. -/
structure Report where
  area : Area
  code : Code
  lead : String
  quotesCause : Bool
  circumstances : Circumstances
  cause : Option Cause
  suggestions : List Suggestion

end

/-- **The cause in words.** Those of a report are its message. -/
def Cause.text : Cause → String
  | value s => s
  | kind s => s
  | key name => Text.quoted name
  | system s => s
  | malformedYaml => "the text is not well formed"
  | malformedJson => "the text is not one well-formed value"
  | undecodable => "the bytes are no text"
  | unreachable fault => fault.words
  | unfit violations =>
    String.intercalate "; " (violations.map fun v => v.problem.message)
  | report ⟨_, _, lead, true, _, some cause, _⟩ => lead ++ text cause
  | report ⟨_, _, lead, _, _, _, _⟩ => lead

namespace Area

/-- The name of the reports of an area. -/
def name : Area → String
  | general => "SearchFilterError"
  | settings => "ConfigurationError"
  | input => "ValidationError"

/-- The code of a report that is given none. -/
def defaultCode : Area → Code
  | general => .unknown
  | settings => .settingsFormat
  | input => .inputRefused

/-- The names under which the reports of an area note their subject and what it holds. -/
def factNames? : Area → Option (String × String)
  | general => none
  | settings => some ("config_key", "config_value")
  | input => some ("field_name", "field_value")

/-- **The suggestion that a report carries by itself.** -/
def advice? (area : Area) (code : Code) (subject : Option Subject) : Option Suggestion :=
  match area, code with
  | settings, .settingsMissing => some ⟨"Create configuration file",
      "Create a configuration file using the default template.",
      some "searchfilter config init", 1⟩
  | settings, .settingsValue => some check
  | settings, .settingsSchema => some check
  | input, .fieldMissing =>
    let name := match subject with
      | some s => if s.name.isEmpty then "required" else s.name
      | none => "required"
    some ⟨"Provide the missing field", "Every search result needs a '" ++ name ++ "' value.",
      none, 1⟩
  | _, _ => none
where
  /-- The suggestion for values that are out of bounds. -/
  check : Suggestion := ⟨"Check configuration values",
    "Review the configuration file for invalid values and correct them.", none, 1⟩

end Area

namespace Circumstances

/-- Nothing is known. -/
def unknown : Circumstances := ⟨"", none, none, [], []⟩

/-- The circumstances with what the reports of an area note about their subject, unless it has no
name. -/
def noting (c : Circumstances) (area : Area) (subject : Option Subject) : Circumstances :=
  match area.factNames?, subject with
  | some (nameKey, valueKey), some s =>
    if s.name.isEmpty then c
    else
      let named := Fields.put c.facts (.name nameKey) (.text s.name)
      { c with facts := Fields.put named (.name valueKey) s.holds }
  | _, _ => c

end Circumstances

namespace Suggestion

/-- The suggestion is at least as urgent as the other. -/
def precedes (a b : Suggestion) : Bool := a.priority ≤ b.priority

/-- The suggestions by urgency, equally urgent ones in their order. -/
def sort (suggestions : List Suggestion) : List Suggestion := suggestions.mergeSort precedes

end Suggestion

namespace Report

/-- **The report with one more suggestion**, all of them by urgency. -/
def addSuggestion (r : Report) (s : Suggestion) : Report :=
  { r with suggestions := Suggestion.sort (r.suggestions ++ [s]) }

/-- The report with the suggestion that reports of its area carry for its code. -/
def advised (r : Report) (subject : Option Subject) : Report :=
  match r.area.advice? r.code subject with
  | some s => r.addSuggestion s
  | none => r

/-- A report on a subject, with suggestions given from outside. -/
def make (area : Area) (code : Code) (lead : String) (subject : Option Subject)
    (circumstances : Circumstances) (cause : Option Cause) (suggestions : List Suggestion) : Report :=
  advised ⟨area, code, lead, false, circumstances.noting area subject, cause, suggestions⟩ subject

/-- The report with its cause at the end of its message. -/
def quoting (r : Report) : Report := { r with quotesCause := true }

/-- The message of a report with causes in the given words. -/
def messageIn (words : Cause → String) (r : Report) : String :=
  match r.quotesCause, r.cause with
  | true, some cause => r.lead ++ words cause
  | _, _ => r.lead

/-- **The message of a report.** -/
def message (r : Report) : String := r.messageIn Cause.text

/-- The identifier of a report: the one given from outside, unless it is empty. -/
def identifier (r : Report) (generated : String) : String :=
  match r.circumstances.correlation with
  | some id => if id.isEmpty then generated else id
  | none => generated

/-- The lines that tell the user of a suggestion with a number. -/
def suggestionLines (s : Suggestion) (number : Nat) : List String :=
  [s!"  {number}. " ++ s.action, "     " ++ s.description] ++
    match s.command with
    | some command => if command.isEmpty then [] else ["     Command: " ++ command]
    | none => []

/-- How many suggestions the user is told. -/
def shownSuggestions : Nat := 3

/-- **What the user is told**: the message, the code unless it is unknown, the identifier, and the
first suggestions. -/
def userMessage (r : Report) (generated : String) : String :=
  let id := r.identifier generated
  let lines := ["Error: " ++ r.message] ++
    (if r.code = .unknown then [] else [s!"Error Code: {r.code.number}"]) ++
    (if id.isEmpty then [] else ["Correlation ID: " ++ id]) ++
    (if r.suggestions.isEmpty then []
     else "\nSuggested solutions:" ::
       ((r.suggestions.take shownSuggestions).zipIdx 1).flatMap fun (s, n) => suggestionLines s n)
  String.intercalate "\n" lines

/-- A suggestion as a value. -/
def suggestionData (s : Suggestion) : Data :=
  .ofFields [("action", .text s.action), ("description", .text s.description),
    ("command", s.command.elim .null .text), ("priority", .int s.priority)]

/-- **Everything there is to know about a report**, for those who look for its origin. Kinds of causes
are named by the caller. -/
def details (kindOf : Cause → String) (r : Report) (generated : String) : Data :=
  let c := r.circumstances
  .ofFields [
    ("error_type", .text r.area.name),
    ("message", .text r.message),
    ("error_code", .int r.code.number),
    ("context", .ofFields [
      ("operation", .text c.operation),
      ("file_path", c.filePath.elim .null .text),
      ("correlation_id", .text (r.identifier generated)),
      ("system_info", .record c.system),
      ("user_context", .record c.facts)]),
    ("cause", .ofFields [
      ("type", r.cause.elim .null fun x => .text (kindOf x)),
      ("message", r.cause.elim .null fun x => .text x.text)]),
    ("suggestions", .list (r.suggestions.map suggestionData))]

end Report

end QuerySieve
