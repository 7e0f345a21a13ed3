import QuerySieve.Failure
import QuerySieve.Json.Reader
import QuerySieve.Settings.Record
import QuerySieve.Settings.Source
import QuerySieve.World
import QuerySieve.Yaml.Reader

/-!
# Settings/Loader — finding, reading and keeping settings

A loader reads one file of settings: the one it was given, or else the first of its candidates that is
a file. What the file says is joined with what the environment and the arguments say, and made into
settings. The loader keeps the settings that were loaded last; a loading that fails changes nothing.
-/

namespace QuerySieve

/-- Where settings are looked for, and those that were loaded last. -/
structure Loader where
  file : Option Place
  candidates : List Place
  current : Option Settings

namespace Loader

/-- The places where settings are looked for when no file is given, with a user's own folder. -/
def usualPlaces (w : World) (home : Place) : List Place :=
  let here := ["searchfilter.yaml", "searchfilter.yml", ".searchfilter.yaml", ".searchfilter.yml"]
  let common : List String := ["searchfilter", "config.yaml"]
  here.map (fun name => w.current.below ⟨0, [name]⟩) ++
    [home.below ⟨0, [".searchfilter", "config.yaml"]⟩, home.below ⟨0, ".config" :: common⟩] ++
    match w.valueOf? "XDG_CONFIG_HOME" with
    | some s => if s.isEmpty then [] else [(Place.ofText s).below ⟨0, common⟩]
    | none => []

/-- **A loader for a file**, or for the usual places if none is named. The user's own folder must be
known in either case. -/
def start (w : World) (file : Option String) : Except Failure Loader :=
  match w.home? with
  | none => .error (.breakdown .homeless)
  | some home =>
    .ok ⟨file.bind fun s => if s.isEmpty then none else some (Place.ofText s), usualPlaces w home, none⟩

/-! ## The file -/

/-- A report on settings. -/
def refusal (code : Code) (lead : String) (cause : Option Cause) : Report :=
  Report.make .settings code lead none .unknown cause []

/-- The report on a file that is not there. -/
def missing (p : Place) : Report :=
  Report.make .settings .settingsMissing ("Config file not found: " ++ p.text)
    (some ⟨"config_file", .text p.text⟩) .unknown none []

/-- The report on a file that cannot be read. -/
def unreadable (p : Place) (cause : Cause) : Failure :=
  .report (refusal .settingsFormat ("Failed to load config file " ++ p.text ++ ": ")
    (some cause)).quoting

/-- The first of some places where there is a file. -/
def firstFile (w : World) : List Place → Except Failure (Option Place)
  | [] => .ok none
  | p :: ps =>
    match w.holds p with
    | .error fault => .error (.breakdown (.unreachable fault))
    | .ok there => if there && w.holdsFile p then .ok (some p) else firstFile w ps

/-- **The file that counts**, if there is one. A file that was named must be there. -/
def chosen (l : Loader) (w : World) : Except Failure (Option Place) :=
  match l.file with
  | none => firstFile w l.candidates
  | some p =>
    match w.holds p with
    | .error fault => .error (.breakdown (.unreachable fault))
    | .ok true => .ok (some p)
    | .ok false => .error (.report (missing p))

/-- The value, or an empty record for one that counts as false. -/
def orEmpty (d : Data) : Data := if d.isTruthy then d else .record []

/-- The value of a text in the object notation. -/
def readJson (limits : Limits) (p : Place) (s : String) : Except Failure Data :=
  match Json.read (limits.json s) s with
  | .ok d => .ok d
  | .error .malformed => .error (unreadable p .malformedJson)
  | .error .tooLong => .error (.breakdown .tooManyDigits)
  | .error .tooDeep => .error (.breakdown .tooDeep)

/-- The value of a text in the indented notation, or of a second reading if it is not in it. -/
def readYaml (limits : Limits) (s : String) (otherwise : Except Failure Data) :
    Except Failure Data :=
  match Yaml.read (limits.yaml s) s with
  | .ok d => .ok (orEmpty d)
  | .error .malformed => otherwise
  | .error fault => .error (.breakdown (.meaningless fault))

/-- The ending of the place asks for the indented notation. -/
def IsYaml (p : Place) : Prop := p.ending = ".yaml" ∨ p.ending = ".yml"

instance (p : Place) : Decidable (IsYaml p) := inferInstanceAs (Decidable (_ ∨ _))

/-- **The value of a text.** The ending of its place tells the notation; under any other ending both are
tried. -/
def readText (limits : Limits) (p : Place) (s : String) : Except Failure Data :=
  if IsYaml p then readYaml limits s (.error (unreadable p .malformedYaml))
  else if p.ending = ".json" then readJson limits p s
  else readYaml limits s (readJson limits p s)

/-- All of the bytes are a text of the indented notation, as far as single characters tell. -/
def isLegible (content : ByteArray) : Bool :=
  (FileTree.decode? content).any fun s => s.toList.all Yaml.isAllowed

/-- The fault that is found in a file before it is known that not all of it is legible. Only a file in
the indented notation is read while it arrives. -/
def earlyFault? (limits : Limits) (p : Place) (content : ByteArray) : Option Yaml.Fault :=
  if IsYaml p ∧ ¬ isLegible content then limits.early content else none

/-- **The value in the bytes of a file.** -/
def readContent (limits : Limits) (p : Place) (content : ByteArray) : Except Failure Data :=
  match earlyFault? limits p content with
  | some .malformed => .error (unreadable p .malformedYaml)
  | some fault => .error (.breakdown (.meaningless fault))
  | none =>
    match FileTree.decode? content with
    | none => .error (.breakdown .undecodable)
    | some s => readText limits p s

/-- The fields of the record in a file. -/
def readFile (w : World) (p : Place) : Except Failure Fields :=
  match w.read p with
  | .error fault => .error (unreadable p (.unreachable fault))
  | .ok content => do
    match ← readContent w.limits p content with
    | .record fields => .ok fields
    | _ => .error (.report (refusal .settingsFormat
        ("Config file " ++ p.text ++ " must contain a mapping") none))

/-- **What the file says**; nothing if there is none. -/
def fileFields (l : Loader) (w : World) : Except Failure Fields := do
  match ← l.chosen w with
  | some p => readFile w p
  | none => .ok []

/-! ## Loading -/

/-- The settings that fields make. All keys must be names. -/
def validate (fields : Fields) : Except Failure Settings :=
  if fields.all fun (key, _) => key.isName then
    match Settings.ofFields fields with
    | .ok s => .ok s
    | .error vs => .error (.report (refusal .settingsSchema "Configuration validation failed: "
        (some (.unfit vs))).quoting)
  else .error (.breakdown .unnamedKey)

/-- **The settings of a world**, with what the arguments say and the variables whose names begin as
given. -/
def outcome (l : Loader) (w : World) (start : String) (arguments : List (String × Data)) :
    Except Failure Settings := do
  let file ← l.fileFields w
  validate (Settings.combine file (Settings.ofVariables start w.valueOf?)
    (Settings.ofArguments arguments))

/-- The loader after a loading. -/
def keeping (l : Loader) : Except Failure Settings → Loader
  | .ok s => { l with current := some s }
  | .error _ => l

/-- **Loads settings**, and keeps them if that succeeds. -/
def load (l : Loader) (w : World) (start : String) (arguments : List (String × Data)) :
    Except Failure Settings × Loader :=
  let result := l.outcome w start arguments
  (result, l.keeping result)

/-- The beginning of the names of variables, unless another one is wanted. -/
def usualStart : String := "SEARCHFILTER_"

end Loader

end QuerySieve
