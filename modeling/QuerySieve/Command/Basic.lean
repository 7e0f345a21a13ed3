import QuerySieve.Command.Arguments
import QuerySieve.Place
import QuerySieve.Settings.Profile

/-!
# Command/Basic — what can be asked for

Commands come in two groups: `query` shows, cleans and applies the filters of a query, `config` writes
and shows settings. `Command.read` tells from the words of a command line what is wanted.
-/

namespace QuerySieve

/-- What is to be sifted, and how it is told. -/
structure Sifting where
  query : String
  results : Place
  /-- The file of settings, if one is named. -/
  settings : Option String
  included : List String
  excluded : List String
  asJson : Bool
  explain : Bool
  verbose : Bool
  debug : Bool

/-- What the options of sifting say about settings. -/
def Sifting.arguments (s : Sifting) : List (String × Data) :=
  let keywords (ks : List String) : Data := if ks.isEmpty then .null else .ofTexts ks
  let switch (b : Bool) : Data := if b then .bool true else .null
  [("include", keywords s.included), ("exclude", keywords s.excluded), ("verbose", switch s.verbose),
    ("debug", switch s.debug)]

/-- Something to do. -/
inductive Command where
  | version
  | parse (query : String) (asJson : Bool)
  | clean (query : String)
  | sift (s : Sifting)
  | create (output : Place) (profile : Profile) (force : Bool)
  | inspect (settings : Option String)
  | schema (output : Option Place)

/-- What a command line asks for. -/
inductive Wish where
  | run (c : Command)
  | help
  /-- The words make no command. -/
  | misuse

namespace Command

/-- An option without a value. -/
def switchForm (name : String) (letter : Option Char) : OptionForm := ⟨name, letter, false⟩

/-- An option with a value. -/
def valueForm (name : String) (letter : Option Char) : OptionForm := ⟨name, letter, true⟩

/-- Every command and every group tells about itself. -/
def helpForm : OptionForm := switchForm "help" (some 'h')

/-- A command with its options, and what it makes of them. -/
structure Shape where
  name : String
  forms : List OptionForm
  build : Arguments → Option Command

/-- What the words after the name of a command ask for. -/
def Shape.read (s : Shape) (words : List String) : Wish :=
  match Arguments.read (helpForm :: s.forms) true words with
  | none => .misuse
  | some a =>
    if a.has "help" then .help
    else
      match s.build a with
      | some c => .run c
      | none => .misuse

/-- The place that a word names, if files can have such a name. -/
def placeOf? (word : String) : Option Place :=
  if word.contains '\x00' then none else some (Place.ofText word)

/-- The commands on queries. -/
def queryShapes : List Shape := [
  ⟨"parse", [switchForm "json" none], fun a =>
    match a.rest with
    | [query] => some (.parse query (a.has "json"))
    | _ => none⟩,
  ⟨"clean", [], fun a =>
    match a.rest with
    | [query] => some (.clean query)
    | _ => none⟩,
  ⟨"filter", [valueForm "config" (some 'c'), valueForm "include" (some 'i'),
      valueForm "exclude" (some 'e'), switchForm "json" none, switchForm "explain" none,
      switchForm "verbose" (some 'v'), switchForm "debug" none], fun a =>
    match a.rest with
    | [query, results] => (placeOf? results).map fun results => .sift {
        query := query
        results := results
        settings := a.value? "config"
        included := a.values "include"
        excluded := a.values "exclude"
        asJson := a.has "json"
        explain := a.has "explain"
        verbose := a.has "verbose"
        debug := a.has "debug" }
    | _ => none⟩]

/-- Where settings are written unless a place is named. -/
def usualOutput : String := "searchfilter.yaml"

/-- The commands on settings. -/
def configShapes : List Shape := [
  ⟨"init", [valueForm "profile" (some 'p'), switchForm "force" (some 'f')], fun a => do
    let profile ← Profile.ofName? ((a.value? "profile").getD Profile.usual.name)
    match a.rest with
    | [] => some (.create (Place.ofText usualOutput) profile (a.has "force"))
    | [output] => (placeOf? output).map fun output => .create output profile (a.has "force")
    | _ => none⟩,
  ⟨"show", [valueForm "config" (some 'c')], fun a =>
    if a.rest.isEmpty then some (.inspect (a.value? "config")) else none⟩,
  ⟨"schema", [valueForm "output" (some 'o')], fun a =>
    if a.rest.isEmpty then
      match a.value? "output" with
      | none => some (.schema none)
      | some output => (placeOf? output).map fun output => .schema (some output)
    else none⟩]

/-- What the words after the name of a group ask for. -/
def readGroup (shapes : List Shape) (words : List String) : Wish :=
  match Arguments.read [helpForm] false words with
  | none => .misuse
  | some a =>
    if a.has "help" then .help
    else
      match a.rest with
      | [] => .misuse
      | name :: words =>
        match shapes.find? (·.name == name) with
        | some s => s.read words
        | none => .misuse

/-- The groups of commands. -/
def groups : List (String × List Shape) := [("query", queryShapes), ("config", configShapes)]

/-- **What a command line asks for.** -/
def read (words : List String) : Wish :=
  match Arguments.read [switchForm "version" none, helpForm] false words with
  | none => .misuse
  | some a =>
    match a.given, a.rest with
    | g :: _, _ => if g.name = "version" then .run .version else .help
    | [], [] => .misuse
    | [], name :: words =>
      match groups.lookup name with
      | some shapes => readGroup shapes words
      | none => .misuse

end Command

end QuerySieve
