import QuerySieve.FileTree
import QuerySieve.Moment
import QuerySieve.Text.Blank
import QuerySieve.Yaml.Fault

/-!
# World — what lies around a command

Files, the current folder, the variables of the environment and the time: all that a command can see
and change beside its arguments. A world also has its limits. How deep the values in a text may lie
inside one another depends on what else is going on when it is read, and which of two faults of a file
is found first on the pieces in which the file arrives, so neither is settled by the text alone.
-/

namespace QuerySieve

/-- What reading and showing values run up against. -/
structure Limits where
  /-- How many lists and records may lie inside one another in a text in the object notation. -/
  json : String → Nat
  /-- How many may do so in a text in the indented notation. -/
  yaml : String → Nat
  /-- How many values may lie inside one another where they are shown. -/
  shown : Nat
  /-- What is found wrong with the beginning of a file that arrives in pieces, if anything is before a
  piece comes that is no text of the notation. -/
  early : ByteArray → Option Yaml.Fault

/-- The limits that there are where little else is going on, and files arrive in one piece. -/
def Limits.usual : Limits := ⟨fun _ => 985, fun _ => 480, 980, fun _ => none⟩

/-- What lies around a command. The current folder is counted from the top. -/
structure World where
  tree : FileTree
  current : Place
  /-- The folder of the user's account. -/
  account : Place
  environment : List (String × String)
  now : Moment
  limits : Limits

/-- Why a variable cannot be set. -/
inductive VariableFault where
  /-- It has no name. -/
  | nameless
  /-- An equals sign stands in the name, or the character zero in the name or the value. -/
  | unwritable
  deriving DecidableEq, Repr

/-- The fault in words. -/
def VariableFault.words : VariableFault → String
  | nameless => "a variable has no name"
  | unwritable => "a variable cannot have this name or value"

namespace World

/-- The value of a variable. -/
def valueOf? (w : World) (name : String) : Option String := w.environment.lookup name

/-- The world without a variable. -/
def removeVariable (w : World) (name : String) : World :=
  { w with environment := w.environment.filter (·.1 != name) }

/-- **The world with a variable set.** -/
def setVariable (w : World) (name value : String) : Except VariableFault World :=
  if name.isEmpty then .error .nameless
  else if name.contains '=' || name.contains '\x00' || value.contains '\x00' then .error .unwritable
  else .ok { w with environment := (name, value) :: (w.removeVariable name).environment }

/-- The text without the slashes at its end. -/
def withoutSlashes (cs : List Char) : List Char := Text.trimEndOf (· == '/') cs

/-- **The user's own folder**: the one that a variable names, unless it names it by a tilde, or else
the folder of the account. -/
def home? (w : World) : Option Place :=
  match w.valueOf? "HOME" with
  | none => some w.account
  | some s =>
    match withoutSlashes s.toList with
    | [] => some ⟨1, []⟩
    | '~' :: _ => none
    | cs => some (Place.ofText (String.ofList cs))

/-- The bytes that the text of a place may have. -/
def longestPlace : Nat := 4095

/-- The path of a place in the tree. -/
def path (w : World) (p : Place) : Except PathFault (List String) :=
  if p.text.contains '\x00' then .error .unnameable
  else if longestPlace < p.text.utf8ByteSize then .error .tooLong
  else w.tree.follow [] (w.current.below p).names

/-- **The bytes of a file.** -/
def read (w : World) (p : Place) : Except PathFault ByteArray := do
  let path ← w.path p
  w.tree.file path

/-- **Whether there is something at a place.** A name that is too long is a fault even here. -/
def holds (w : World) (p : Place) : Except PathFault Bool :=
  match w.path p with
  | .ok path => .ok (w.tree.node? path).isSome
  | .error .tooLong => .error .tooLong
  | .error _ => .ok false

/-- There is a file at a place. -/
def holdsFile (w : World) (p : Place) : Bool :=
  match w.read p with
  | .ok _ => true
  | .error _ => false

/-- **The world with a text in a file.** The folder must be there. -/
def write (w : World) (p : Place) (text : String) : Except PathFault World := do
  let path ← w.path p
  match w.tree.node? path with
  | some .folder => .error .isFolder
  | _ => .ok { w with tree := w.tree.put path (.file text.toUTF8) }

end World

end QuerySieve
