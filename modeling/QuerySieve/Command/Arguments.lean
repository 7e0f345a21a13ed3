/-!
# Command/Arguments — the words after a command

Words that begin with a hyphen are options, the others are arguments; after two hyphens alone
everything is an argument, and so is a single hyphen. An option has a long spelling, whose value may
stand behind an equals sign, and perhaps a letter; several letters may stand behind one hyphen, the
last of them with its value. A value is taken as it is, also if it begins with a hyphen.
-/

namespace QuerySieve

/-- An option that a command knows. -/
structure OptionForm where
  name : String
  letter : Option Char
  takesValue : Bool

/-- An option that was given. -/
structure Given where
  name : String
  value : Option String
  deriving DecidableEq, Repr

/-- The options and the arguments of a command. -/
structure Arguments where
  given : List Given
  rest : List String
  deriving DecidableEq, Repr

namespace Arguments

/-- The word is an option. -/
def isOption (word : String) : Bool :=
  match word.toList with
  | '-' :: _ :: _ => true
  | _ => false

/-- An option with its value, which is the next word; and the words after it. -/
def withNext (f : OptionForm) : List String → Option (List Given × List String)
  | [] => none
  | value :: words => some ([⟨f.name, some value⟩], words)

/-- The options behind one hyphen, and the words after them. -/
def readLetters (forms : List OptionForm) (words : List String) :
    List Char → Option (List Given × List String)
  | [] => some ([], words)
  | c :: cs => do
    let f ← forms.find? (·.letter == some c)
    if f.takesValue then
      if cs.isEmpty then withNext f words
      else some ([⟨f.name, some (String.ofList cs)⟩], words)
    else
      let (more, words) ← readLetters forms words cs
      some (⟨f.name, none⟩ :: more, words)

/-- The options of one word, and the words after them. -/
def readOption (forms : List OptionForm) (word : String) (words : List String) :
    Option (List Given × List String) :=
  let cs := word.toList
  let head := cs.takeWhile (· != '=')
  let value := if head.length < cs.length then some (String.ofList (cs.drop (head.length + 1))) else none
  match forms.find? fun f => '-' :: '-' :: f.name.toList == head, value with
  | some f, some v => if f.takesValue then some ([⟨f.name, some v⟩], words) else none
  | some f, none => if f.takesValue then withNext f words else some ([⟨f.name, none⟩], words)
  | none, _ =>
    match cs with
    | '-' :: '-' :: _ => none
    | _ => readLetters forms words (cs.drop 1)

/-- **The options and arguments among some words**; nothing if there is an option that is not known, or
that lacks its value or has one that it does not take. Unless they are mixed, all words from the first
argument on are arguments. `fuel` is at least the number of words. -/
def readWords (forms : List OptionForm) (mixed : Bool) : Nat → List String → Option Arguments
  | 0, words => some ⟨[], words⟩
  | _, [] => some ⟨[], []⟩
  | fuel + 1, word :: words =>
    if word = "--" then some ⟨[], words⟩
    else if isOption word then do
      let (given, words) ← readOption forms word words
      let more ← readWords forms mixed fuel words
      some { more with given := given ++ more.given }
    else if mixed then do
      let more ← readWords forms mixed fuel words
      some { more with rest := word :: more.rest }
    else some ⟨[], word :: words⟩

/-- The options and arguments among some words. -/
def read (forms : List OptionForm) (mixed : Bool) (words : List String) : Option Arguments :=
  readWords forms mixed words.length words

/-- The option was given. -/
def has (a : Arguments) (name : String) : Bool := a.given.any (·.name == name)

/-- All values of an option, in order. -/
def values (a : Arguments) (name : String) : List String :=
  (a.given.filter (·.name == name)).filterMap (·.value)

/-- The value of an option: the last one counts. -/
def value? (a : Arguments) (name : String) : Option String := (a.values name).getLast?

end Arguments

end QuerySieve
