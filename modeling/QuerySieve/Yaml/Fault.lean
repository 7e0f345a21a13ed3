/-!
# Yaml/Fault — why a text of the notation is not read

Most faults break the rules of the notation. The others are well written, but what is written stands
for nothing that there is.
-/

namespace QuerySieve.Yaml

/-- Why a text is not read. -/
inductive Fault where
  /-- The text breaks the rules of the notation. -/
  | malformed
  /-- There is no such number, date or character. -/
  | noSuchValue
  /-- The number of a character has more than 31 bits. -/
  | greatCharacter
  /-- What is to be a number has no digits. -/
  | noDigits
  /-- What is to be a truth value is no word for one. -/
  | noSuchWord
  /-- What is to be a date has not the form of one. -/
  | noDate
  /-- Lists and records lie too deep inside one another. -/
  | tooDeep
  deriving DecidableEq, Repr

/-- The fault in words. -/
def Fault.words : Fault → String
  | malformed => "the text is not well formed"
  | noSuchValue => "a value stands for nothing that there is"
  | greatCharacter => "a character has a number that is too great"
  | noDigits => "a number has no digits"
  | noSuchWord => "a truth value has no such word"
  | noDate => "a date has not the form of one"
  | tooDeep => "lists and records lie too deep inside one another"

end QuerySieve.Yaml
