import QuerySieve.Moment
import QuerySieve.Number.Binary64

/-!
# Data/Basic — values as they stand in files

A `Data` is what a file or a caller hands over before anything is known about it: a scalar, a list, or
a record whose fields keep the order in which they were first written. `put` keeps the keys of a
record distinct: a field that is written again keeps its place and its key, and takes the later value.
-/

namespace QuerySieve

/-- The key of a field: a name, or some other scalar. -/
inductive Key where
  | name (s : String)
  | null
  | bool (b : Bool)
  | int (n : Int)
  | float (x : Binary64)
  | date (year month day : Nat)
  | moment (m : Moment)
  | bytes (content : List UInt8)
  deriving DecidableEq, Repr, Inhabited

/-- The key is a name. -/
def Key.isName : Key → Bool
  | .name _ => true
  | _ => false

/-- **What makes two keys one**: numbers that are equal, truth values as one and zero, and moments of
one instant in whatever zone. What is not a number is taken as the one value that all files name by it,
and so as one key. -/
def Key.canonical : Key → Key ⊕ Int
  | .bool b => .inl (.int (if b then 1 else 0))
  | .float (.finite negative m q) =>
    let n := Binary64.truncate negative m q
    .inl (if (Binary64.finite negative m q).isInt n then .int n else .float (.finite negative m q))
  | .moment m => m.instant?.elim (.inl (.moment m)) .inr
  | key => .inl key

/-- Two keys are one. -/
def Key.same (a b : Key) : Bool := a.canonical = b.canonical

theorem Key.same_iff {a b : Key} : a.same b = true ↔ a.canonical = b.canonical := decide_eq_true_iff

/-- A value as it stands in a file. -/
inductive Data where
  | null
  | bool (b : Bool)
  | int (n : Int)
  | float (x : Binary64)
  | text (s : String)
  | date (year month day : Nat)
  | moment (m : Moment)
  | bytes (content : List UInt8)
  | list (items : List Data)
  | record (fields : List (Key × Data))
  deriving Repr, Inhabited

/-- The fields of a record, in order. -/
abbrev Fields := List (Key × Data)

namespace Fields

/-- The value of the field with the key. -/
def get? : Fields → Key → Option Data
  | [], _ => none
  | (k, v) :: rest, key => if k.same key then some v else get? rest key

/-- **The fields with one of them set** — in its old place, and under its old key, if it was there; at
the end otherwise. -/
def put : Fields → Key → Data → Fields
  | [], key, value => [(key, value)]
  | (k, v) :: rest, key, value =>
    if k.same key then (k, value) :: rest else (k, v) :: put rest key value

/-- The value of the field with the name. -/
def named? (fields : Fields) (s : String) : Option Data := fields.get? (.name s)

/-- **A field that was set is found**, and no other changes. -/
theorem get?_put (fields : Fields) (key : Key) (value : Data) (other : Key) :
    (fields.put key value).get? other =
      if key.same other then some value else fields.get? other := by
  induction fields with
  | nil => simp [put, get?]
  | cons field rest ih =>
    obtain ⟨k, v⟩ := field
    simp only [put, get?, Key.same_iff] at ih ⊢
    by_cases h : k.canonical = key.canonical
    · by_cases h' : k.canonical = other.canonical <;> simp_all [get?, Key.same_iff]
    · by_cases h' : k.canonical = other.canonical
      · rw [if_neg h, get?, if_pos (Key.same_iff.mpr h'), if_neg fun e => h (h'.trans e.symm),
          if_pos h']
      · rw [if_neg h, get?, if_neg (mt Key.same_iff.mp h'), ih, if_neg h']

end Fields

namespace Data

/-- The record with named fields. -/
def ofFields (fields : List (String × Data)) : Data := .record (fields.map fun f => (.name f.1, f.2))

/-- The list of texts. -/
def ofTexts (texts : List String) : Data := .list (texts.map .text)

/-- The key as a value. -/
def ofKey : Key → Data
  | .name s => .text s
  | .null => .null
  | .bool b => .bool b
  | .int n => .int n
  | .float x => .float x
  | .date year month day => .date year month day
  | .moment m => .moment m
  | .bytes content => .bytes content

/-- The key that a value makes. Only scalars are keys. -/
def toKey? : Data → Option Key
  | .text s => some (.name s)
  | .null => some .null
  | .bool b => some (.bool b)
  | .int n => some (.int n)
  | .float x => some (.float x)
  | .date year month day => some (.date year month day)
  | .moment m => some (.moment m)
  | .bytes content => some (.bytes content)
  | .list _ => none
  | .record _ => none

/-- The value of a named field; nothing if this is no record. -/
def field? : Data → String → Option Data
  | .record fields, s => Fields.named? fields s
  | _, _ => none

/-- **The value counts as true**: it is not nothing, not zero and not empty. -/
def isTruthy : Data → Bool
  | .null => false
  | .bool b => b
  | .int n => n != 0
  | .float x => !x.isZero
  | .text s => !s.isEmpty
  | .date _ _ _ => true
  | .moment _ => true
  | .bytes content => !content.isEmpty
  | .list items => !items.isEmpty
  | .record fields => !fields.isEmpty

/-- The word for the kind of a value. -/
def kindName : Data → String
  | .null => "NoneType"
  | .bool _ => "bool"
  | .int _ => "int"
  | .float _ => "float"
  | .text _ => "str"
  | .date _ _ _ => "date"
  | .moment _ => "datetime"
  | .bytes _ => "bytes"
  | .list _ => "list"
  | .record _ => "dict"

end Data

end QuerySieve
