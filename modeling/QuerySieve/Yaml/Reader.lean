import QuerySieve.Data.Show
import QuerySieve.Yaml.Node

/-!
# Yaml/Reader — values written in the notation

`Yaml.read` reads the one document of a text as a value. Keys must be texts or other scalars, and of
fields with one key the last counts. A key that stands for fields of other records brings those fields
in before the record's own. Of several parts that stand for nothing, the one that lies furthest out is
told of, and of those the first.
-/

namespace QuerySieve.Yaml

/-- A fault with the depth of the list or record that it was found in. -/
structure Trouble where
  depth : Nat
  fault : Fault

/-- A value, or the trouble with it. -/
abbrev Meaning (α : Type) := Except Trouble α

namespace Meaning

/-- **Two meanings at once**: of two troubles the one further out, or the first. -/
def pair {α β : Type} (a : Meaning α) (b : Meaning β) : Meaning (α × β) :=
  match a, b with
  | .ok a, .ok b => .ok (a, b)
  | .error t, .error u => .error (if u.depth < t.depth then u else t)
  | .error t, .ok _ => .error t
  | .ok _, .error u => .error u

/-- All meanings at once. -/
def all {α : Type} : List (Meaning α) → Meaning (List α)
  | [] => .ok []
  | a :: rest => (a.pair (all rest)).map fun (a, rest) => a :: rest

end Meaning

namespace Node

/-- The node is the key that brings in the fields of other records. -/
def isMerge : Node → Bool
  | .scalar .merge _ => true
  | _ => false

mutual

/-- The fields of a record with those that are brought in, these first; nothing if what is to be brought
in is no record. -/
def flatFields? : List (Node × Node) → Option (List (Node × Node))
  | [] => some []
  | (key, value) :: fields => do
    let rest ← flatFields? fields
    if key.isMerge then do
      let more ← mergedFields? value
      some (more ++ rest)
    else some rest

/-- The fields that a node brings in: those of a record, or of several of which the first is the
strongest. -/
def mergedFields? : Node → Option (List (Node × Node))
  | .record _ fields => do
    let more ← flatFields? fields
    some (more ++ fields.filter fun f => !f.1.isMerge)
  | .list _ items => mergedItems? items
  | _ => none

/-- The fields of several records, those of the last one first. -/
def mergedItems? : List Node → Option (List (Node × Node))
  | [] => some []
  | .record _ fields :: items => do
    let rest ← mergedItems? items
    let more ← flatFields? fields
    some (rest ++ more ++ fields.filter fun f => !f.1.isMerge)
  | _ :: _ => none

end

/-- The fields of a record after all merging, in their order. -/
def allFields? (fields : List (Node × Node)) : Option (List (Node × Node)) := do
  let more ← flatFields? fields
  some (more ++ fields.filter fun f => !f.1.isMerge)

/-- The key that a node makes in a record. -/
def key (depth : Nat) : Node → Meaning Key
  | .scalar .equals s => .ok (.name s)
  | .scalar kind s =>
    match kind.value s with
    | .ok d =>
      match d.toKey? with
      | some k => .ok k
      | none => .error ⟨depth, .malformed⟩
    | .error f => .error ⟨depth, f⟩
  | _ => .error ⟨depth, .malformed⟩

mutual

/-- The text of a node that is tagged as a scalar: in a record it stands under an equals sign. -/
def scalarText? : Node → Option String
  | .scalar _ s => some s
  | .strange _ s => some s
  | .record _ fields => textAtEquals? fields
  | _ => none

/-- The text of the first field under an equals sign. -/
def textAtEquals? : List (Node × Node) → Option String
  | [] => none
  | (key, value) :: fields =>
    match key with
    | .scalar .equals _ => scalarText? value
    | _ => textAtEquals? fields

end

/-- The pair that an item of a list of pairs writes. -/
def pair? : Node → Option (Node × Node)
  | .record _ [field] => some field
  | _ => none

/-- **The value of a node.** `fuel` bounds the depth. -/
def value (fuel depth : Nat) (n : Node) : Meaning Data :=
  match fuel with
  | 0 => .error ⟨depth, .malformed⟩
  | fuel + 1 =>
    let inner := value fuel (depth + 1)
    let misplaced : Meaning Data := .error ⟨depth + 1, .malformed⟩
    match n with
    | .scalar kind s => (kind.value s).mapError fun f => ⟨depth, f⟩
    | .list .list items => (Meaning.all (items.map inner)).map .list
    | .list .pairs items =>
      (Meaning.all (items.map fun item =>
        match item.pair? with
        | some (key, value) => ((inner key).pair (inner value)).map fun (k, v) => .list [k, v]
        | none => misplaced)).map .list
    | .record .record fields => (fieldsOf inner depth fields).map .record
    | .record .set fields =>
      (fieldsOf inner depth fields).map fun fs => .list (fs.map fun f => Data.ofKey f.1)
    | .record (.scalar kind) fields =>
      match textAtEquals? fields with
      | some s => (kind.value s).mapError fun f => ⟨depth, f⟩
      | none => .error ⟨depth, .malformed⟩
    | .list .record _ => misplaced
    | .list .set _ => misplaced
    | .record .list _ => misplaced
    | .record .pairs _ => misplaced
    | .strange .unknown _ => .error ⟨depth, .malformed⟩
    | .strange _ _ => misplaced
    | _ => .error ⟨depth, .malformed⟩
where
  /-- The fields of a record with the values that `inner` gives. -/
  fieldsOf (inner : Node → Meaning Data) (depth : Nat) (fields : List (Node × Node)) :
      Meaning Fields :=
    match allFields? fields with
    | none => .error ⟨depth + 1, .malformed⟩
    | some fields =>
      let meanings := fields.map fun f => (f.1.key (depth + 1)).pair (inner f.2)
      (Meaning.all meanings).map fun fs => fs.foldl (fun fields (k, d) => Fields.put fields k d) []

end Node

/-- The character may stand in a text of the notation. -/
def isAllowed (c : Char) : Bool :=
  let n := c.toNat
  c == '\t' || c == '\n' || c == '\r' || (0x20 ≤ n && n ≤ 0x7E) || n == 0x85 ||
    (0xA0 ≤ n && n ≤ 0xFFFD) || 0x10000 ≤ n

/-- **The value that a text writes**, with room for as many lists and records inside one another. -/
def read (room : Nat) (s : String) : Except Fault Data := do
  let cs := s.toList
  if cs.all isAllowed then
    let tokens := Token.scan cs
    let n ← Node.ofTokens? room tokens
    (n.value (4 * tokens.length + 4) 0).mapError Trouble.fault
  else .error .malformed

end QuerySieve.Yaml
