import QuerySieve.Filter

/-!
# Group — filters that are alternatives to each other

`groups` collects the filters of one slot, the slots in the order in which they first occur, each
group under the mark that was seen first. A filter whose mark has no slot cannot be grouped.
-/

namespace QuerySieve

/-- The filters that share a slot, and the mark of the first of them. -/
structure Group where
  mark : Option Mark
  members : List Filter
  deriving Repr

namespace Group

/-- The slot that the group stands under. -/
def slot? (g : Group) : Option Slot := Mark.slot? g.mark

/-- The group accepts a text: one of its filters does. -/
def accepts (g : Group) (text : String) : Bool := g.members.any (·.accepts text)

/-- The groups with one more filter, in the group of its slot or in a new one at the end. -/
def add (f : Filter) (slot : Slot) : List Group → List Group
  | [] => [⟨f.mark, [f]⟩]
  | g :: gs =>
    if g.slot? = some slot then ⟨g.mark, g.members ++ [f]⟩ :: gs else g :: add f slot gs

/-- The groups of some filters, after those already there; nothing if one cannot be grouped. -/
def addAll? : List Group → List Filter → Option (List Group)
  | gs, [] => some gs
  | gs, f :: fs =>
    match Mark.slot? f.mark with
    | some slot => addAll? (add f slot gs) fs
    | none => none

/-- **The groups of a list of filters**; nothing if one of them cannot be grouped. -/
def groups? (fs : List Filter) : Option (List Group) := addAll? [] fs

end Group

end QuerySieve
