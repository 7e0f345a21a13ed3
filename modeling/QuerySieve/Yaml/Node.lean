import QuerySieve.Yaml.Scalar
import QuerySieve.Yaml.Token

/-!
# Yaml/Node — the tree that tokens make

A node is a text that stands for something, a list, or a record whose keys are nodes as well. Tags say
what a node is meant to be, whether or not it can be that. Anchors are resolved on the way: a name
stands for the node it was given to, also inside that node. `Node.ofTokens?` reads exactly one document,
in which `room` bounds how many lists and records may lie inside one another — those that are only told
by their items or their colon count like all others.
-/

namespace QuerySieve.Yaml

/-- What a list or a record is tagged as. -/
inductive Form where
  | list
  | record
  /-- A list of the keys of a record. -/
  | set
  /-- A list of pairs, each written as a record of one field. -/
  | pairs
  | scalar (kind : Kind)
  | unknown
  deriving DecidableEq, Repr

/-- A part of a document. -/
inductive Node where
  | scalar (kind : Kind) (text : String)
  | list (form : Form) (items : List Node)
  | record (form : Form) (fields : List (Node × Node))
  /-- A text that is tagged as something else. -/
  | strange (form : Form) (text : String)
  /-- The part with the name that this part belongs to. -/
  | around (name : String)
  deriving Repr, Inhabited

namespace Node

/-- What stands where nothing is written. -/
def nothing : Node := .scalar .null ""

/-! ## Tags -/

/-- The beginning of the tags that are known. -/
def knownTags : String := "tag:yaml.org,2002:"

/-- The forms by the ends of their tags. -/
def forms : List (String × Form) := [("seq", .list), ("map", .record), ("set", .set),
  ("omap", .pairs), ("pairs", .pairs), ("null", .scalar .null), ("bool", .scalar .bool),
  ("int", .scalar .int), ("float", .scalar .float), ("timestamp", .scalar .moment),
  ("str", .scalar .text), ("binary", .scalar .binary), ("merge", .scalar .merge),
  ("value", .scalar .equals)]

/-- The form that a tag names; none if it leaves the form open. -/
def formOf? (tag : String) : Option Form :=
  if tag = "!" then none
  else
    match forms.find? fun entry => knownTags ++ entry.1 == tag with
    | some entry => some entry.2
    | none => some .unknown

/-- A text with a tag. Where the tag leaves the form open, a plain text stands for what it looks like;
between quotes a text without a tag is a text. -/
def ofText (tag : Option String) (isPlain : Bool) (s : String) : Node :=
  match tag, tag.bind formOf? with
  | none, _ => .scalar (if isPlain then Kind.of s else .text) s
  | some _, none => .scalar (Kind.of s) s
  | some _, some (.scalar kind) => .scalar kind s
  | some _, some form => .strange form s

/-- A list with a tag. -/
def ofItems (tag : Option String) (items : List Node) : Node :=
  .list ((tag.bind formOf?).getD .list) items

/-- A record with a tag. -/
def ofFields (tag : Option String) (fields : List (Node × Node)) : Node :=
  .record ((tag.bind formOf?).getD .record) fields

/-! ## Parts that belong to themselves -/

mutual

/-- The node with another one wherever it names itself. -/
def fill (name : String) (whole : Node) : Node → Node
  | .around other => if other = name then whole else .around other
  | .list form items => .list form (fillItems name whole items)
  | .record form fields => .record form (fillFields name whole fields)
  | n => n

/-- The items with another node wherever the name stands. -/
def fillItems (name : String) (whole : Node) : List Node → List Node
  | [] => []
  | item :: items => fill name whole item :: fillItems name whole items

/-- The fields with another node wherever the name stands. -/
def fillFields (name : String) (whole : Node) : List (Node × Node) → List (Node × Node)
  | [] => []
  | (key, value) :: fields =>
    (fill name whole key, fill name whole value) :: fillFields name whole fields

end

/-- The node without anything inside. -/
def emptied : Node → Node
  | .list form _ => .list form []
  | .record form _ => .record form []
  | n => n

/-- **A node that belongs to itself, laid open**: two levels of it stand inside one another, and the
innermost is empty. Settings do not reach further in. -/
def laidOpen (name : Option String) (n : Node) : Node :=
  match name with
  | none => n
  | some s => fill s (fill s (fill s n.emptied n) n) n

/-! ## Reading -/

/-- What is known while a document is read: the tokens that are left, the nodes with anchors, and what
the handles of tags stand for. -/
structure Reading where
  tokens : List Token
  anchors : List (String × Node)
  handles : List (String × String)

namespace Reading

/-- The reading without its next token. -/
def drop (r : Reading) : Reading := { r with tokens := r.tokens.drop 1 }

/-- Why the next token does not belong here. -/
def fault (r : Reading) : Fault :=
  match r.tokens with
  | .broken f :: _ => f
  | _ => .malformed

/-- Something is known of the next token. -/
def check (r : Reading) : Except Fault Unit :=
  match r.tokens with
  | .broken f :: _ => .error f
  | _ => .ok ()

/-- The next token is one of these. -/
def isAt (r : Reading) (ts : List Token) : Bool :=
  match r.tokens with
  | t :: _ => ts.contains t
  | [] => false

/-- The reading after a token that must come next. -/
def take (r : Reading) (t : Token) : Except Fault Reading :=
  if r.isAt [t] then .ok r.drop else .error r.fault

/-- A node with an anchor is known by its name. -/
def anchored (r : Reading) (name : Option String) (n : Node) : Reading :=
  match name with
  | some s => { r with anchors := (s, n) :: r.anchors }
  | none => r

/-- The full tag of a handle and the rest. -/
def tag (r : Reading) (handle : Option String) (rest : String) : Except Fault String :=
  match handle with
  | none => .ok rest
  | some h =>
    match r.handles.lookup h with
    | some meaning => .ok (meaning ++ rest)
    | none => .error .malformed

end Reading

/-- An anchor and a tag before a node, in either order, and the reading after them. -/
def readMarks (r : Reading) : Except Fault (Option String × Option String × Reading) :=
  match r.tokens with
  | .anchor name :: .tag h rest :: ts => do
    let tag ← r.tag h rest
    .ok (some name, some tag, { r with tokens := ts })
  | .tag h rest :: .anchor name :: ts => do
    let tag ← r.tag h rest
    .ok (some name, some tag, { r with tokens := ts })
  | .tag _ _ :: .broken f :: _ => .error f
  | .anchor name :: ts => .ok (some name, none, { r with tokens := ts })
  | .tag h rest :: ts => do
    let tag ← r.tag h rest
    .ok (none, some tag, { r with tokens := ts })
  | _ => .ok (none, none, r)

/-- Where a node stands: between brackets, in a block, or in a block where the items of a list need not
be indented. -/
inductive Place where
  | flow
  | block
  | field
  deriving DecidableEq

/-- The room inside a list or a record. -/
def inner (room : Nat) : Except Fault Nat := if room = 0 then .error .tooDeep else .ok (room - 1)

mutual

/-- The next node. -/
def read (fuel room : Nat) (place : Place) (r : Reading) : Except Fault (Node × Reading) :=
  match fuel with
  | 0 => .error .malformed
  | fuel + 1 =>
    match r.tokens with
    | .alias name :: ts =>
      match r.anchors.lookup name with
      | some n => .ok (n, { r with tokens := ts })
      | none => .error .malformed
    | _ => do
      let (anchor, tag, r) ← readMarks r
      r.check
      if anchor.any fun name => (r.anchors.lookup name).isSome then .error .malformed
      else
        let inside := (anchor.map fun name => r.anchored anchor (.around name)).getD r
        let finish (n : Node) (r : Reading) : Except Fault (Node × Reading) :=
          let n := n.laidOpen anchor
          .ok (n, r.anchored anchor n)
        match r.tokens, place with
        | .entry :: _, .field => do
          let room ← inner room
          let (items, r) ← readLooseItems fuel room inside
          finish (ofItems tag items) r
        | .text isPlain s :: ts, _ => finish (ofText tag isPlain s) { r with tokens := ts }
        | .listStart :: _, _ => do
          let room ← inner room
          let (items, r) ← readFlowItems fuel room true inside.drop
          finish (ofItems tag items) r
        | .recordStart :: _, _ => do
          let room ← inner room
          let (fields, r) ← readFlowFields fuel room true inside.drop
          finish (ofFields tag fields) r
        | .blockListStart :: _, .block => do
          let room ← inner room
          let (items, r) ← readItems fuel room inside.drop
          finish (ofItems tag items) r
        | .blockListStart :: _, .field => do
          let room ← inner room
          let (items, r) ← readItems fuel room inside.drop
          finish (ofItems tag items) r
        | .blockRecordStart :: _, .block => do
          let room ← inner room
          let (fields, r) ← readFields fuel room inside.drop
          finish (ofFields tag fields) r
        | .blockRecordStart :: _, .field => do
          let room ← inner room
          let (fields, r) ← readFields fuel room inside.drop
          finish (ofFields tag fields) r
        | _, _ =>
          if anchor.isSome || tag.isSome then finish (ofText tag true "") r
          else .error .malformed

/-- The next node, or nothing before one of the tokens. -/
def readUnless (fuel room : Nat) (stops : List Token) (place : Place) (r : Reading) :
    Except Fault (Node × Reading) :=
  match fuel with
  | 0 => .error .malformed
  | fuel + 1 => if r.isAt stops then .ok (nothing, r) else read fuel room place r

/-- The node after a token, if the token comes next; nothing otherwise. -/
def readAfter (fuel room : Nat) (t : Token) (stops : List Token) (place : Place) (r : Reading) :
    Except Fault (Node × Reading) :=
  match fuel with
  | 0 => .error .malformed
  | fuel + 1 => if r.isAt [t] then readUnless fuel room stops place r.drop else .ok (nothing, r)

/-- The items of a list in a block of its own. -/
def readItems (fuel room : Nat) (r : Reading) : Except Fault (List Node × Reading) :=
  match fuel with
  | 0 => .error .malformed
  | fuel + 1 =>
    if r.isAt [.entry] then do
      let (item, r) ← readUnless fuel room [.entry, .blockEnd] .block r.drop
      let (items, r) ← readItems fuel room r
      .ok (item :: items, r)
    else do
      let r ← r.take .blockEnd
      .ok ([], r)

/-- The items of a list that is not indented. -/
def readLooseItems (fuel room : Nat) (r : Reading) : Except Fault (List Node × Reading) :=
  match fuel with
  | 0 => .error .malformed
  | fuel + 1 =>
    if r.isAt [.entry] then do
      let (item, r) ← readUnless fuel room [.entry, .key, .value, .blockEnd] .block r.drop
      let (items, r) ← readLooseItems fuel room r
      .ok (item :: items, r)
    else .ok ([], r)

/-- The fields of a record in a block. -/
def readFields (fuel room : Nat) (r : Reading) : Except Fault (List (Node × Node) × Reading) :=
  match fuel with
  | 0 => .error .malformed
  | fuel + 1 =>
    if r.isAt [.key] then do
      let stops := [.key, .value, .blockEnd]
      let (key, r) ← readUnless fuel room stops .field r.drop
      let (value, r) ← readAfter fuel room .value stops .field r
      let (fields, r) ← readFields fuel room r
      .ok ((key, value) :: fields, r)
    else do
      let r ← r.take .blockEnd
      .ok ([], r)

/-- The items of a list between brackets; a pair is an item as well. -/
def readFlowItems (fuel room : Nat) (first : Bool) (r : Reading) : Except Fault (List Node × Reading) :=
  match fuel with
  | 0 => .error .malformed
  | fuel + 1 =>
    if r.isAt [.listEnd] then .ok ([], r.drop)
    else do
      let r ← if first then .ok r else r.take .comma
      if r.isAt [.listEnd] then .ok ([], r.drop)
      else if r.isAt [.key] then do
        let narrower ← inner room
        let (key, r) ← readUnless fuel narrower [.value, .comma, .listEnd] .flow r.drop
        let (value, r) ← readAfter fuel narrower .value [.comma, .listEnd] .flow r
        let (items, r) ← readFlowItems fuel room false r
        .ok (ofFields none [(key, value)] :: items, r)
      else do
        let (item, r) ← read fuel room .flow r
        let (items, r) ← readFlowItems fuel room false r
        .ok (item :: items, r)

/-- The fields of a record between braces; a key alone is a field as well. -/
def readFlowFields (fuel room : Nat) (first : Bool) (r : Reading) :
    Except Fault (List (Node × Node) × Reading) :=
  match fuel with
  | 0 => .error .malformed
  | fuel + 1 =>
    if r.isAt [.recordEnd] then .ok ([], r.drop)
    else do
      let r ← if first then .ok r else r.take .comma
      if r.isAt [.recordEnd] then .ok ([], r.drop)
      else if r.isAt [.key] then do
        let (key, r) ← readUnless fuel room [.value, .comma, .recordEnd] .flow r.drop
        let (value, r) ← readAfter fuel room .value [.comma, .recordEnd] .flow r
        let (fields, r) ← readFlowFields fuel room false r
        .ok ((key, value) :: fields, r)
      else do
        let (key, r) ← read fuel room .flow r
        let (fields, r) ← readFlowFields fuel room false r
        .ok ((key, nothing) :: fields, r)

end

/-! ## Documents -/

/-- What the handles of tags stand for unless a document says otherwise. -/
def usualHandles : List (String × String) := [("!", "!"), ("!!", knownTags)]

/-- The handles that directives declare, and the tokens after the directives. -/
def readDirectives (versioned : Bool) (handles : List (String × String)) :
    List Token → Except Fault (List (String × String) × List Token)
  | .directive :: ts => readDirectives versioned handles ts
  | .version major :: ts =>
    if versioned || major != 1 then .error .malformed else readDirectives true handles ts
  | .handle name meaning :: ts =>
    if (handles.lookup name).isSome then .error .malformed
    else readDirectives versioned ((name, meaning) :: handles) ts
  | ts => .ok (handles, ts)

/-- The fault of what comes after a document, where nothing but its end may come. -/
def leftover? : List Token → Option Fault
  | [] => none
  | .documentEnd :: ts => leftover? ts
  | ts =>
    match ts.dropWhile (· == .directive) with
    | .broken f :: _ => some f
    | _ => some .malformed

/-- The document has no node before these tokens. -/
def endsContent : Token → Bool
  | .documentStart => true
  | .documentEnd => true
  | .directive => true
  | .version _ => true
  | .handle _ _ => true
  | _ => false

/-- The node of a document without marks. -/
def readContent (room : Nat) (handles : List (String × String)) (ts : List Token) :
    Except Fault Node := do
  let start : Reading := ⟨ts, [], handles⟩
  let (n, r) ← if ts.head?.all endsContent then .ok (nothing, start)
    else read (4 * ts.length + 8) room .block start
  match leftover? r.tokens with
  | none => .ok n
  | some f => .error f

/-- The document that begins with its mark. -/
def readMarked (room : Nat) (handles : List (String × String)) : List Token → Except Fault Node
  | .documentStart :: ts => readContent room (handles ++ usualHandles) ts
  | .broken f :: _ => .error f
  | _ => .error .malformed

/-- **The one document of the tokens**; nothing if there are none. What has no beginning must have a
node before its end. -/
def ofTokens? (room : Nat) (ts : List Token) : Except Fault Node :=
  match ts with
  | [] => .ok nothing
  | .documentEnd :: _ => .error .malformed
  | .documentStart :: _ => readMarked room [] ts
  | .directive :: _ => directed ts
  | .version _ :: _ => directed ts
  | .handle _ _ :: _ => directed ts
  | _ => readContent room usualHandles ts
where
  /-- A document after directives. -/
  directed (ts : List Token) : Except Fault Node := do
    let (handles, ts) ← readDirectives false [] ts
    readMarked room handles ts

end Node

end QuerySieve.Yaml
