import QuerySieve.Place

/-!
# FileTree — folders and files

A tree maps paths from its top to folders and files; the top itself is a folder. A place is followed
name by name, and every name but the last must lead to a folder — also where two dots lead back out of
it. Files are rows of bytes; `decode?` makes text of them, with every line end made plain.
-/

namespace QuerySieve

/-- What stands at a path. -/
inductive FileNode where
  | folder
  | file (content : ByteArray)

/-- Why a place leads nowhere, or not to what is wanted. -/
inductive PathFault where
  | missing
  | isFolder
  | notFolder
  | tooLong
  /-- The character zero stands in the place, which no file can have in its name. -/
  | unnameable
  deriving DecidableEq, Repr

/-- The fault in words. -/
def PathFault.words : PathFault → String
  | missing => "there is no such file"
  | isFolder => "this is a folder"
  | notFolder => "a file is in the way"
  | tooLong => "the name is too long"
  | unnameable => "no file can have this name"

/-- Folders and files by their paths. -/
structure FileTree where
  nodes : List (List String × FileNode)

namespace FileTree

/-- What stands at a path. -/
def node? (t : FileTree) (path : List String) : Option FileNode :=
  if path.isEmpty then some .folder else t.nodes.lookup path

/-- The bytes that a name may have. -/
def longestName : Nat := 255

/-- **The path that some names lead to from another path.** There need be nothing at its end. -/
def follow (t : FileTree) : List String → List String → Except PathFault (List String)
  | path, [] => .ok path
  | path, name :: names =>
    match t.node? path with
    | none => .error .missing
    | some (.file _) => .error .notFolder
    | some .folder =>
      if longestName < name.utf8ByteSize then .error .tooLong
      else if name = ".." then follow t path.dropLast names
      else follow t (path ++ [name]) names

/-- The file at a path. -/
def file (t : FileTree) (path : List String) : Except PathFault ByteArray :=
  match t.node? path with
  | none => .error .missing
  | some .folder => .error .isFolder
  | some (.file content) => .ok content

/-- The tree with a node at a path, instead of what stood there. -/
def put (t : FileTree) (path : List String) (node : FileNode) : FileTree :=
  ⟨(path, node) :: t.nodes.filter (·.1 != path)⟩

/-- The tree with a node where some names lead to from a path, and with all folders on the way. -/
def grow (t : FileTree) (node : FileNode) : List String → List String → FileTree
  | path, [] => t.put path node
  | path, name :: names =>
    let t := if (t.node? path).isSome then t else t.put path .folder
    t.grow node (if name = ".." then path.dropLast else path ++ [name]) names

/-- The files that are not the same in another tree, with what they hold. -/
def changedFrom (t old : FileTree) : List (List String × ByteArray) :=
  t.nodes.filterMap fun
    | (_, .folder) => none
    | (path, .file content) =>
      match old.node? path with
      | some (.file before) => if before.data = content.data then none else some (path, content)
      | _ => some (path, content)

/-- The text with every line end made plain: a carriage return, alone or before one, becomes one. -/
def plainLineEnds : List Char → List Char
  | '\r' :: '\n' :: cs => '\n' :: plainLineEnds cs
  | '\r' :: cs => '\n' :: plainLineEnds cs
  | c :: cs => c :: plainLineEnds cs
  | [] => []

/-- **The text of a file**, if its bytes are one. -/
def decode? (content : ByteArray) : Option String :=
  (String.fromUTF8? content).map fun s => String.ofList (plainLineEnds s.toList)

end FileTree

end QuerySieve
