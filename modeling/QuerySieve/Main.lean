import QuerySieve.Command.Run

/-!
# Main — the command line

Reads as much of the world as a command may look at, runs the command, prints what came of it and
writes the files that it changed.
-/

namespace QuerySieve.Terminal

/-- How the command is used. -/
def usage : String := String.intercalate "\n" [
  "Usage: searchfilter [--version] [--help] COMMAND",
  "",
  "  query parse [--json] QUERY",
  "  query clean QUERY",
  "  query filter [--config FILE] [--include WORD] [--exclude WORD] [--json] [--explain]",
  "               [--verbose] [--debug] QUERY RESULTS",
  "  config init [--profile NAME] [--force] [OUTPUT]",
  "  config show [--config FILE]",
  "  config schema [--output FILE]",
  ""]

/-- A path as the system knows it. -/
def pathText (path : List String) : String := "/" ++ String.intercalate "/" path

/-- What stands at a path: whatever is there and cannot be read as a file is taken for a folder. -/
def look (path : List String) : IO (Option FileNode) := do
  try
    return some (.file (← IO.FS.readBinFile (pathText path)))
  catch _ =>
    try
      discard <| IO.FS.realPath (pathText path)
      return some .folder
    catch _ => return none

/-- The tree with everything on the way along some names, from a path on. -/
def explore (tree : FileTree) : List String → List String → IO FileTree
  | _, [] => return tree
  | path, name :: names => do
    let next := if name = ".." then path.dropLast else path ++ [name]
    match ← look next with
    | some node => explore (if next.isEmpty then tree else tree.put next node) next names
    | none => return tree

/-- The variables that are looked at. -/
def variableNames : List String :=
  ["HOME", "XDG_CONFIG_HOME"] ++ Setting.all.map fun s => Loader.usualStart ++ s.variableEnd

/-- The number that a text begins with. -/
def leadingNumber (s : String) : Nat :=
  (Text.ofDigits? 10 Text.plainDigit? (s.toList.takeWhile Char.isDigit)).getD 0

/-- The time: when the system was started, and how long it has been running. -/
def clock : IO Moment := do
  try
    let started ← IO.FS.readFile "/proc/stat"
    let running ← IO.FS.readFile "/proc/uptime"
    let beginning := "btime ".toList
    let line := (started.splitOn "\n").find? fun line => beginning.isPrefixOf line.toList
    let seconds := line.elim 0 fun line => leadingNumber (String.ofList (line.toList.drop beginning.length))
    let now := Moment.ofSeconds? ((seconds + leadingNumber running : Nat) : Int) 0
    return { (now.getD (Moment.midnight 1970 1 1)) with offset := none }
  catch _ => return Moment.midnight 1970 1 1

/-- The folder of the user's account, found by the account's number. -/
def accountFolder : IO Place := do
  try
    let status ← IO.FS.readFile "/proc/self/status"
    let accounts ← IO.FS.readFile "/etc/passwd"
    let mark := "Uid:\t".toList
    let line := (status.splitOn "\n").find? fun line => mark.isPrefixOf line.toList
    let number := line.elim 0 fun line => leadingNumber (String.ofList (line.toList.drop mark.length))
    let entry := (accounts.splitOn "\n").map (·.splitOn ":") |>.find? fun parts =>
      parts[2]? == some (toString number)
    return Place.ofText ((entry.bind (·[5]?)).getD "/")
  catch _ => return Place.ofText "/"

/-- The world without any files. -/
def emptyWorld : IO World := do
  let values ← variableNames.filterMapM fun name => do
    return (← IO.getEnv name).map fun value => (name, value)
  return ⟨⟨[]⟩, Place.ofText (← IO.currentDir).toString, ← accountFolder, values, ← clock, .usual⟩

/-- The world as far as a command may look at it. -/
def worldFor (c : Command) : IO World := do
  let w ← emptyWorld
  let places := (w.current :: c.places w).map w.current.below
  let tree ← places.foldlM (fun tree p => explore tree [] p.names) w.tree
  return { w with tree := tree }

/-- An identifier of eight digits that nothing else has. -/
def freshIdentifier : IO String := do
  let bytes ← IO.getRandomBytes 4
  return String.ofList (bytes.toList.flatMap fun b => Text.hexadecimal 2 b.toNat)

/-- Does what a command says in the world. -/
def perform (c : Command) : IO UInt32 := do
  let w ← worldFor c
  match c.run w with
  | .error (.breakdown b) =>
    IO.eprintln b.words
    return 1
  | .error _ => return 1
  | .ok o =>
    for (path, content) in o.world.tree.changedFrom w.tree do
      IO.FS.writeBinFile (pathText path) content
    IO.print o.output
    IO.eprint (o.told Cause.text (← freshIdentifier))
    return o.exitCode.toUInt32

end QuerySieve.Terminal

/-- The command line. -/
def main (words : List String) : IO UInt32 := do
  match QuerySieve.Command.read words with
  | .run c => QuerySieve.Terminal.perform c
  | .help =>
    IO.print QuerySieve.Terminal.usage
    return 0
  | .misuse =>
    IO.eprint QuerySieve.Terminal.usage
    return 2
