import QuerySieve.Json.Reader
import QuerySieve.Result.Record
import QuerySieve.World

/-!
# Result/Archive — the results in a file

A file of results holds a list of records in the object notation. Either all of them become results,
in their order, or the first one that does not is reported under its number.
-/

namespace QuerySieve.Archive

/-- The circumstances of reading from a file. -/
def circumstances (p : Place) : Circumstances :=
  { Circumstances.unknown with operation := "load_results", filePath := some p.text }

/-- A report on a file of results. -/
def refusal (p : Place) (code : Code) (lead : String) (cause : Option Cause)
    (suggestions : List Suggestion) : Report :=
  Report.make .input code lead none (circumstances p) cause suggestions

/-- The report on a file that cannot be read. -/
def unreadable (p : Place) (cause : Cause) : Failure :=
  .report (refusal p .inputFormat ("Could not read results from " ++ p.text ++ ": ")
    (some cause) []).quoting

/-- The value in a file. A place that no file can have is not reported as one. -/
def readValue (w : World) (p : Place) : Except Failure Data :=
  match w.read p with
  | .error .unnameable => .error (.breakdown (.unreachable .unnameable))
  | .error fault => .error (unreadable p (.unreachable fault))
  | .ok content =>
    match FileTree.decode? content with
    | none => .error (unreadable p .undecodable)
    | some s =>
      match Json.read (w.limits.json s) s with
      | .ok d => .ok d
      | .error .malformed => .error (unreadable p .malformedJson)
      | .error .tooLong => .error (.breakdown .tooManyDigits)
      | .error .tooDeep => .error (.breakdown .tooDeep)

/-- **The failure of an entry as a failure of the file.** A report is told under the number of the
entry, with its code and its suggestions. -/
def within (p : Place) (index : Nat) : Failure → Failure
  | .report r => .report (refusal p r.code (s!"Result {index} in " ++ p.text ++ ": " ++ r.message)
      (some (.report r)) r.suggestions)
  | f => f

/-- The results of the entries from the given number on, with room for showing what is in them. -/
def ofEntries (room : Nat) (p : Place) (index : Nat) : List Data → Except Failure (List Result)
  | [] => .ok []
  | d :: ds => do
    let r ← (Result.ofData room d).mapError (within p index)
    let rs ← ofEntries room p (index + 1) ds
    .ok (r :: rs)

/-- **The results in a file.** -/
def load (w : World) (p : Place) : Except Failure (List Result) := do
  match ← readValue w p with
  | .list entries => ofEntries w.limits.shown p 0 entries
  | _ => .error (.report (refusal p .fieldKind (p.text ++ " must contain a JSON array of results")
      none []))

end QuerySieve.Archive
