import QuerySieve.Failure
import QuerySieve.Group
import QuerySieve.Journal
import QuerySieve.Query.Basic
import QuerySieve.Result.Basic

/-!
# Pipeline — deciding which results pass, and saying why

A pipeline is a list of filters. A result passes if every group of the filters accepts its haystack,
and with no filters at all. `passes?` only decides; `explain` tries every filter and reports group by
group, and decides by the names of the groups that failed. Both fail on filters that cannot be grouped,
and `explain` also on what groups cannot be told by. What is noted on the way is listed by the functions
ending in `Journal`.
-/

namespace QuerySieve

/-- What came of one filter. -/
structure Trial where
  filter : Filter
  passed : Bool
  deriving Repr

/-- What came of one group: an outcome for each of its filters. -/
structure GroupReport where
  mark : Option Mark
  /-- What is shown for the mark. -/
  label : Data
  trials : List Trial
  deriving Repr

/-- What came of a result, and on what grounds. -/
inductive Verdict where
  /-- There were no filters. -/
  | unfiltered
  /-- So many filters were tried on a text of such a length; the groups that failed have these names. -/
  | tried (filterCount haystackLength : Nat) (reports : List GroupReport) (failed : List String)
  deriving Repr

namespace GroupReport

/-- The report on a group for a text, with room for showing its mark. -/
def of (room : Nat) (text : String) (g : Group) : Except Breakdown GroupReport :=
  match Mark.labelOf room g.mark with
  | .ok label => .ok ⟨g.mark, label, g.members.map fun f => ⟨f, f.accepts text⟩⟩
  | .error fault => .error (.ofShowing fault)

/-- The group accepted the text. -/
def passed (g : GroupReport) : Bool := g.trials.any (·.passed)

/-- What the group is called where it failed. -/
def name (g : GroupReport) : Data := if g.label.isTruthy then g.label else .text "ungrouped"

/-- The name of a group in a list of names, which must be a text. -/
def word (g : GroupReport) : Except Breakdown String :=
  match g.name with
  | .text s => .ok s
  | _ => .error .wordless

end GroupReport

namespace Verdict

/-- The result passed: no group failed. -/
def passed : Verdict → Bool
  | unfiltered => true
  | tried _ _ _ failed => failed.isEmpty

/-- How many filters were tried. -/
def filterCount : Verdict → Nat
  | unfiltered => 0
  | tried count _ _ _ => count

/-- **The grounds of a verdict in a sentence.** -/
def reason : Verdict → String
  | unfiltered => "No keyword filters in pipeline"
  | tried _ _ reports failed =>
    if failed.isEmpty then s!"All {reports.length} feature group(s) satisfied"
    else "No filter satisfied in group(s): " ++ String.intercalate ", " failed

end Verdict

namespace Pipeline

/-- **The result passes the filters.** -/
def passes? (fs : List Filter) (r : Result) : Option Bool :=
  if fs.isEmpty then some true
  else (Group.groups? fs).map fun gs => gs.all (·.accepts r.haystack)

/-- **The verdict on a result**, with every filter tried. The marks of all groups are shown before the
groups that failed are named. -/
def explain (room : Nat) (fs : List Filter) (r : Result) : Except Breakdown Verdict :=
  if fs.isEmpty then .ok .unfiltered
  else
    match Group.groups? fs with
    | none => .error .ungroupable
    | some gs => do
      let reports ← gs.mapM (GroupReport.of room r.haystack)
      let failed ← (reports.filter fun g => !g.passed).mapM GroupReport.word
      .ok (.tried fs.length r.haystack.length reports failed)

/-- **The results that pass**, in their order. -/
def accepted? (fs : List Filter) : List Result → Option (List Result)
  | [] => some []
  | r :: rs => do
    let passed ← passes? fs r
    let rest ← accepted? fs rs
    some (if passed then r :: rest else rest)

/-- The filters of a query, followed by others. -/
def ofQuery (query : String) (extra : List Filter) : List Filter := Query.filters query ++ extra

/-- The filters in a line. -/
def text (fs : List Filter) : String :=
  "KeywordFilterPipeline(" ++ String.intercalate " " (fs.map (·.form)) ++ ")"

/-- The filters as a record, with what is shown for their marks. -/
def toData (room : Nat) (fs : List Filter) : Except ShowFault Data :=
  (fs.mapM (Filter.toData room)).map fun records => .ofFields [("filters", .list records)]

/-! ## What is noted -/

/-- Building the haystack of a result without a source is noted. -/
def haystackJournal (r : Result) : List Entry :=
  if r.source.isNone then [⟨.warning, .matching, r.kindName ++ " has no source!"⟩] else []

/-- What deciding on a result notes. -/
def passesJournal (fs : List Filter) (r : Result) : List Entry :=
  if fs.isEmpty then [] else haystackJournal r

/-- What a verdict on a result notes: its grounds, unless there were no filters. -/
def explainJournal (room : Nat) (fs : List Filter) (r : Result) : List Entry :=
  passesJournal fs r ++
    match explain room fs r with
    | .ok .unfiltered => []
    | .ok v => [⟨.debug, .pipeline, Text.quoted r.displayName ++ ": " ++ v.reason⟩]
    | .error _ => []

/-- What picking the results that pass notes: what each decision notes, up to one that fails, and in
the end how many passed. -/
def acceptedJournal (fs : List Filter) (rs : List Result) : List Entry :=
  match accepted? fs rs with
  | some accepted =>
    rs.flatMap (passesJournal fs) ++ [⟨.info, .pipeline,
      s!"Keyword filters accepted {accepted.length} of {rs.length} results ({fs.length} filters)"⟩]
  | none => rs.head?.elim [] (passesJournal fs)

end Pipeline

end QuerySieve
