import QuerySieve.Command.Basic
import QuerySieve.Json.Writer
import QuerySieve.Pipeline
import QuerySieve.Result.Archive
import QuerySieve.Screen.Layout
import QuerySieve.Settings.Advice
import QuerySieve.Settings.Loader
import QuerySieve.Settings.Schema

/-!
# Command/Run — doing what was asked for

`Command.run` is a function from the world before a command to what it prints, what it notes, and the
world after it. Reports end a command and are told to the user; any other failure is nobody's to tell,
and is handed on.
-/

namespace QuerySieve

/-- What came of a command. -/
structure Outcome where
  exitCode : Nat
  /-- What was printed. -/
  output : String
  /-- What was noted, as far as it is shown. -/
  notes : List Entry
  /-- The report that ended the command. -/
  report : Option Report
  /-- The world after the command. -/
  world : World

namespace Outcome

/-- A command that printed something and changed nothing. -/
def printed (w : World) (output : String) : Outcome := ⟨0, output, [], none, w⟩

/-- A command that a report has ended. -/
def reported (w : World) (r : Report) : Outcome := ⟨1, "", [], some r, w⟩

/-- An entry of the journal on a line. -/
def noteLine (now : Moment) (e : Entry) : String :=
  let pad := Moment.padded
  pad 4 now.year ++ "-" ++ pad 2 now.month ++ "-" ++ pad 2 now.day ++ " " ++ pad 2 now.hour ++ ":" ++
    pad 2 now.minute ++ ":" ++ pad 2 now.second ++ " - " ++ e.severity.name ++ " - " ++ e.text

/-- A suggestion with its number. -/
def suggestionLines (s : Suggestion) (number : Nat) : List String :=
  (s!"{number}. " ++ s.action ++ ": " ++ s.description) ::
    match s.command with
    | some command => if command.isEmpty then [] else ["   Run: " ++ command]
    | none => []

/-- The title of a report. -/
def reportTitle (r : Report) : String := "Error: " ++ r.area.name ++ s!" ({r.code.number})"

/-- The message of a report in a panel that has room for its title. The words of a cause are not broken
into lines, as they may be anything. -/
def reportPanel (words : Cause → String) (r : Report) : String :=
  let message := Screen.visible (r.messageIn words)
  if r.quotesCause then
    Screen.framed ((Text.splitOn '\n' message).map fun line => String.ofList (Screen.expandTabs 0 line))
  else Screen.panel ((reportTitle r).length + 4) message

/-- **A report on the screen**: title, message, suggestions and identifier. -/
def reportText (words : Cause → String) (generated : String) (r : Report) : String :=
  let suggestions := (r.suggestions.zipIdx 1).flatMap fun (s, n) => suggestionLines s n
  Screen.stack [reportTitle r] ++ reportPanel words r ++
    Screen.stack ((if suggestions.isEmpty then [] else "Suggested solutions:" :: suggestions) ++
      ["Trace ID: " ++ r.identifier generated])

/-- **What a command tells beside its output**: what was noted, and the report. -/
def told (words : Cause → String) (generated : String) (o : Outcome) : String :=
  Screen.stack (o.notes.map (noteLine o.world.now)) ++
    (o.report.map (reportText words generated)).getD ""

end Outcome

namespace Command

/-! ## On queries -/

/-- A text without the sequences that would change how the screen writes: the escape character, a
bracket, numbers with signs between them, and a letter. -/
def withoutStyles (fuel : Nat) (cs : List Char) : List Char :=
  match fuel, cs with
  | 0, cs => cs
  | _, [] => []
  | fuel + 1, '\x1b' :: '[' :: rest =>
    let after := rest.dropWhile fun c => c.isDigit || c == ';' || c == '?'
    match after with
    | c :: after =>
      if c.isAlpha then withoutStyles fuel after
      else '\x1b' :: withoutStyles fuel ('[' :: rest)
    | [] => '\x1b' :: withoutStyles fuel ('[' :: rest)
  | fuel + 1, c :: rest => c :: withoutStyles fuel rest

/-- A text on a line of its own, without styles. -/
def echo (s : String) : String := String.ofList (withoutStyles s.length s.toList) ++ "\n"

/-- The text, or another one if it is empty. -/
def orElse (s other : String) : String := if s.isEmpty then other else s

/-- What a table shows for a mark: a hyphen where there is none, or nothing to be seen of it. Commands
have only filters whose marks are shown as texts. -/
def markCell (room : Nat) (mark : Option Mark) : String :=
  match Mark.labelOf room mark with
  | .ok (.text s) => orElse s "-"
  | _ => "-"

/-- A row of the table of filters. -/
def filterRow (room : Nat) (f : Filter) (number : Nat) : List String :=
  [toString number, if f.inclusive then "[green]include[/green]" else "[red]exclude[/red]",
    Markup.escape f.keyword, markCell room f.mark, Markup.escape f.form]

/-- The table of filters. -/
def filterTable (room : Nat) (fs : List Filter) : String :=
  Screen.table "Keyword Filters" ["#", "Polarity", "Keyword", "Feature", "Token"]
    ((fs.zipIdx 1).map fun (f, n) => filterRow room f n)

/-- Shows the filters of a query and what is left of it. -/
def runParse (w : World) (query : String) (asJson : Bool) : Except Failure Outcome :=
  let fs := Query.filters query
  let terms := Query.terms query
  if asJson then
    match Pipeline.toData w.limits.shown fs with
    | .ok (.record fields) =>
      let record := Data.record (Fields.put fields (.name "query") (.text terms))
      .ok (.printed w (Json.page record ++ "\n"))
    | .ok d => .ok (.printed w (Json.page d ++ "\n"))
    | .error fault => .error (.breakdown (.ofShowing fault))
  else
    .ok (.printed w (
      (if fs.isEmpty then Screen.print "[yellow]No keyword filters found[/yellow]"
        else filterTable w.limits.shown fs) ++
      Screen.print ("Search terms: [bold]" ++ Markup.escape terms ++ "[/bold]")))

/-- What is told of an accepted result in the object notation. -/
def summary (r : Result) : Data :=
  .ofFields [("display_name", .text r.displayName), ("source", r.source.elim .null .text),
    ("details_url", .text r.detailsUrl)]

/-- The row of an accepted result. -/
def resultRow (r : Result) : List String :=
  [Markup.escape r.displayName, Markup.escape (orElse (r.source.getD "") "-"),
    Markup.escape r.detailsUrl]

/-- The line that tells why a result passed or not. -/
def verdictLine (r : Result) (v : Verdict) : String :=
  (if v.passed then "[green]PASS[/green] " else "[red]FAIL[/red] ") ++ Markup.escape r.displayName ++
    ": " ++ Markup.escape v.reason

/-- The panel that tells what was looked for. -/
def termsPanel (terms : String) : String :=
  Screen.panel 0 (Screen.shown ("[bold cyan]Keyword Filter Results[/bold cyan]\n[dim]Search terms: "
    ++ orElse (Markup.escape terms) "(none)" ++ "[/dim]"))

/-- What sifting prints: what was looked for, the filters, the results that were accepted, and the
verdicts that were asked for. -/
def siftingText (room : Nat) (query : String) (fs : List Filter) (total : Nat)
    (accepted : List Result) (verdicts : List (Result × Verdict)) : String :=
  termsPanel (Query.without query fs) ++
    (if fs.isEmpty then "" else filterTable room fs) ++
    Screen.table s!"Accepted {accepted.length} of {total} results" ["Name", "Source", "URL"]
      (accepted.map resultRow) ++
    String.join (verdicts.map fun (r, v) => Screen.print (verdictLine r v))

/-- The settings, the filters and the results of sifting. -/
def prepare (w : World) (s : Sifting) : Except Failure (Settings × List Filter × List Result) := do
  let loader ← Loader.start w s.settings
  let settings ← loader.outcome w Loader.usualStart s.arguments
  let results ← Archive.load w s.results
  .ok (settings, Pipeline.ofQuery s.query settings.filters.toFilters, results)

/-- The results that are accepted, the verdicts that are asked for, and what is noted on the way. -/
def judge (room : Nat) (fs : List Filter) (rs : List Result) (explain : Bool) :
    Except Breakdown (List Result × List (Result × Verdict) × List Entry) :=
  if explain then do
    let verdicts ← rs.mapM fun r => (Pipeline.explain room fs r).map fun v => (r, v)
    .ok ((verdicts.filter (·.2.passed)).map (·.1), verdicts,
      rs.flatMap (Pipeline.explainJournal room fs))
  else
    match Pipeline.accepted? fs rs with
    | some accepted => .ok (accepted, [], Pipeline.acceptedJournal fs rs)
    | none => .error .ungroupable

/-- **Sifts the results of a file.** -/
def runSift (w : World) (s : Sifting) : Except Failure Outcome := do
  let (settings, fs, rs) ← prepare w s
  let (accepted, verdicts, notes) ← (judge w.limits.shown fs rs s.explain).mapError .breakdown
  let output := if s.asJson then Json.page (.list (accepted.map summary)) ++ "\n"
    else siftingText w.limits.shown s.query fs rs.length accepted verdicts
  .ok { Outcome.printed w output with
    notes := notes.filter (Threshold.from settings.effectiveLevel).shows }

/-! ## On settings -/

/-- The world with a text in a file, or the failure to write it. -/
def written (w : World) (p : Place) (text : String) : Except Failure World :=
  (w.write p text).mapError fun fault => .breakdown (.unreachable fault)

/-- **Writes a profile to a file**, but only over another file if that is wanted. -/
def runCreate (w : World) (output : Place) (profile : Profile) (force : Bool) :
    Except Failure Outcome := do
  let name := Markup.escape output.text
  let there ← (w.holds output).mapError fun fault => Failure.breakdown (.unreachable fault)
  if there && !force then
    .ok { Outcome.printed w (Screen.print ("[yellow]" ++ name ++
      " already exists, use --force to overwrite[/yellow]")) with exitCode := 1 }
  else
    let _ ← Loader.start w none
    let w ← written w output (profile.page w.now)
    .ok (.printed w (Screen.print ("[green]Wrote " ++ profile.name ++ " configuration to " ++ name ++
      "[/green]")))

/-- The row of a filter of the settings. -/
def settingRow (room : Nat) (f : Filter) : List String := [Markup.escape f.form, markCell room f.mark]

/-- **Shows the settings.** -/
def runInspect (w : World) (file : Option String) : Except Failure Outcome := do
  let loader ← Loader.start w file
  let settings ← loader.outcome w Loader.usualStart []
  let fs := settings.filters.toFilters
  .ok (.printed w (
    Screen.table "Configured Keyword Filters" ["Token", "Feature"] (fs.map (settingRow w.limits.shown)) ++
    Screen.print ("Log level: [bold]" ++ settings.effectiveLevel.name ++ "[/bold]") ++
    String.join (settings.advice.map fun a =>
      Screen.print ("[yellow]Warning:[/yellow] " ++ Markup.escape a.message))))

/-- Prints the form of the settings, or writes it to a file. -/
def runSchema (w : World) (output : Option Place) : Except Failure Outcome := do
  let _ ← Loader.start w none
  let page := Json.page Settings.schema
  match output with
  | none => .ok (.printed w (page ++ "\n"))
  | some p => do
    let w ← written w p page
    .ok (.printed w (Screen.print ("[green]Schema written to " ++ Markup.escape p.text ++ "[/green]")))

/-! ## All commands -/

/-- The version of the command. -/
def versionText : String :=
  Screen.print "[bold cyan]SearchFilter[/bold cyan] version [green]0.1.0[/green]"

/-- The places where settings may be read from. -/
def settingsPlaces (w : World) (file : Option String) : List Place :=
  match Loader.start w file with
  | .ok l => l.file.elim l.candidates fun p => [p]
  | .error _ => []

/-- **The places that a command may look at.** -/
def places (w : World) : Command → List Place
  | .sift s => s.results :: settingsPlaces w s.settings
  | .create output _ _ => [output]
  | .inspect file => settingsPlaces w file
  | .schema output => output.toList
  | _ => []

/-- What came of a command, a report told. -/
def telling (w : World) : Except Failure Outcome → Except Failure Outcome
  | .error (.report r) => .ok (.reported w r)
  | o => o

/-- **Does what was asked for.** -/
def run (w : World) : Command → Except Failure Outcome
  | .version => .ok (.printed w versionText)
  | .parse query asJson => runParse w query asJson
  | .clean query => .ok (.printed w (echo (Query.terms query)))
  | .sift s => telling w (runSift w s)
  | .create output profile force => telling w (runCreate w output profile force)
  | .inspect file => telling w (runInspect w file)
  | .schema output => telling w (runSchema w output)

end Command

end QuerySieve
