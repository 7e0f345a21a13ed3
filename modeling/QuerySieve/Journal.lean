import QuerySieve.Text.Quoted
import QuerySieve.Text.Case

/-!
# Journal — what is noted while filters are at work

An operation that notes something has a function beside it that lists the entries; the operation
itself stays a plain function. Entries have a severity, and a journal shows those that are at least as
severe as its threshold.
-/

namespace QuerySieve

/-- How severe an entry is. -/
inductive Severity where
  | debug
  | info
  | warning
  | error
  | critical
  deriving DecidableEq, Repr, Inhabited

namespace Severity

/-- All severities, from the least on. -/
def all : List Severity := [debug, info, warning, error, critical]

/-- The name of a severity. -/
def name : Severity → String
  | debug => "DEBUG"
  | info => "INFO"
  | warning => "WARNING"
  | error => "ERROR"
  | critical => "CRITICAL"

/-- The rank of a severity among the thresholds. -/
def rank : Severity → Nat
  | debug => 10
  | info => 20
  | warning => 30
  | error => 40
  | critical => 50

/-- The severity that a text names, in any case. -/
def ofName? (text : String) : Option Severity := all.find? fun s => Text.spells s.name text

end Severity

/-- Which part of the work an entry comes from. -/
inductive Origin where
  | matching
  | pipeline
  deriving DecidableEq, Repr

/-- An entry of the journal. -/
structure Entry where
  severity : Severity
  origin : Origin
  text : String
  deriving DecidableEq, Repr

/-- A threshold: entries of a lower rank are not shown. -/
inductive Threshold where
  | everything
  | from (severity : Severity)
  deriving DecidableEq, Repr

namespace Threshold

/-- The rank of the least entry that is shown. -/
def rank : Threshold → Nat
  | everything => 0
  | .from s => s.rank

/-- The name of a threshold. -/
def name : Threshold → String
  | everything => "NOTSET"
  | .from s => s.name

/-- The names beside those of the severities. -/
def aliases : List (String × Threshold) :=
  [("NOTSET", everything), ("WARN", .from .warning), ("FATAL", .from .critical)]

/-- **The threshold that a text names**, in any case; warnings if it names none. -/
def ofName (text : String) : Threshold :=
  match Severity.ofName? text with
  | some s => .from s
  | none =>
    match aliases.find? fun entry => Text.spells entry.1 text with
    | some entry => entry.2
    | none => .from .warning

/-- The entry is shown. -/
def shows (t : Threshold) (e : Entry) : Bool := t.rank ≤ e.severity.rank

end Threshold

end QuerySieve
