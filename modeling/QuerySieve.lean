import QuerySieve.Main
import QuerySieve.Proofs.Command.Sift
import QuerySieve.Proofs.Query.Grammar
import QuerySieve.Proofs.Query.RoundTrip
import QuerySieve.Settings.Profile
import QuerySieve.Proofs.Text.Neighbour
import QuerySieve.Proofs.Query.Word
import QuerySieve.Proofs.Settings.Field
import QuerySieve.Proofs.Settings.Keywords
import QuerySieve.Proofs.Result.Haystack
import QuerySieve.Proofs.Query.Recased
import QuerySieve.Proofs.License
import QuerySieve.Proofs.Result.Recased
import QuerySieve.Proofs.Data.Fields
import QuerySieve.Proofs.Data.Merge
import QuerySieve.Proofs.Settings.Source
import QuerySieve.Proofs.Settings.Outline
import QuerySieve.Proofs.Settings.Precedence
import QuerySieve.Proofs.Failure
import QuerySieve.Proofs.World
import QuerySieve.Proofs.Settings.Loader
import QuerySieve.Proofs.Result.Archive
import QuerySieve.Proofs.Settings.Assign
import QuerySieve.Proofs.Query.Terms
import QuerySieve.Proofs.Command.Terms
import QuerySieve.Proofs.Settings.Agreement
import QuerySieve.Proofs.Settings.Reload
import QuerySieve.Proofs.Moment.Calendar
import QuerySieve.Proofs.Moment.Notation
import QuerySieve.Proofs.Settings.Record
import QuerySieve.Proofs.Pipeline.Redundant
import QuerySieve.Proofs.Pipeline.Compose
import QuerySieve.Proofs.Pipeline.Report
import QuerySieve.Proofs.Filter.Flip
import QuerySieve.Proofs.Query.Seam
import QuerySieve.Proofs.Query.Dismiss
import QuerySieve.Proofs.Result.Entries
import QuerySieve.Proofs.Result.Advice
import QuerySieve.Proofs.Result.License
import QuerySieve.Proofs.Result.Spelling
import QuerySieve.Proofs.Data.Path
import QuerySieve.Proofs.Group.Partition
import QuerySieve.Proofs.Report
import QuerySieve.Proofs.Settings.SoleFile
import QuerySieve.Proofs.Settings.Exported
import QuerySieve.Proofs.Screen.Markup
import QuerySieve.Proofs.Screen.Wrap
