import QuerySieve.Text.Blank
import QuerySieve.Text.Case

/-!
# License — the licence a result is published under

A licence has a name and perhaps a page. Some are well known; `License.byName` finds them in any case
and with blanks around the name, and makes a licence of its own from any other name. A name that says
nothing stands for the licence `unknown`.
-/

namespace QuerySieve

/-- A licence, known by its name. -/
structure License where
  name : String
  url : String
  deriving DecidableEq, Repr, Inhabited

namespace License

/-- The licence of a result that names none. -/
def unknown : License := ⟨"Unknown", ""⟩

/-- The well-known licences with their keys, in the order in which they are listed. -/
def known : List (String × License) := [
  ("UNKNOWN", unknown),
  ("PUBLIC_DOMAIN_MARK",
    ⟨"Public Domain Mark", "https://creativecommons.org/publicdomain/mark/1.0/"⟩),
  ("CC0", ⟨"CC0", "https://creativecommons.org/publicdomain/zero/1.0/"⟩),
  ("CC_BY_4", ⟨"CC BY 4.0", "https://creativecommons.org/licenses/by/4.0/"⟩),
  ("CC_BY_SA_4", ⟨"CC BY-SA 4.0", "https://creativecommons.org/licenses/by-sa/4.0/"⟩),
  ("APACHE_2", ⟨"Apache 2.0", "https://www.apache.org/licenses/LICENSE-2.0"⟩),
  ("GPL_3", ⟨"GPL 3.0", "https://www.gnu.org/licenses/gpl-3.0.html"⟩),
  ("MIT", ⟨"MIT", "https://opensource.org/licenses/MIT"⟩)]

/-- The well-known licence with the key. -/
def ofKey? (key : String) : Option License := known.lookup key

/-- **The licence that a name stands for.** -/
def byName (name : Option String) : License :=
  match name with
  | none => unknown
  | some name =>
    let bare := Text.trimString name
    if bare.isEmpty then unknown
    else
      match known.find? fun entry => Text.lowerString entry.2.name == Text.lowerString bare with
      | some entry => entry.2
      | none => ⟨bare, ""⟩

end License

end QuerySieve
