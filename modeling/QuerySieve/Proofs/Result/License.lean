import QuerySieve.Proofs.License
import QuerySieve.Proofs.Result.Haystack
import QuerySieve.Proofs.Settings.Field
import QuerySieve.Result.Record

/-!
# Proofs/Result/License — how a licence is written does not change what a result matches

A record names its licence in any case, with blanks around the name, by a name that is well known or
by one of its own.  Whatever licence this comes to, the haystack ends with the name that was given, in
small letters and without the blanks (`haystack_byName`); only a name that says nothing, or that the
licence is unknown, leaves the haystack as it is without a licence (`unlicensed`).
-/

namespace QuerySieve.Result

/-! ## A licence in a haystack -/

/-- The result with nothing known of its licence. -/
def unlicensed (r : Result) : Result := { r with license := License.unknown }

theorem haystack_of_unknown {r : Result} (h : r.license = License.unknown) :
    r.haystack = r.unlicensed.haystack := by
  rw [unlicensed, ← h]

/-- **A licence that is known comes last in the haystack**, in its small form. -/
theorem haystack_of_known {r : Result} (h : r.license ≠ License.unknown) :
    r.haystack = r.unlicensed.haystack ++ " " ++ Text.lowerString r.license.name := by
  have hfields : r.fields = r.unlicensed.fields ++ [r.license.name] := by
    simp [fields, unlicensed, h]
  have hne : r.unlicensed.fields.map Text.lowerString ≠ [] :=
    mt List.map_eq_nil_iff.mp r.unlicensed.fields_ne_nil
  rw [haystack_eq_intercalate, haystack_eq_intercalate, hfields, List.map_append,
    List.map_singleton, String.intercalate_append_of_ne_nil hne (List.cons_ne_nil _ _),
    String.intercalate_singleton]

/-- **The licence of a record** is looked up by the name that the record gives. -/
theorem license_of_ofData {room : Nat} {fields : Fields} {r : Result} {name : String}
    (hname : licenseField fields = some (.text name)) (h : ofData room (.record fields) = .ok r) :
    r.license = License.byName (some name) := by
  rw [ofData, ofFields] at h
  split at h
  · exact nomatch h
  · simp only [Sequence.bind_eq_ok_iff] at h
    obtain ⟨displayName, -, detailsUrl, -, thumbnail, -, source, -, license, hlicense, h⟩ := h
    obtain ⟨file, -, h⟩ := h
    rw [hname, optionalText] at hlicense
    rw [← Except.ok.inj h, ← Except.ok.inj hlicense]

/-- **How a licence is written does not change what a result matches.** The licence that a name
stands for is unknown exactly if the name is blank, or says `unknown` in some case and with blanks
around it; the licence of a record with any other name adds exactly the name to the haystack, in small
letters and without the blanks. By its own name every licence is found again. -/
theorem haystack_byName (name : String) :
    (License.byName (some name) = License.unknown ↔
      (∀ c ∈ name.toList, Text.isBlank c = true) ∨
        Text.lowerString (Text.trimString name) = "unknown") ∧
    (∀ (room : Nat) (fields : Fields) (r : Result), licenseField fields = some (.text name) →
      ofData room (.record fields) = .ok r → r.license = License.byName (some name)) ∧
    (∀ r : Result, r.license = License.byName (some name) →
      r.haystack = if r.license = License.unknown then r.unlicensed.haystack
        else r.unlicensed.haystack ++ " " ++ Text.lowerString (Text.trimString name)) ∧
    License.byName (some (License.byName (some name)).name) = License.byName (some name) := by
  have hunknown : License.byName (some name) = License.unknown ↔
      Text.tidy name = "" ∨ Text.tidy name = "unknown" := License.byName_eq_unknown_iff
  refine ⟨hunknown.trans (or_congr_left License.tidy_eq_empty_iff),
    fun room fields r => license_of_ofData, fun r hr => ?_, License.byName_name_byName name⟩
  split
  · rename_i hnone
    exact haystack_of_unknown hnone
  · rename_i hknown
    -- the licence keeps the spelling of the list it is found in, but its small form is the name's
    have hsays : Text.tidy name ≠ "" := (not_or.mp (mt hunknown.mpr (hr ▸ hknown))).1
    rw [haystack_of_known hknown, hr, License.lowerString_name_byName hsays, Text.tidy]

/-- A name of its own, with blanks around it and a final sigma: the blank behind it is no letter. -/
theorem haystack_byName_odos :
    let name := " ΟΔΟΣ\u3000"
    let fields : Fields := [(.name "display_name", .text "Lear"),
      (.name "license", .record [(.name "name", .text name)])]
    let r : Result := ⟨"Lear", "", none, none, License.byName (some name), none⟩
    licenseField fields = some (.text name) ∧ ofData 0 (.record fields) = .ok r ∧
      r.license ≠ License.unknown ∧ r.haystack = r.unlicensed.haystack ++ " " ++ "οδος" := by
  intro name fields r
  have hfield : licenseField fields = some (.text name) := rfl
  have hok : ofData 0 (.record fields) = .ok r := rfl
  obtain ⟨-, hlicense, hhaystack, -⟩ := haystack_byName name
  have hknown : r.license ≠ License.unknown := by decide +kernel
  have hadds := hhaystack r (hlicense 0 fields r hfield hok)
  rw [if_neg hknown] at hadds
  have hsmall : Text.lowerString (Text.trimString name) = "οδος" := by decide +kernel
  exact ⟨hfield, hok, hknown, hsmall ▸ hadds⟩

end QuerySieve.Result
