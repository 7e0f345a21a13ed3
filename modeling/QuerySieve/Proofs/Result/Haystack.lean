import QuerySieve.Proofs.Settings.Keywords
import QuerySieve.Proofs.Text.Neighbour
import QuerySieve.Result.Basic

/-!
# Proofs/Result/Haystack — a keyword is looked for in each text of a result by itself

The haystack is the small form of all texts of a result with spaces between, but no small form looks
across a space and no keyword holds one.  So a keyword occurs in the haystack exactly if it occurs
in the small form of one of the texts (`occursIn_haystack_iff`).  That is not the same as occurring
in the text itself, in any case: a final sigma is another letter than an ordinary one.  The keywords
that are found in every text which they occur in are those whose sigmas are settled
(`found_iff_settled`).
-/

namespace QuerySieve

namespace Result

/-! ## The texts of a result -/

/-- **The texts of a result that a keyword can match**, one by one. -/
inductive Matchable (r : Result) : String → Prop
  | source {s : String} (h : r.source = some s) : Matchable r s
  | displayName : Matchable r r.displayName
  | fileName {f : FileEntry} (h : r.file = some f) : Matchable r f.name
  | detailsUrl : Matchable r r.detailsUrl
  | thumbnailUrl {s : String} (h : r.thumbnailUrl = some s) : Matchable r s
  | license (h : r.license ≠ License.unknown) : Matchable r r.license.name

theorem mem_fields_iff {r : Result} {text : String} : text ∈ r.fields ↔ r.Matchable text := by
  simp only [fields, List.mem_append, Option.mem_toList, Option.map_eq_some_iff,
    List.mem_singleton]
  constructor
  · rintro (((((hsource | rfl) | ⟨f, hfile, rfl⟩) | rfl) | hthumbnail) | hlicense)
    · exact .source hsource
    · exact .displayName
    · exact .fileName hfile
    · exact .detailsUrl
    · exact .thumbnailUrl hthumbnail
    · split at hlicense
      · exact absurd hlicense List.not_mem_nil
      · rename_i hknown
        exact List.mem_singleton.mp hlicense ▸ .license hknown
  · intro h
    cases h with
    | source h => simp [h]
    | displayName => simp
    | fileName h => simp [h]
    | detailsUrl => simp
    | thumbnailUrl h => simp [h]
    | license h => simp [h]

theorem fields_ne_nil (r : Result) : r.fields ≠ [] :=
  List.ne_nil_of_mem (mem_fields_iff.mpr .displayName)

/-! ## Field by field -/

theorem toList_haystack (r : Result) :
    r.haystack.toList = [' '].intercalate (r.fields.map fun text => Text.lower text.toList) := by
  rw [haystack, Text.toList_lowerString, String.toList_intercalate]
  exact (Text.lower_intercalate _).trans (congrArg _ List.map_map)

/-- **The haystack is joined from the small forms of the texts.** -/
theorem haystack_eq_intercalate (r : Result) :
    r.haystack = String.intercalate " " (r.fields.map Text.lowerString) := by
  rw [← String.toList_inj, toList_haystack, String.toList_intercalate, List.map_map]
  exact congrArg _ (List.map_congr_left fun text _ => (Text.toList_lowerString text).symm)

/-- **A text without a space occurs in the haystack if it does in the small form of a field.** -/
theorem infix_haystack_iff {r : Result} {part : List Char} (h : ' ' ∉ part) :
    part <:+: r.haystack.toList ↔ ∃ text, r.Matchable text ∧ part <:+: Text.lower text.toList := by
  have hne : (r.fields.map fun text => Text.lower text.toList) ≠ [] :=
    mt List.map_eq_nil_iff.mp r.fields_ne_nil
  rw [toList_haystack, Text.infix_intercalate_iff h hne]
  simp only [List.mem_map, exists_exists_and_eq_and, mem_fields_iff]

theorem notMem_space {cs : List Char} (h : ∀ c ∈ cs, Text.isBlank c = false) : ' ' ∉ cs :=
  fun hmem => Bool.false_ne_true ((h ' ' hmem).symm.trans Text.isBlank_space)

/-- **A keyword is looked for field by field.** The small form of a keyword without blanks — and
that is any keyword of a query or of settings — occurs in the haystack of a result exactly if it
occurs in the small form of one of its texts by itself; the haystack is joined from these small
forms. -/
theorem occursIn_haystack_iff (r : Result) :
    (∀ keyword : String, (∀ c ∈ keyword.toList, Text.isBlank c = false) →
      (Text.occursIn (Text.lower keyword.toList) r.haystack.toList = true ↔
        ∃ text, r.Matchable text ∧
          Text.occursIn (Text.lower keyword.toList) (Text.lower text.toList) = true)) ∧
    r.haystack = String.intercalate " " (r.fields.map Text.lowerString) ∧
    (∀ query, ∀ f ∈ Query.filters query, ∀ c ∈ f.keyword.toList, Text.isBlank c = false) ∧
    (∀ d set, FilterSettings.ofData d = .ok set →
      ∀ f ∈ set.toFilters, ∀ c ∈ f.keyword.toList, Text.isBlank c = false) := by
  refine ⟨fun keyword hkeyword => ?_, haystack_eq_intercalate r, fun query f hf c hc => ?_,
    fun d set hset f hf c hc => ?_⟩
  · have hspace := notMem_space (Text.isBlank_eq_false_of_mem_lower hkeyword)
    simp only [Text.occursIn_iff_infix]
    exact infix_haystack_iff hspace
  · have hword := Filter.isExpressible_iff.mp (Query.isExpressible_of_mem_filters hf)
    exact (Token.isWordChar_iff.mp (hword.isWordChar c hc)).1
  · have hword := Filter.isExpressible_iff.mp (FilterSettings.isExpressible_of_ofData hset hf)
    exact (Token.isWordChar_iff.mp (hword.isWordChar c hc)).1

/-- The sigma that ends the source stands before a letter of the name, but for the space between. -/
theorem occursIn_haystack_iff_epub :
    let r : Result := ⟨"Ibsen", "", none, some "ΣΟΦΟΣ", License.unknown, some ⟨"i.EPUB", 0⟩⟩
    (∀ c ∈ "Epub".toList, Text.isBlank c = false) ∧
      (Text.occursIn (Text.lower "Epub".toList) r.haystack.toList = true ↔
        ∃ text, r.Matchable text ∧
          Text.occursIn (Text.lower "Epub".toList) (Text.lower text.toList) = true) := by
  intro r
  have hnone : "Epub".toList.any Text.isBlank = false := by decide
  have hblank : ∀ c ∈ "Epub".toList, Text.isBlank c = false := fun c hc =>
    Bool.eq_false_iff.mpr (List.any_eq_false.mp hnone c hc)
  exact ⟨hblank, (occursIn_haystack_iff r).1 "Epub" hblank⟩

/-! ## Keywords that are found wherever they stand -/

/-- An inclusive filter accepts a result if a text has the keyword, both in small letters. -/
theorem accepts_make_iff {r : Result} {keyword : String} (h : Token.IsWord keyword.toList)
    {mark : Option Mark} {form : Option String} :
    (Filter.make true keyword mark form).accepts r.haystack = true ↔
      ∃ text, r.Matchable text ∧ Text.lower keyword.toList <:+: Text.lower text.toList := by
  have hspace := notMem_space fun c hc =>
    (Token.isWordChar_iff.mp (Token.isWordChar_of_mem_lower h.isWordChar c hc)).1
  rw [← infix_haystack_iff hspace, ← Text.occursIn_iff_infix, Filter.accepts, Filter.make,
    Text.toList_lowerString, beq_true]

theorem accepts_make_not {text keyword : String} {mark mark' : Option Mark}
    {form form' : Option String} :
    (Filter.make false keyword mark form).accepts text =
      !(Filter.make true keyword mark' form').accepts text := by
  rw [Filter.accepts, Filter.accepts, Filter.make, Filter.make]
  cases Text.occursIn _ _ <;> rfl

/-- **The keywords that are found wherever they stand** are those whose capital sigmas are settled:
exactly for these, the inclusive filter of a query accepts every result that has the keyword as part
of a text, and the exclusive one does not. -/
theorem found_iff_settled (keyword : String) (h : Token.IsWord keyword.toList) :
    (∀ (r : Result) (text : String), r.Matchable text → keyword.toList <:+: text.toList →
      (∃ f, Query.filters ("+:keyword:" ++ keyword) = [f] ∧ f.accepts r.haystack = true) ∧
      ∃ f, Query.filters ("-:keyword:" ++ keyword) = [f] ∧ f.accepts r.haystack = false) ↔
    Text.Settled keyword.toList := by
  have hplus := Query.filters_formOf true h
  have hminus := Query.filters_formOf false h
  constructor
  · intro hfound
    refine Text.settled_iff.mpr fun cs hcs => ?_
    -- a result that has no text but this one
    let r : Result := ⟨String.ofList cs, "", none, none, License.unknown, none⟩
    have hname : r.displayName.toList = cs := String.toList_ofList
    obtain ⟨⟨f, hf, haccepts⟩, -⟩ := hfound r _ .displayName (by rwa [hname])
    obtain rfl := (List.cons.inj (hplus.symm.trans hf)).1
    obtain ⟨text, htext, hinfix⟩ := (accepts_make_iff h).mp haccepts
    cases htext with
    | displayName => rwa [hname] at hinfix
    | detailsUrl => exact absurd (List.infix_nil.mp hinfix) (mt Text.lower_eq_nil_iff.mp h.ne_nil)
    | license hknown => exact absurd rfl hknown
    | _ h => exact absurd h (Option.some_ne_none _).symm
  · intro hsettled r text htext hinfix
    let f := Filter.make true keyword none (some (Filter.formOf true keyword))
    have haccepts : f.accepts r.haystack = true :=
      (accepts_make_iff h).mpr ⟨text, htext, hsettled.lower_infix hinfix⟩
    refine ⟨⟨f, hplus, haccepts⟩, ⟨_, hminus, ?_⟩⟩
    rw [accepts_make_not, haccepts, Bool.not_true]

/-- A letter follows the sigma in the keyword itself, so it is the same sigma everywhere. -/
theorem found_iff_settled_sophia :
    Token.IsWord "ΣΟΦΙΑ".toList ∧ Text.Settled "ΣΟΦΙΑ".toList ∧
      ∀ (r : Result) (text : String), r.Matchable text → "ΣΟΦΙΑ".toList <:+: text.toList →
        (∃ f, Query.filters ("+:keyword:" ++ "ΣΟΦΙΑ") = [f] ∧ f.accepts r.haystack = true) ∧
        ∃ f, Query.filters ("-:keyword:" ++ "ΣΟΦΙΑ") = [f] ∧ f.accepts r.haystack = false := by
  have hword : Token.IsWord "ΣΟΦΙΑ".toList := by decide
  have hsettled : Text.Settled "ΣΟΦΙΑ".toList := by decide +kernel
  exact ⟨hword, hsettled, (found_iff_settled "ΣΟΦΙΑ" hword).mpr hsettled⟩

/-- **A keyword that stands in the name of a result and is not found**: its sigma ends the keyword,
but not the word in the name. -/
theorem exists_not_found_theos :
    let r : Result := ⟨"ΘΕΟΣΟΦΙΑ", "", none, some "Archive", License.unknown, none⟩
    Token.IsWord "ΘΕΟΣ".toList ∧ r.Matchable "ΘΕΟΣΟΦΙΑ" ∧
      "ΘΕΟΣ".toList <:+: "ΘΕΟΣΟΦΙΑ".toList ∧
      (Query.filters "+:keyword:ΘΕΟΣ").map (·.accepts r.haystack) = [false] ∧
      (Query.filters "-:keyword:ΘΕΟΣ").map (·.accepts r.haystack) = [true] :=
  ⟨by decide, .displayName, by decide, by decide +kernel, by decide +kernel⟩

end Result

end QuerySieve
