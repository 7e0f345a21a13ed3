import QuerySieve.Proofs.Query.RoundTrip

/-!
# Proofs/Query/Word — the word of a token and the keyword of its filter

A keyword is the small form of a word, and that is a word again: small letters neither end it nor
use it up (`isWord_lower`).  So every filter of a query can be written as a token, and the token of
any keyword is read back as its filter — exactly if the keyword is a word
(`exists_filters_formOf_iff`).
-/

namespace QuerySieve

namespace Token

/-- The text can stand in a token as its word, and names a filter there. -/
structure IsWord (cs : List Char) : Prop where
  ne_nil : cs ≠ []
  isWordChar : ∀ c ∈ cs, isWordChar c = true

instance (cs : List Char) : Decidable (IsWord cs) :=
  -- not a statement on all characters, which is decided by trying every character there is
  decidable_of_iff (cs.isEmpty = false ∧ cs.all Token.isWordChar = true)
    ⟨fun h => ⟨List.isEmpty_eq_false_iff.mp h.1, List.all_eq_true.mp h.2⟩,
      fun h => ⟨List.isEmpty_eq_false_iff.mpr h.ne_nil, List.all_eq_true.mpr h.isWordChar⟩⟩

theorem isWordChar_iff {c : Char} : isWordChar c = true ↔ Text.isBlank c = false ∧ c ≠ '-' := by
  simp [Token.isWordChar]

/-- A hyphen is nothing's small form but its own. -/
theorem eq_hyphen_of_lowerChar {c : Char} (h : Text.lowerChar c = '-') : c = '-' := by
  have hnat : (Text.lowerChar c).toNat = 0x2D := by rw [h]; rfl
  rcases Text.plain_of_plain_lowerChar (c := c) (by omega) with hc | rfl
  · rw [Text.lowerChar_of_plain hc, Text.toNat_toLower] at hnat
    refine Char.toNat_inj.mp ?_
    rw [show '-'.toNat = 0x2D from rfl]
    split at hnat <;> omega
  · exact absurd (h.symm.trans lowerChar_kelvin) (by decide)

theorem isWordChar_of_mem_lower {cs : List Char} (h : ∀ c ∈ cs, isWordChar c = true) :
    ∀ d ∈ Text.lower cs, isWordChar d = true := by
  intro d hd
  have hblank : ∀ c ∈ cs, Text.isBlank c = false := fun c hc => (isWordChar_iff.mp (h c hc)).1
  refine isWordChar_iff.mpr ⟨Text.isBlank_eq_false_of_mem_lower hblank d hd, ?_⟩
  rintro rfl
  rcases Text.mem_lowerFrom hd with hspecial | ⟨c, hc, -, hlower⟩
  · exact absurd hspecial (by decide)
  · exact (isWordChar_iff.mp (h c hc)).2 (eq_hyphen_of_lowerChar hlower.symm)

/-- **The small form of a word is a word.** -/
theorem isWord_lower {cs : List Char} (h : IsWord cs) : IsWord (Text.lower cs) :=
  ⟨mt Text.lower_eq_nil_iff.mp h.ne_nil, isWordChar_of_mem_lower h.isWordChar⟩

end Token

namespace Filter

theorem isExpressible_iff {f : Filter} : f.IsExpressible ↔ Token.IsWord f.keyword.toList :=
  ⟨fun h => ⟨h.ne_nil, h.word⟩, fun h => ⟨h.ne_nil, h.isWordChar⟩⟩

/-- The filter for a word can be written as a token. -/
theorem isExpressible_make {inclusive : Bool} {keyword : String} {mark : Option Mark}
    {form : Option String} (h : Token.IsWord keyword.toList) :
    (make inclusive keyword mark form).IsExpressible := by
  rw [isExpressible_iff, make, Text.toList_lowerString]
  exact Token.isWord_lower h

end Filter

namespace Query

open QuerySieve.Filter

/-- **Every filter of a query comes from a token with a word.** -/
theorem exists_token_of_mem_filters {query : String} {f : Filter} (h : f ∈ filters query) :
    ∃ t : Token, t.Proper ∧ t.word ≠ [] ∧ (Piece.token t).filter? = some f := by
  obtain ⟨p, hp, hf⟩ := List.mem_filterMap.mp h
  cases p with
  | char c => exact absurd hf (Option.some_ne_none f).symm
  | token t =>
    refine ⟨t, (Piece.scanned_scan _).proper_of_mem hp, fun hword => ?_, hf⟩
    exact Option.some_ne_none f (hf.symm.trans (Piece.filter?_token_of_eq_nil hword))

theorem isExpressible_of_mem_filters {query : String} {f : Filter} (h : f ∈ filters query) :
    f.IsExpressible := by
  obtain ⟨t, hproper, hword, hf⟩ := exists_token_of_mem_filters h
  rw [Piece.filter?_token_of_ne_nil hword] at hf
  refine Option.some.inj hf ▸ isExpressible_make ?_
  rw [String.toList_ofList]
  exact ⟨hword, hproper.word⟩

/-- **The token for a word is read as its filter**, in small letters. -/
theorem filters_formOf (inclusive : Bool) {word : String} (h : Token.IsWord word.toList) :
    filters (formOf inclusive word) =
      [make inclusive word none (some (formOf inclusive word))] := by
  let t : Token := ⟨some (if inclusive then .plus else .minus), tag.toList, word.toList⟩
  have htext : (formOf inclusive word).toList = t.text ++ [] := by
    rw [List.append_nil, formOf, String.toList_append, String.toList_append]
    cases inclusive <;> rfl
  have hscan : Piece.Scanned (formOf inclusive word).toList [.token t] :=
    htext ▸ .token ⟨Token.isTag_tag, h.isWordChar⟩ Token.endsWord_nil .nil
  have hsign : (t.sign != some .minus) = inclusive := by cases inclusive <;> rfl
  have hform : String.ofList t.text = formOf inclusive word := by
    rw [← List.append_nil t.text, ← htext, String.ofList_toList]
  rw [filters, hscan.scan_eq, List.filterMap_cons_some (Piece.filter?_token_of_ne_nil h.ne_nil),
    hsign, hform, String.ofList_toList]
  rfl

/-- **The form of a filter is read back as the filter.** -/
theorem filters_form {f : Filter} (hplain : f.IsPlain) (hword : f.IsExpressible) :
    filters f.form = [f.unmarked] := by
  have hform : f.form = formOf f.inclusive f.keyword := by
    rw [hplain.form_eq, ← toList_formOf, String.ofList_toList]
  rw [hform, filters_formOf _ (isExpressible_iff.mp hword), make, hplain.lowerString_keyword,
    Option.getD_some, ← hform, unmarked]

/-- A form that is read as one filter, with nothing left over, has a word for its keyword. -/
theorem isWord_of_filters_formOf {inclusive : Bool} {word : String} {f : Filter}
    (hread : filters (formOf inclusive word) = [f]) (hform : f.form = formOf inclusive word) :
    Token.IsWord word.toList := by
  have hmem : f ∈ filters (formOf inclusive word) := hread ▸ List.mem_singleton_self f
  obtain ⟨t, hproper, hword, hf⟩ := exists_token_of_mem_filters hmem
  rw [Piece.filter?_token_of_ne_nil hword] at hf
  have htext : t.text = (if inclusive then '+' else '-') :: (tag.toList ++ word.toList) := by
    have := congrArg String.toList hform
    rw [← Option.some.inj hf, make, Option.getD_some, String.toList_ofList] at this
    rw [this, formOf, String.toList_append, String.toList_append]
    cases inclusive <;> rfl
  have htail : t.text.tail = t.tag ++ t.word := by
    have hfirst := hproper.text_eq_cons
    rw [htext, List.cons.injEq] at hfirst
    rw [Token.text_eq]
    cases hsign : t.sign with
    | some sign => cases sign <;> rfl
    | none =>
      rw [hsign] at hfirst
      cases inclusive <;> exact absurd hfirst.1 (by decide)
  rw [htext, List.tail_cons] at htail
  have hparts := List.append_inj htail (by rw [String.length_toList, hproper.tag.length_eq])
  rw [hparts.2]
  exact ⟨hword, hproper.word⟩

/-- **The keywords that a token can name are the words.** The token for a keyword in small letters
is read as one filter with that keyword and nothing is left over, exactly if it is a word. -/
theorem exists_filters_formOf_iff {inclusive : Bool} {word : String}
    (hsmall : Text.lowerString word = word) :
    (∃ f, filters (formOf inclusive word) = [f] ∧ f.keyword = word ∧
      f.form = formOf inclusive word) ↔ Token.IsWord word.toList := by
  constructor
  · rintro ⟨f, hread, -, hform⟩
    exact isWord_of_filters_formOf hread hform
  · intro hword
    have hplain : (make inclusive word none none).IsPlain := ⟨_, _, _, rfl⟩
    have hread := filters_form hplain (isExpressible_make hword)
    have hform : (make inclusive word none none).form = formOf inclusive word := by
      rw [make, Option.getD_none, hsmall]
    rw [hform] at hread
    exact ⟨_, hread, hsmall, hform⟩

end Query

end QuerySieve
