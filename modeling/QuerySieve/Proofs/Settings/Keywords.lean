import QuerySieve.Proofs.Query.Word
import QuerySieve.Proofs.Settings.Field

/-!
# Proofs/Settings/Keywords — settings accept the keywords that a token can name

Settings look at the characters of a keyword, and queries are read token by token, but both speak of
the same words: a keyword is accepted exactly if, in small letters and without blanks at its ends,
its token is read as a filter for it with nothing left over (`ofFields_given`).  So the filters that
are set are written as tokens which are read back as these filters.
-/

namespace QuerySieve

namespace FilterSettings

open Checked Sequence
open Text (tidy lowerString_tidy)

/-! ## One keyword -/

/-- **A keyword is accepted if it is a word once it is tidy**, and is kept tidy. -/
theorem normalKeyword_eq_ok_iff {keyword word : String} :
    normalKeyword keyword = .ok word ↔ tidy keyword = word ∧ Token.IsWord word.toList := by
  rw [normalKeyword, ← tidy]
  by_cases hnil : (tidy keyword).isEmpty = true
  · rw [if_pos hnil]
    refine iff_of_false (by simp) ?_
    rintro ⟨rfl, hword⟩
    exact hword.ne_nil (by simpa using hnil)
  · rw [if_neg hnil]
    by_cases hall : (tidy keyword).toList.all Token.isWordChar = true
    · rw [if_pos hall, Except.ok.injEq]
      refine (and_iff_left_of_imp ?_).symm
      rintro rfl
      exact ⟨by simpa using hnil, List.all_eq_true.mp hall⟩
    · rw [if_neg hall]
      refine iff_of_false (by simp) ?_
      rintro ⟨rfl, hword⟩
      exact hall (List.all_eq_true.mpr hword.isWordChar)

/-! ## Lists of keywords -/

theorem mapM_normalKeyword_eq_ok_iff (keywords words : List String) :
    keywords.mapM normalKeyword = .ok words ↔
      keywords.map tidy = words ∧ ∀ word ∈ words, Token.IsWord word.toList := by
  have hone : ∀ keyword word, normalKeyword keyword = .ok word ↔
      Token.IsWord (tidy keyword).toList ∧ tidy keyword = word := by
    intro keyword word
    rw [normalKeyword_eq_ok_iff, and_comm]
    exact and_congr_left fun h => by rw [h]
  have hmap : List.Forall₂ (fun keyword word => tidy keyword = word) keywords words ↔
      keywords.map tidy = words := by
    rw [← List.forall₂_map_left_iff, List.forall₂_eq_eq_eq]
  simp only [mapM_eq_ok_iff, hone, List.forall₂_and_left, hmap]
  rw [and_comm]
  refine and_congr_right ?_
  rintro rfl
  rw [List.forall_mem_map]

/-- **A list of texts is accepted if each of them is a word once it is tidy**, and is kept tidy. -/
theorem readKeywords_ofTexts_eq_ok_iff {texts words : List String} :
    readKeywords (.ofTexts texts) = .ok words ↔
      texts.map tidy = words ∧ ∀ word ∈ words, Token.IsWord word.toList := by
  rw [Data.ofTexts, readKeywords, readTexts_map_text, ← mapM_normalKeyword_eq_ok_iff]
  cases h : texts.mapM normalKeyword with
  | error p => simp [bind, Except.bind, h, refuse]
  | ok words' => simp [bind, Except.bind, h]

/-- Keywords that are accepted are words in small letters, whatever they were read from. -/
theorem isWord_of_readKeywords {d : Data} {words : List String} (h : readKeywords d = .ok words) :
    ∀ word ∈ words, Text.lowerString word = word ∧ Token.IsWord word.toList := by
  cases d with
  | list items =>
    obtain ⟨texts, -, hwords⟩ := bind_eq_ok_iff.mp h
    cases hmap : texts.mapM normalKeyword with
    | error p => simp [hmap, refuse] at hwords
    | ok words' =>
      rw [hmap] at hwords
      obtain rfl := Except.ok.inj hwords
      obtain ⟨rfl, hall⟩ := (mapM_normalKeyword_eq_ok_iff _ _).mp hmap
      intro word hword
      obtain ⟨keyword, -, rfl⟩ := List.mem_map.mp hword
      exact ⟨lowerString_tidy keyword, hall _ hword⟩
  | _ => simp [readKeywords, refuse] at h

/-! ## The filters of accepted settings -/

/-- **Every keyword of accepted settings is a word in small letters.** -/
theorem isWord_of_ofData {d : Data} {set : FilterSettings} (h : ofData d = .ok set) :
    ∀ word ∈ set.included ++ set.excluded,
      Text.lowerString word = word ∧ Token.IsWord word.toList := by
  have hfield : ∀ {fields : Fields} {name : String} {words : List String},
      field fields name [] readKeywords = .ok words →
        ∀ word ∈ words, Text.lowerString word = word ∧ Token.IsWord word.toList := by
    intro fields name words hwords
    cases hd : Fields.named? fields name with
    | none =>
      rw [field_of_none hd] at hwords
      exact Except.ok.inj hwords ▸ fun word hword => absurd hword List.not_mem_nil
    | some d => exact isWord_of_readKeywords ((field_eq_ok_iff hd).mp hwords)
  cases d with
  | record fields =>
    obtain ⟨hincluded, hexcluded, -⟩ := ofFields_eq_ok_iff.mp h
    intro word hword
    exact (List.mem_append.mp hword).elim (hfield hincluded word) (hfield hexcluded word)
  | _ => simp [ofData, refuse] at h

theorem isPlain_of_mem_toFilters {set : FilterSettings} {f : Filter} (h : f ∈ set.toFilters) :
    f.IsPlain := by
  rcases List.mem_append.mp h with h | h
  · obtain ⟨keyword, -, rfl⟩ := List.mem_map.mp h
    exact ⟨_, _, _, rfl⟩
  · obtain ⟨keyword, -, rfl⟩ := List.mem_map.mp h
    exact ⟨_, _, _, rfl⟩

/-- Filters for words can be written as tokens. -/
theorem isExpressible_of_mem_toFilters {set : FilterSettings}
    (h : ∀ word ∈ set.included ++ set.excluded, Token.IsWord word.toList) {f : Filter}
    (hf : f ∈ set.toFilters) : f.IsExpressible := by
  rcases List.mem_append.mp hf with hf | hf
  · obtain ⟨keyword, hkeyword, rfl⟩ := List.mem_map.mp hf
    exact Filter.isExpressible_make (h keyword (List.mem_append_left _ hkeyword))
  · obtain ⟨keyword, hkeyword, rfl⟩ := List.mem_map.mp hf
    exact Filter.isExpressible_make (h keyword (List.mem_append_right _ hkeyword))

/-- **The filters of accepted settings can be written as tokens.** -/
theorem isExpressible_of_ofData {d : Data} {set : FilterSettings} (h : ofData d = .ok set)
    {f : Filter} (hf : f ∈ set.toFilters) : f.IsExpressible :=
  isExpressible_of_mem_toFilters (fun word hword => (isWord_of_ofData h word hword).2) hf

/-! ## Settings that are given as two lists -/

/-- The record that two lists of keywords are given as, with a feature or without. -/
def given (included excluded : List String) (feature : Option Feature) : Fields :=
  [(.name "include_keywords", .ofTexts included), (.name "exclude_keywords", .ofTexts excluded)] ++
    (feature.map fun x => (Key.name "feature", Data.text x.name)).toList

section Given

variable {included excluded : List String} {feature : Option Feature}

theorem field_given_feature :
    field (given included excluded feature) "feature" none readFeature = .ok feature := by
  cases feature with
  | none => exact field_of_none rfl
  | some x =>
    refine (field_eq_ok_iff rfl).mpr ?_
    rw [readFeature, Feature.ofName?_name]

/-- **Two lists of keywords are accepted** if all are words once they are tidy, and no tidy keyword
is in both. -/
theorem ofFields_given_eq_ok_iff {set : FilterSettings} :
    ofFields (given included excluded feature) = .ok set ↔
      set = ⟨included.map tidy, excluded.map tidy, feature⟩ ∧
      (∀ keyword ∈ included ++ excluded, Token.IsWord (tidy keyword).toList) ∧
      ∀ k ∈ included, ∀ k' ∈ excluded, tidy k ≠ tidy k' := by
  have hincluded : Fields.named? (given included excluded feature) "include_keywords" =
      some (.ofTexts included) := by cases feature <;> rfl
  have hexcluded : Fields.named? (given included excluded feature) "exclude_keywords" =
      some (.ofTexts excluded) := by cases feature <;> rfl
  have hstrangers : strangers names (given included excluded feature) = [] := by
    cases feature <;> rfl
  rw [ofFields_eq_ok_iff, field_given_feature, hstrangers, field_eq_ok_iff hincluded,
    field_eq_ok_iff hexcluded, readKeywords_ofTexts_eq_ok_iff, readKeywords_ofTexts_eq_ok_iff,
    overlap_eq_nil_iff, Except.ok.injEq]
  constructor
  · rintro ⟨⟨hwords, hincl⟩, ⟨hwords', hexcl⟩, hfeature, -, hoverlap⟩
    obtain ⟨words, words', mark⟩ := set
    subst hwords hwords' hfeature
    refine ⟨rfl, fun k hk => ?_, fun k hk k' hk' heq => ?_⟩
    · exact (List.mem_append.mp hk).elim (fun hk => hincl _ (List.mem_map_of_mem hk))
        fun hk => hexcl _ (List.mem_map_of_mem hk)
    · refine hoverlap _ (List.mem_map_of_mem hk) ?_
      rw [heq]
      exact List.mem_map_of_mem hk'
  · rintro ⟨rfl, hwords, hoverlap⟩
    rw [List.forall_mem_append] at hwords
    refine ⟨⟨rfl, List.forall_mem_map.mpr hwords.1⟩, ⟨rfl, List.forall_mem_map.mpr hwords.2⟩, rfl,
      rfl, List.forall_mem_map.mpr fun k hk hmem => ?_⟩
    obtain ⟨k', hk', heq⟩ := List.mem_map.mp hmem
    exact hoverlap k hk k' hk' heq.symm

end Given

/-- **Settings accept exactly the keywords that a token can name.** Two lists of keywords are
accepted if the token for each tidy keyword is read as one filter for it, with nothing left over,
and no tidy keyword is in both lists. The filters that are then set are those of the included
keywords and after them those of the excluded ones, in their order and with the feature that is set,
and each is written as a token that is read back as it. -/
theorem ofFields_given (included excluded : List String) (feature : Option Feature) :
    ((∃ set, ofFields (given included excluded feature) = .ok set) ↔
      (∀ k ∈ included ++ excluded, ∃ f, Query.filters ("+:keyword:" ++ tidy k) = [f] ∧
        f.keyword = tidy k ∧ f.form = "+:keyword:" ++ tidy k) ∧
      ∀ k ∈ included, ∀ k' ∈ excluded, tidy k ≠ tidy k') ∧
    ∀ set, ofFields (given included excluded feature) = .ok set →
      (∀ f ∈ set.toFilters, ∃ g, Query.filters f.form = [g] ∧ g.inclusive = f.inclusive ∧
        g.keyword = f.keyword ∧ g.form = f.form) ∧
      set.toFilters =
        included.map (fun k => ⟨true, tidy k, feature.map .feature, "+:keyword:" ++ tidy k⟩) ++
        excluded.map (fun k => ⟨false, tidy k, feature.map .feature, "-:keyword:" ++ tidy k⟩) := by
  have hplus : ∀ k, "+:keyword:" ++ tidy k = Filter.formOf true (tidy k) := fun k => rfl
  constructor
  · simp only [ofFields_given_eq_ok_iff, exists_eq_left, hplus,
      Query.exists_filters_formOf_iff (lowerString_tidy _)]
  · intro set hset
    refine ⟨fun f hf => ?_, ?_⟩
    · exact ⟨f.unmarked, Query.filters_form (isPlain_of_mem_toFilters hf)
        (isExpressible_of_ofData (d := .record _) hset hf), rfl, rfl, rfl⟩
    · obtain ⟨rfl, -⟩ := ofFields_given_eq_ok_iff.mp hset
      have hmake : ∀ inclusive k, Filter.make inclusive (tidy k) (feature.map .feature) none =
          ⟨inclusive, tidy k, feature.map .feature, Filter.formOf inclusive (tidy k)⟩ := by
        intro inclusive k
        rw [Filter.make, lowerString_tidy, Option.getD_none]
      simp only [toFilters, List.map_map, Function.comp_def, hmake]
      rfl

/-- Blanks and capitals are taken off one keyword; the other holds a sign and a colon. -/
theorem ofFields_given_pdf :
    let given := given [" PDF\t"] ["mp3+:x"] (some .fileExtension)
    let set : FilterSettings := ⟨["pdf"], ["mp3+:x"], some .fileExtension⟩
    ofFields given = .ok set ∧
      (∀ f ∈ set.toFilters, ∃ g, Query.filters f.form = [g] ∧ g.inclusive = f.inclusive ∧
        g.keyword = f.keyword ∧ g.form = f.form) := by
  intro given set
  have hset : ofFields given = .ok set := ofFields_given_eq_ok_iff.mpr (by decide +kernel)
  exact ⟨hset, ((ofFields_given [" PDF\t"] ["mp3+:x"] (some .fileExtension)).2 set hset).1⟩

end FilterSettings

end QuerySieve
