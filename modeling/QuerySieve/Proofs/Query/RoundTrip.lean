import QuerySieve.Proofs.Query.Clean
import QuerySieve.Proofs.Text.Blank
import QuerySieve.Proofs.Text.Case

/-!
# Proofs/Query/RoundTrip — filters written behind a query are read back

Reading is local: a text at whose beginning no word goes on is read behind any other as it is by
itself (`Scanned.append`).  A blank is such a beginning, so what is written behind a query after a
blank leaves the tokens of the query alone, wherever the query breaks off — in a word, in a tag,
after a sign.  The form of a filter is a token with its sign, and the word of that token is the
keyword; it is read back unchanged because a small form is its own small form.
-/

namespace QuerySieve

/-! ## The token of a filter -/

namespace Filter

/-- The filter was made without a form of its own. -/
def IsPlain (f : Filter) : Prop := ∃ inclusive keyword mark, f = make inclusive keyword mark none

/-- The keyword can stand in a token as its word. -/
structure IsExpressible (f : Filter) : Prop where
  ne_nil : f.keyword.toList ≠ []
  word : ∀ c ∈ f.keyword.toList, Token.isWordChar c = true

/-- The filter as it is read from a query — without a mark. -/
def unmarked (f : Filter) : Filter := { f with mark := none }

/-- The token for a filter: sign, tag, keyword. -/
def token (f : Filter) : Token :=
  ⟨some (if f.inclusive then .plus else .minus), tag.toList, f.keyword.toList⟩

theorem toList_formOf (f : Filter) : (formOf f.inclusive f.keyword).toList = f.token.text := by
  rw [formOf, String.toList_append, String.toList_append, Token.text, token]
  cases f.inclusive <;> rfl

theorem IsPlain.form_eq {f : Filter} (h : f.IsPlain) : f.form = String.ofList f.token.text := by
  obtain ⟨inclusive, keyword, mark, rfl⟩ := h
  rw [← toList_formOf, String.ofList_toList]
  rfl

theorem IsPlain.lowerString_keyword {f : Filter} (h : f.IsPlain) :
    Text.lowerString f.keyword = f.keyword := by
  obtain ⟨inclusive, keyword, mark, rfl⟩ := h
  exact Text.lowerString_lowerString keyword

theorem proper_token {f : Filter} (h : f.IsExpressible) : f.token.Proper where
  tag := Token.isTag_tag
  word := h.word

/-- **The token for a filter names the filter.** -/
theorem IsPlain.filter?_token {f : Filter} (h : f.IsPlain) (hword : f.IsExpressible) :
    (Piece.token f.token).filter? = some f.unmarked := by
  have hsign : (f.token.sign != some .minus) = f.inclusive := by
    rw [token]
    cases f.inclusive <;> rfl
  rw [Piece.filter?_token_of_ne_nil hword.ne_nil, hsign, make, ← h.form_eq, token,
    String.ofList_toList, h.lowerString_keyword, Option.getD_some, unmarked]

end Filter

/-! ## Reading is local -/

namespace Piece

/-- **A text at whose beginning no word goes on is read behind another as it is by itself.** -/
theorem Scanned.append {cs ds : List Char} {ps qs : List Piece} (h : Scanned cs ps)
    (h' : Scanned ds qs) (hds : Token.EndsWord ds) : Scanned (cs ++ ds) (ps ++ qs) := by
  induction h with
  | nil => exact h'
  | token hproper hrest _ ih =>
    rw [List.append_assoc]
    exact .token hproper (hrest.append hds) ih
  | char hnone _ ih =>
    refine .char (fun t ht hbegins => hnone t ht ?_) ih
    exact ht.prefix_of_prefix_append (List.cons_ne_nil _ _) hds hbegins

/-- No token begins with a blank. -/
theorem Scanned.space {cs : List Char} {ps : List Piece} (h : Scanned cs ps) :
    Scanned (' ' :: cs) (.char ' ' :: ps) := by
  refine .char (fun t ht hbegins => ?_) h
  rw [ht.text_eq_cons, List.cons_prefix_cons] at hbegins
  match hsign : t.sign with
  | none | some .plus | some .minus =>
    rw [hsign] at hbegins
    exact absurd hbegins.1 (by decide)

/-- The tokens of filters, and a blank between each two of them. -/
def written (fs : List Filter) : List Piece :=
  (fs.map fun f => token f.token).intersperse (char ' ')

theorem written_cons_cons (f g : Filter) (fs : List Filter) :
    written (f :: g :: fs) = token f.token :: char ' ' :: written (g :: fs) := rfl

/-- **The forms of filters are read as their tokens.** -/
theorem scanned_written : ∀ {fs : List Filter}, (∀ f ∈ fs, f.IsPlain ∧ f.IsExpressible) →
    Scanned ([' '].intercalate (fs.map (·.form.toList))) (written fs)
  | [], _ => .nil
  | [f], h => by
    obtain ⟨hplain, hword⟩ := h f List.mem_cons_self
    have htext : [' '].intercalate ([f].map (·.form.toList)) = f.token.text ++ [] := by
      simp [hplain.form_eq]
    rw [htext]
    exact .token (Filter.proper_token hword) Token.endsWord_nil .nil
  | f :: g :: fs, h => by
    obtain ⟨hplain, hword⟩ := h f List.mem_cons_self
    have htext : [' '].intercalate ((f :: g :: fs).map (·.form.toList)) =
        f.token.text ++ ' ' :: [' '].intercalate ((g :: fs).map (·.form.toList)) := by
      simp [List.intercalate_cons_cons, hplain.form_eq]
    rw [htext, written_cons_cons]
    refine .token (Filter.proper_token hword) (Token.endsWord_cons.mpr rfl) (Scanned.space ?_)
    exact scanned_written fun x hx => h x (List.mem_cons_of_mem f hx)

theorem filterMap_filter?_written : ∀ {fs : List Filter},
    (∀ f ∈ fs, f.IsPlain ∧ f.IsExpressible) →
      (written fs).filterMap filter? = fs.map Filter.unmarked
  | [], _ => rfl
  | [f], h => by
    obtain ⟨hplain, hword⟩ := h f List.mem_cons_self
    exact List.filterMap_cons_some (hplain.filter?_token hword)
  | f :: g :: fs, h => by
    obtain ⟨hplain, hword⟩ := h f List.mem_cons_self
    rw [written_cons_cons, List.filterMap_cons_some (hplain.filter?_token hword),
      List.filterMap_cons_none rfl, List.map_cons,
      filterMap_filter?_written fun x hx => h x (List.mem_cons_of_mem f hx)]

theorem kept_token_filter {f : Filter} (h : f.IsExpressible) : (token f.token).kept = [] :=
  kept_token_of_ne_nil h.ne_nil

/-- Without the tokens only the blanks between them are left. -/
theorem isBlank_of_mem_kept_written : ∀ {fs : List Filter}, (∀ f ∈ fs, f.IsExpressible) →
    ∀ c ∈ keptOf (written fs), Text.isBlank c = true
  | [], _, _, hc => absurd hc List.not_mem_nil
  | [f], h, c, hc => by
    rw [written, List.map_singleton, List.intersperse_singleton, keptOf_cons,
      kept_token_filter (h f List.mem_cons_self)] at hc
    exact absurd hc List.not_mem_nil
  | f :: g :: fs, h, c, hc => by
    rw [written_cons_cons, keptOf_cons, kept_token_filter (h f List.mem_cons_self),
      List.nil_append, keptOf_cons] at hc
    rcases List.mem_cons.mp hc with rfl | hc
    · rfl
    · exact isBlank_of_mem_kept_written (fun x hx => h x (List.mem_cons_of_mem f hx)) c hc

end Piece

/-! ## Queries with filters behind them -/

namespace Query

/-- The query with the forms of some filters behind it, and a blank before each. -/
def extended (query : String) (fs : List Filter) : String :=
  query ++ " " ++ String.intercalate " " (fs.map (·.form))

theorem toList_extended (query : String) (fs : List Filter) :
    (extended query fs).toList =
      query.toList ++ ' ' :: [' '].intercalate (fs.map (·.form.toList)) := by
  simp [extended, String.toList_intercalate, Function.comp_def]

theorem scan_extended (query : String) {fs : List Filter}
    (h : ∀ f ∈ fs, f.IsPlain ∧ f.IsExpressible) :
    Piece.scan (extended query fs).toList =
      Piece.scan query.toList ++ .char ' ' :: Piece.written fs := by
  rw [toList_extended]
  exact ((Piece.scanned_scan _).append (Piece.scanned_written h).space
    (Token.endsWord_cons.mpr rfl)).scan_eq

/-- **Filters written behind a query are read back, and leave its words alone.** The query may break
off in a token, a tag or a sign, and a keyword may hold signs or a whole tag. -/
theorem filters_and_terms_extended (query : String) (fs : List Filter)
    (h : ∀ f ∈ fs, f.IsPlain ∧ f.IsExpressible) :
    filters (extended query fs) = filters query ++ fs.map Filter.unmarked ∧
      without (extended query fs) (filters (extended query fs)) =
        without query (filters query) := by
  constructor
  · rw [filters, scan_extended query h, List.filterMap_append, List.filterMap_cons_none rfl,
      Piece.filterMap_filter?_written h, filters]
  · have hblank : ∀ c ∈ Piece.keptOf (.char ' ' :: Piece.written fs), Text.isBlank c = true := by
      intro c hc
      rcases List.mem_cons.mp hc with rfl | hc
      · rfl
      · exact Piece.isBlank_of_mem_kept_written (fun f hf => (h f hf).2) c hc
    have hterms : terms (extended query fs) = terms query := by
      rw [terms_eq_trim_kept, terms_eq_trim_kept, scan_extended query h, Piece.keptOf_append,
        Text.trim_append _ hblank]
    exact hterms

/-- The query breaks off after a sign, and the second keyword holds a tag with a sign of its own. -/
theorem filters_and_terms_extended_hamlet :
    let fs := [Filter.make true "PDF" (some (.feature .fileExtension)) none,
      Filter.make false "a+:KEYWORD:b" none none]
    (∀ f ∈ fs, f.IsPlain ∧ f.IsExpressible) ∧
      filters (extended "hamlet +" fs) = filters "hamlet +" ++ fs.map Filter.unmarked ∧
      without (extended "hamlet +" fs) (filters (extended "hamlet +" fs)) =
        without "hamlet +" (filters "hamlet +") := by
  intro fs
  have h : ∀ f ∈ fs, f.IsPlain ∧ f.IsExpressible := by
    intro f hf
    have hword : ∀ f ∈ fs, f.keyword.toList ≠ [] ∧
        f.keyword.toList.all Token.isWordChar = true := by decide +kernel
    refine ⟨?_, (hword f hf).1, List.all_eq_true.mp (hword f hf).2⟩
    rcases List.mem_cons.mp hf with rfl | hf
    · exact ⟨_, _, _, rfl⟩
    · exact List.mem_singleton.mp hf ▸ ⟨_, _, _, rfl⟩
  exact ⟨h, filters_and_terms_extended "hamlet +" fs h⟩

end Query

end QuerySieve
