import QuerySieve.Proofs.Query.Word

/-!
# Proofs/Query/Seam — a query put together from two

A token ends where its word ends, so a blank or a hyphen keeps what is written before it apart from
what comes behind: the two parts of a query are read as if each stood alone, also where the first
breaks off in a tag, behind a sign or in a tag without a word (`filters_append`).  No other seam
does that for every first part (`forall_filters_append_iff`).
-/

namespace QuerySieve.Query

variable {query more : String}

/-- **The pieces of two parts are those of the first and those of the second** if no word goes on at
the beginning of the second. -/
theorem scan_append (query : String) (h : Token.EndsWord more.toList) :
    Piece.scan (query ++ more).toList = Piece.scan query.toList ++ Piece.scan more.toList := by
  rw [String.toList_append]
  exact ((Piece.scanned_scan _).append (Piece.scanned_scan _) h).scan_eq

theorem filters_append_of_endsWord (query : String) (h : Token.EndsWord more.toList) :
    filters (query ++ more) = filters query ++ filters more := by
  rw [filters, scan_append query h, List.filterMap_append, filters, filters]

theorem endsWord_iff {cs : List Char} :
    Token.EndsWord cs ↔ ∀ c ∈ cs.head?, Text.isBlank c = true ∨ c = '-' := by
  refine forall₂_congr fun c _ => ?_
  rw [← Bool.not_eq_true, Token.isWordChar_iff, not_and_or, Bool.not_eq_false, not_not]

/-- **A query is read part by part** if its second part is empty or begins with a blank or a hyphen.
The filters of the parts follow each other, each written as its token is — and the hyphen is still a
sign of the second part. -/
theorem filters_append (query more : String)
    (h : ∀ c ∈ more.toList.head?, Text.isBlank c = true ∨ c = '-') :
    filters (query ++ more) = filters query ++ filters more :=
  filters_append_of_endsWord query (endsWord_iff.mpr h)

/-- The first part breaks off behind a sign, and the second begins with one. -/
theorem filters_append_hamlet :
    (∀ c ∈ "-:keyword:mp4 act".toList.head?, Text.isBlank c = true ∨ c = '-') ∧
      filters ("hamlet :keyword:pdf +" ++ "-:keyword:mp4 act") =
        filters "hamlet :keyword:pdf +" ++ filters "-:keyword:mp4 act" := by
  have h : ∀ c ∈ "-:keyword:mp4 act".toList.head?, Text.isBlank c = true ∨ c = '-' := by
    intro c hc
    obtain rfl := Option.some.inj hc
    exact Or.inr rfl
  exact ⟨h, filters_append "hamlet :keyword:pdf +" "-:keyword:mp4 act" h⟩

theorem takeWhile_eq_nil_iff_endsWord {cs : List Char} :
    cs.takeWhile Token.isWordChar = [] ↔ Token.EndsWord cs := by
  cases cs with
  | nil => exact iff_of_true rfl Token.endsWord_nil
  | cons c cs =>
    rw [Token.endsWord_cons, List.takeWhile_cons]
    cases Token.isWordChar c <;> simp

/-- A token takes up the word that goes on behind it, so it is written otherwise there. -/
theorem filters_append_ne_of_word {word : String} (hword : Token.IsWord word.toList)
    (hmore : ¬ Token.EndsWord more.toList) :
    filters (Filter.formOf true word ++ more) ≠
      filters (Filter.formOf true word) ++ filters more := by
  intro hparts
  let taken := more.toList.takeWhile Token.isWordChar
  let t : Token := ⟨some .plus, Filter.tag.toList, word.toList ++ taken⟩
  have hproper : t.Proper := by
    refine ⟨Token.isTag_tag, fun c hc => ?_⟩
    rcases List.mem_append.mp hc with hc | hc
    · exact hword.isWordChar c hc
    · exact List.mem_takeWhile_imp hc
  have hform : (Filter.formOf true word).toList ++ taken = t.text := by
    rw [Filter.formOf, String.toList_append, String.toList_append, List.append_assoc]
    rfl
  have htext : (Filter.formOf true word ++ more).toList =
      t.text ++ more.toList.dropWhile Token.isWordChar := by
    rw [← hform, String.toList_append, List.append_assoc, List.takeWhile_append_dropWhile]
  have hne : t.word ≠ [] := List.append_ne_nil_of_left_ne_nil hword.ne_nil taken
  rw [Query.filters_formOf true hword, filters, htext,
    Piece.scan_token hproper (Token.endsWord_dropWhile _),
    List.filterMap_cons_some (Piece.filter?_token_of_ne_nil hne)] at hparts
  have hsame := congrArg Filter.form (List.cons.inj hparts).1
  simp only [Filter.make, Option.getD_some] at hsame
  have hnil : taken = [] := by
    rw [← hform, ← String.toList_inj, String.toList_ofList] at hsame
    exact List.append_right_eq_self.mp hsame
  exact hmore (takeWhile_eq_nil_iff_endsWord.mp hnil)

/-- **Only these seams keep all parts apart.** -/
theorem forall_filters_append_iff :
    (∀ query, filters (query ++ more) = filters query ++ filters more) ↔
      Token.EndsWord more.toList := by
  refine ⟨fun h => ?_, fun h query => filters_append_of_endsWord query h⟩
  by_contra hmore
  have hword : Token.IsWord "a".toList := by decide
  exact filters_append_ne_of_word hword hmore (h _)

end QuerySieve.Query
