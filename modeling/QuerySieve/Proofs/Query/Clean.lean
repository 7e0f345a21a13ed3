import QuerySieve.Proofs.Query.Removal
import QuerySieve.Query.Basic

/-!
# Proofs/Query/Clean — what is left of a query without the tokens of its filters

A token without a word names no filter and stays when the tokens of the filters are taken out; it is
too short to hold a token that has one (`Token.Proper.not_infix`).  So nothing that stays has the
text of a token that goes, nothing that the removals bring together reads as one
(`Scanned.not_prefix_kept`), and each removal takes out its own token (`foldl_removeFirst_filters`).
-/

namespace QuerySieve

namespace Token

/-- **A token with a word does not stand in a token without one** — it fits only into all of a tag
with a sign, and then it has no sign for itself. -/
theorem Proper.not_infix {t d : Token} (ht : t.Proper) (hword : t.word ≠ []) (hd : d.Proper)
    (hempty : d.word = []) : ¬ t.text <:+: d.text := by
  intro hinfix
  have hlen := hinfix.length_le
  have hpos : 0 < t.word.length := List.length_pos_iff.mpr hword
  have hsign := length_signText_le d.sign
  have hlt := ht.length_text
  have hld := hd.length_text
  rw [hempty, List.length_nil] at hld
  have hwhole : t.text = d.text := hinfix.eq_of_length (by omega)
  have hbegins : t.text <+: d.text ++ [] := hwhole ▸ List.prefix_append t.text []
  rw [ht.sign_eq hd hbegins, hwhole] at hlt
  omega

end Token

namespace Piece

/-! ## Pieces that name no filter -/

/-- A filter is written as the piece is. -/
theorem toList_form_of_filter? : ∀ {p : Piece} {f : Filter}, p.filter? = some f →
    f.form.toList = p.text
  | token t, f, h => by
    by_cases hword : t.word = []
    · exact absurd ((filter?_token_of_eq_nil hword).symm.trans h) (Option.some_ne_none f).symm
    · rw [filter?_token_of_ne_nil hword] at h
      rw [← Option.some.inj h, Filter.make, Option.getD_some, String.toList_ofList]
      rfl

/-- **What names no filter does not hold the text of what names one.** -/
theorem Scanned.not_infix_of_filter?_eq_none {cs : List Char} {ps : List Piece}
    (h : Scanned cs ps) {p q : Piece} (hp : p ∈ ps) (hq : q ∈ ps) (hnone : p.filter? = none)
    (hsome : q.filter? ≠ none) : ¬ q.text <:+: p.text := by
  cases q with
  | char c => exact absurd rfl hsome
  | token t =>
    have ht := h.proper_of_mem hq
    have hword : t.word ≠ [] := fun hword => hsome (filter?_token_of_eq_nil hword)
    cases p with
    | char c =>
      intro hinfix
      have hlen := hinfix.length_le
      have hlt := ht.length_text
      have htag : Filter.tag.length = 9 := by decide
      simp only [text, List.length_singleton] at hlen
      omega
    | token d =>
      refine ht.not_infix hword (h.proper_of_mem hp) ?_
      by_contra hne
      exact Option.some_ne_none _ ((filter?_token_of_ne_nil hne).symm.trans hnone)

/-- What a piece leaves when the tokens of filters are taken out — a token without a word names no
filter and stays. -/
def kept : Piece → List Char
  | token t => if t.word = [] then t.text else []
  | char c => [c]

/-- What the pieces leave, one after the other. -/
def keptOf (ps : List Piece) : List Char := ps.flatMap kept

@[simp] theorem keptOf_nil : keptOf [] = [] := rfl

@[simp] theorem keptOf_cons (p : Piece) (ps : List Piece) :
    keptOf (p :: ps) = p.kept ++ keptOf ps := rfl

@[simp] theorem keptOf_append (ps qs : List Piece) : keptOf (ps ++ qs) = keptOf ps ++ keptOf qs :=
  List.flatMap_append

theorem kept_token_of_ne_nil {t : Token} (h : t.word ≠ []) : (token t).kept = [] := if_neg h

theorem kept_token_of_eq_nil {t : Token} (h : t.word = []) : (token t).kept = t.text := if_pos h

theorem keptOf_eq_leftOf : ∀ ps : List Piece, keptOf ps = leftOf (·.filter?.isNone) ps
  | [] => rfl
  | char c :: ps => by
    rw [keptOf_cons, keptOf_eq_leftOf ps, leftOf_cons_of_stays rfl]
    rfl
  | token t :: ps => by
    by_cases hword : t.word = []
    · rw [keptOf_cons, kept_token_of_eq_nil hword, keptOf_eq_leftOf ps, leftOf_cons_of_stays]
      · rfl
      · rw [filter?_token_of_eq_nil hword, Option.isNone_none]
    · rw [keptOf_cons, kept_token_of_ne_nil hword, keptOf_eq_leftOf ps, leftOf_cons_of_goes]
      · rfl
      · rw [filter?_token_of_ne_nil hword, Option.isNone_some]

/-- Filters that are written as the pieces that go are taken out as these. -/
theorem foldl_removeFirst_eq_removeGone {stays : Piece → Bool} {ps : List Piece} {fs : List Filter}
    (h : fs.map (·.form.toList) = (ps.filter fun p => !stays p).map text) (cs : List Char) :
    fs.foldl (fun cs f => Text.removeFirst f.form.toList cs) cs = removeGone stays ps cs := by
  have hfs : fs.foldl (fun cs f => Text.removeFirst f.form.toList cs) cs =
      (fs.map (·.form.toList)).foldl (fun cs part => Text.removeFirst part cs) cs := by
    rw [List.foldl_map]
  rw [hfs, h, List.foldl_map, removeGone]

/-- The filters of a kind are written as the pieces that name them. -/
theorem map_form_filter (goes : Filter → Bool) : ∀ ps : List Piece,
    ((ps.filterMap filter?).filter goes).map (·.form.toList) =
      (ps.filter fun p => p.filter?.any goes).map text
  | [] => rfl
  | p :: ps => by
    have hmore := map_form_filter goes ps
    cases hfilter : p.filter? with
    | none =>
      rw [List.filterMap_cons_none hfilter, List.filter_cons_of_neg (by simp [hfilter]), hmore]
    | some f =>
      rw [List.filterMap_cons_some hfilter, List.filter_cons, List.filter_cons, hfilter,
        Option.any_some]
      split
      · rw [List.map_cons, List.map_cons, hmore, toList_form_of_filter? hfilter]
      · exact hmore

/-- Only tokens without a word and single characters stay, so nothing is shadowed. -/
theorem Scanned.unshadowed {cs : List Char} {ps : List Piece} (h : Scanned cs ps) :
    Unshadowed (·.filter?.isNone) ps := by
  refine List.pairwise_of_forall_mem_list fun p hp q hq hstays hgoes => ?_
  exact h.not_infix_of_filter?_eq_none hp hq (Option.isNone_iff_eq_none.mp hstays)
    (Option.isSome_iff_ne_none.mp (Option.isNone_eq_false_iff.mp hgoes))

end Piece

namespace Query

/-- The tokens of the filters are taken out of the query, and what its pieces keep is left. -/
theorem foldl_removeFirst_filters (query : String) :
    (filters query).foldl (fun cs f => Text.removeFirst f.form.toList cs) query.toList =
      Piece.keptOf (Piece.scan query.toList) := by
  have hscan := Piece.scanned_scan query.toList
  have hforms : (filters query).map (·.form.toList) =
      ((Piece.scan query.toList).filter fun p => !p.filter?.isNone).map Piece.text := by
    simpa [filters] using Piece.map_form_filter (fun _ => true) (Piece.scan query.toList)
  rw [Piece.foldl_removeFirst_eq_removeGone hforms,
    hscan.removeGone_eq_leftOf (fun _ => rfl) hscan.unshadowed, Piece.keptOf_eq_leftOf]

/-- The words of a query are what its pieces keep. -/
theorem terms_eq_trim_kept (query : String) :
    terms query = String.ofList (Text.trim (Piece.keptOf (Piece.scan query.toList))) := by
  rw [terms, without, foldl_removeFirst_filters]

/-- **The filters' tokens, and nothing else, are taken out of a query.** There is one way to read
the query from left to right; its filters come from the tokens with a word, and without their tokens
it is what stands between these, joined as it is, but for the blanks at the ends. -/
theorem without_filters_eq_trim_kept (query : String) :
    ∃ ps, Piece.Scanned query.toList ps ∧
      (∀ qs, Piece.Scanned query.toList qs → qs = ps) ∧
      filters query = ps.filterMap Piece.filter? ∧
      without query (filters query) = String.ofList (Text.trim (Piece.keptOf ps)) :=
  ⟨Piece.scan query.toList, Piece.scanned_scan query.toList, fun _ h => h.scan_eq.symm, rfl,
    terms_eq_trim_kept query⟩

end Query

end QuerySieve
