import QuerySieve.Proofs.Filter
import QuerySieve.Proofs.Query.Word

/-!
# Proofs/Filter/Flip — the filter with the opposite polarity

Flipping a filter makes it anew from its keyword, which is in small letters already and stays as it
is.  The flipped filter accepts what the filter does not (`accepts_flip`), and its form is the token
for the keyword, which a query reads back as the flipped filter if the keyword is a word
(`flip_toggles`).
-/

namespace QuerySieve.Filter

variable {f : Filter}

@[simp] theorem inclusive_flip (f : Filter) : f.flip.inclusive = !f.inclusive := rfl

@[simp] theorem mark_flip (f : Filter) : f.flip.mark = f.mark := rfl

theorem isPlain_flip (f : Filter) : f.flip.IsPlain := ⟨_, _, _, rfl⟩

/-- A keyword in small letters is kept. -/
theorem keyword_flip (h : Text.lowerString f.keyword = f.keyword) : f.flip.keyword = f.keyword := h

/-- **The flipped filter accepts what the filter does not.** -/
theorem accepts_flip (h : Text.lowerString f.keyword = f.keyword) (text : String) :
    f.flip.accepts text = !f.accepts text := by
  rw [accepts, accepts, keyword_flip h, inclusive_flip]
  cases Text.occursIn f.keyword.toList text.toList <;> cases f.inclusive <;> rfl

/-- The filter flipped twice is the filter, written as the token for its keyword. -/
theorem flip_flip (h : Text.lowerString f.keyword = f.keyword) :
    f.flip.flip = { f with form := formOf f.inclusive f.keyword } := by
  rw [flip, keyword_flip h, inclusive_flip, Bool.not_not, mark_flip, make, h]
  rfl

/-- The form of the flipped filter is read back as the flipped filter, without its mark. -/
theorem filters_form_flip (h : Text.lowerString f.keyword = f.keyword)
    (hword : Token.IsWord f.keyword.toList) : Query.filters f.flip.form = [f.flip.unmarked] :=
  Query.filters_form (isPlain_flip f) (isExpressible_iff.mpr ((keyword_flip h).symm ▸ hword))

/-- **Flipping complements a filter and undoes itself.**  Keyword and feature are kept, the form is
made anew, and where the keyword can stand in a query, the form is read as a filter that equals the
flipped one. -/
theorem flip_toggles (inclusive : Bool) (keyword : String) (mark : Option Mark)
    (form : Option String) :
    let f := make inclusive keyword mark form
    (∀ text, f.flip.accepts text = !f.accepts text) ∧
      f.flip.keyword = f.keyword ∧ f.flip.mark = f.mark ∧
      ((f.flip.flip == f) = true ∧ f.flip.flip.mark = f.mark ∧
        f.flip.flip.form = formOf f.inclusive f.keyword) ∧
      (Token.IsWord f.keyword.toList →
        ∃ g, Query.filters f.flip.form = [g] ∧ (g == f.flip) = true) := by
  intro f
  have hsmall : Text.lowerString f.keyword = f.keyword :=
    lowerString_keyword_make inclusive keyword mark form
  have htwice := flip_flip hsmall
  refine ⟨accepts_flip hsmall, keyword_flip hsmall, mark_flip f, ⟨?_, ?_, ?_⟩, fun hword => ?_⟩
  · rw [htwice]
    exact (beq_iff _ f).mpr ⟨rfl, rfl⟩
  · rw [htwice]
  · rw [htwice]
  · exact ⟨f.flip.unmarked, filters_form_flip hsmall hword, (beq_iff _ f.flip).mpr ⟨rfl, rfl⟩⟩

/-- The capital I with a dot becomes two characters, which are kept when the filter is flipped. -/
theorem flip_toggles_istanbul :
    let f := make true "İstanbul" (some (.feature .fileName)) (some ":keyword:İstanbul")
    Token.IsWord f.keyword.toList ∧ f.flip.keyword = "i\u0307stanbul" ∧
      ∃ g, Query.filters f.flip.form = [g] ∧ (g == f.flip) = true := by
  intro f
  have hword : Token.IsWord f.keyword.toList := by decide +kernel
  have htoggles := flip_toggles true "İstanbul" (some (.feature .fileName))
    (some ":keyword:İstanbul")
  obtain ⟨-, hkeyword, -, -, hread⟩ := htoggles
  have hsmall : f.keyword = "i\u0307stanbul" := by decide +kernel
  exact ⟨hword, hkeyword.trans hsmall, hread hword⟩

end QuerySieve.Filter
