import QuerySieve.Filter
import QuerySieve.Proofs.Text.Case
import QuerySieve.Proofs.Text.Substring

/-!
# Proofs/Filter — filters are equal if they accept the same texts

Polarity and keyword say all about what a filter accepts, and what it accepts says all about them:
two filters that differ are told apart by one of their keywords, or by both keywords written one
behind the other (`beq_of_accepts_eq`).  Keywords are in small letters, so these three texts are as
well, and equality is equal behaviour on texts in small letters (`make_beq_make_iff`).
-/

namespace QuerySieve.Filter

variable {f g : Filter}

/-! ## Equal filters -/

theorem beq_refl (f : Filter) : (f == f) = true := (beq_iff f f).mpr ⟨rfl, rfl⟩

theorem beq_trans {x : Filter} (hfg : (f == g) = true) (hgx : (g == x) = true) :
    (f == x) = true := by
  obtain ⟨hinclusive, hkeyword⟩ := (beq_iff f g).mp hfg
  obtain ⟨hinclusive', hkeyword'⟩ := (beq_iff g x).mp hgx
  exact (beq_iff f x).mpr ⟨hinclusive.trans hinclusive', hkeyword.trans hkeyword'⟩

/-- Equal filters accept the same texts. -/
theorem accepts_eq_of_beq (h : (f == g) = true) (text : String) :
    f.accepts text = g.accepts text := by
  obtain ⟨hinclusive, hkeyword⟩ := (beq_iff f g).mp h
  rw [accepts, accepts, hinclusive, hkeyword]

/-! ## Texts that tell filters apart -/

/-- On a text with the keyword a filter says its polarity. -/
theorem accepts_eq_inclusive {text : String} (h : f.keyword.toList <:+: text.toList) :
    f.accepts text = f.inclusive := by
  rw [accepts, Text.occursIn_iff_infix.mpr h]
  exact Bool.true_beq f.inclusive

/-- A filter that says its polarity on a text finds its keyword there. -/
theorem infix_of_accepts_eq_inclusive {text : String} (h : f.accepts text = f.inclusive) :
    f.keyword.toList <:+: text.toList := by
  rw [← Text.occursIn_iff_infix]
  rw [accepts] at h
  cases hinclusive : f.inclusive with
  | true => simpa [hinclusive] using h
  | false => simpa [hinclusive] using h

/-- **Three texts tell filters apart**: the two keywords, and one behind the other. -/
theorem beq_of_accepts_eq (hleft : f.accepts f.keyword = g.accepts f.keyword)
    (hright : f.accepts g.keyword = g.accepts g.keyword)
    (hboth : f.accepts (f.keyword ++ g.keyword) = g.accepts (f.keyword ++ g.keyword)) :
    (f == g) = true := by
  -- both keywords stand in the joined text, so both filters say their polarity there
  have hinclusive : f.inclusive = g.inclusive := by
    rw [accepts_eq_inclusive (f := f), accepts_eq_inclusive (f := g)] at hboth
    · exact hboth
    · rw [String.toList_append]
      exact (List.suffix_append _ _).isInfix
    · rw [String.toList_append]
      exact (List.prefix_append _ _).isInfix
  -- and each keyword stands in the other
  rw [accepts_eq_inclusive List.infix_rfl, hinclusive] at hleft
  rw [accepts_eq_inclusive (f := g) List.infix_rfl, ← hinclusive] at hright
  have hgf := infix_of_accepts_eq_inclusive hleft.symm
  have hfg := infix_of_accepts_eq_inclusive hright
  have hkeyword := hfg.eq_of_length_le hgf.length_le
  exact (beq_iff f g).mpr ⟨hinclusive, String.toList_inj.mp hkeyword⟩

/-! ## Filters in small letters -/

/-- The keyword that a filter is made with is in small letters. -/
theorem lowerString_keyword_make (inclusive : Bool) (keyword : String) (mark : Option Mark)
    (form : Option String) :
    Text.lowerString (make inclusive keyword mark form).keyword =
      (make inclusive keyword mark form).keyword :=
  Text.lowerString_lowerString keyword

/-- Filters with keywords in small letters are equal exactly if they accept the same texts in small
letters. -/
theorem beq_iff_accepts_eq (hf : Text.lowerString f.keyword = f.keyword)
    (hg : Text.lowerString g.keyword = g.keyword) :
    (f == g) = true ↔ ∀ text, Text.lowerString text = text → f.accepts text = g.accepts text :=
  ⟨fun h text _ => accepts_eq_of_beq h text, fun h =>
    beq_of_accepts_eq (h _ hf) (h _ hg) (h _ (Text.lowerString_append hf hg))⟩

/-- **Filters are equal exactly if they behave the same** on every text in small letters — whatever
they are grouped by and however they are written, and for keywords that are empty or part of one
another. -/
theorem make_beq_make_iff (inclusive inclusive' : Bool) (keyword keyword' : String)
    (mark mark' : Option Mark) (form form' : Option String) :
    (make inclusive keyword mark form == make inclusive' keyword' mark' form') = true ↔
      ∀ text, Text.lowerString text = text →
        (make inclusive keyword mark form).accepts text =
          (make inclusive' keyword' mark' form').accepts text := by
  have hsmall := lowerString_keyword_make inclusive keyword mark form
  have hsmall' := lowerString_keyword_make inclusive' keyword' mark' form'
  exact beq_iff_accepts_eq hsmall hsmall'

end QuerySieve.Filter
