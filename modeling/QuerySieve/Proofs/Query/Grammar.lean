import Mathlib.Logic.ExistsUnique
import QuerySieve.Proofs.Query.Scan
import QuerySieve.Query.Basic

/-!
# Proofs/Query/Grammar — the pieces of a query told without reading from left to right

A `Reading` of a text says of the whole text where its tokens are: the tag stands in no gap, every
tag stands in one token, no word goes on behind its token, and a sign in front of a token belongs to
it.  There is exactly one reading, the one that `Piece.scan` finds (`reading_iff_scanned`).
-/

namespace QuerySieve

namespace Piece

/-! ## Places -/

/-- The place where a piece begins. -/
def offset (ps : List Piece) (k : Nat) : Nat := (textOf (ps.take k)).length

@[simp] theorem offset_zero (ps : List Piece) : offset ps 0 = 0 := rfl

@[simp] theorem offset_cons_succ (p : Piece) (ps : List Piece) (k : Nat) :
    offset (p :: ps) (k + 1) = p.text.length + offset ps k := by
  rw [offset, List.take_succ_cons, textOf_cons, List.length_append, offset]

theorem offset_succ {ps : List Piece} {k : Nat} {p : Piece} (h : ps[k]? = some p) :
    offset ps (k + 1) = offset ps k + p.text.length := by
  rw [offset, List.take_add_one, h, textOf_append, List.length_append, offset]
  simp

theorem offset_mono (ps : List Piece) {j k : Nat} (h : j ≤ k) : offset ps j ≤ offset ps k := by
  rw [offset, offset, ← Nat.add_sub_cancel' h, List.take_add, textOf_append, List.length_append]
  exact Nat.le_add_right _ _

/-- The tag stands at a place in a text. -/
def TagAt (cs : List Char) (i : Nat) : Prop := ∃ tag, Token.IsTag tag ∧ tag <+: cs.drop i

/-- The tag that stands at a place stands inside a piece. -/
def Inside (ps : List Piece) (k i : Nat) : Prop :=
  offset ps k ≤ i ∧ i + Filter.tag.length ≤ offset ps (k + 1)

theorem tag_length_pos : 0 < Filter.tag.length := by decide

/-- A tag stands inside one piece at most. -/
theorem Inside.unique {ps : List Piece} {j k i : Nat} (hj : Inside ps j i) (hk : Inside ps k i) :
    j = k := by
  have hpos := tag_length_pos
  obtain ⟨hj₁, hj₂⟩ := hj
  obtain ⟨hk₁, hk₂⟩ := hk
  rcases Nat.lt_trichotomy j k with h | h | h
  · have : offset ps (j + 1) ≤ offset ps k := offset_mono ps h
    omega
  · exact h
  · have : offset ps (k + 1) ≤ offset ps j := offset_mono ps h
    omega

@[simp] theorem inside_cons_succ {p : Piece} {ps : List Piece} {k i : Nat} :
    Inside (p :: ps) (k + 1) (p.text.length + i) ↔ Inside ps k i := by
  rw [Inside, Inside, offset_cons_succ, offset_cons_succ]
  omega

theorem tagAt_append (cs ds : List Char) (i : Nat) :
    TagAt (cs ++ ds) (cs.length + i) ↔ TagAt ds i := by
  rw [TagAt, TagAt, List.drop_length_add_append]

/-- A tag that begins in a token ends in it — no word goes on behind the token. -/
theorem TagAt.le_of_lt {t : Token} {rest : List Char} (hrest : Token.EndsWord rest) {i : Nat}
    (h : TagAt (t.text ++ rest) i) (hi : i < t.text.length) :
    i + Filter.tag.length ≤ t.text.length := by
  obtain ⟨tag, htag, hbegins⟩ := h
  rw [List.drop_append_of_le_length hi.le] at hbegins
  have hle := (hrest.prefix_of_prefix_append hbegins fun c hc =>
    htag.isWordChar_of_mem (List.mem_of_mem_drop hc)).length_le
  rw [htag.length_eq, List.length_drop] at hle
  omega

/-- Where a token without a sign stands, a tag stands. -/
theorem tagAt_zero_iff {cs : List Char} :
    TagAt cs 0 ↔ ∃ t : Token, t.Proper ∧ t.sign = none ∧ t.text <+: cs := by
  constructor
  · rintro ⟨tag, htag, hbegins⟩
    refine ⟨⟨none, tag, []⟩, ⟨htag, fun c hc => absurd hc List.not_mem_nil⟩, rfl, ?_⟩
    simpa [Token.text_eq, Token.signText] using hbegins
  · rintro ⟨t, ht, hsign, hbegins⟩
    refine ⟨t.tag, ht.tag, (List.prefix_append t.tag t.word).trans ?_⟩
    simpa [Token.text_eq, Token.signText, hsign] using hbegins

theorem not_tagAt_zero_of_none {cs : List Char}
    (hnone : ∀ t : Token, t.Proper → ¬ t.text <+: cs) : ¬ TagAt cs 0 := by
  intro h
  obtain ⟨t, ht, -, hbegins⟩ := tagAt_zero_iff.mp h
  exact hnone t ht hbegins

/-- In front of a tag without a sign there is none, or a token would stand there. -/
theorem not_sign_of_none {c : Char} {cs : List Char}
    (hnone : ∀ t : Token, t.Proper → ¬ t.text <+: c :: cs) {t : Token} (ht : t.Proper)
    (hsign : t.sign = none) (hbegins : t.text <+: cs) : c ≠ '+' ∧ c ≠ '-' := by
  have htext : t.text = t.tag ++ t.word := by rw [Token.text_eq, hsign]; rfl
  have hwith : ∀ sign, ¬ Token.signText sign ++ t.text <+: c :: cs := by
    intro sign h
    refine hnone ⟨sign, t.tag, t.word⟩ ⟨ht.tag, ht.word⟩ ?_
    rwa [Token.text_eq, ← htext]
  constructor
  · rintro rfl
    exact hwith (some .plus) (List.cons_prefix_cons.mpr ⟨rfl, hbegins⟩)
  · rintro rfl
    exact hwith (some .minus) (List.cons_prefix_cons.mpr ⟨rfl, hbegins⟩)

/-! ## Readings -/

/-- **A text taken apart by the grammar of tokens.** The characters between two tokens are a gap. -/
structure Reading (cs : List Char) (ps : List Piece) : Prop where
  text : textOf ps = cs
  proper : ∀ t, token t ∈ ps → t.Proper
  /-- The word of a token is as long as it can be. -/
  longest : ∀ k t, ps[k]? = some (token t) → Token.EndsWord (textOf (ps.drop (k + 1)))
  /-- Every tag stands inside exactly one token. -/
  inside : ∀ i, TagAt cs i → ∃! k, (∃ t, ps[k]? = some (token t)) ∧ Inside ps k i
  /-- No tag has a character in a gap. -/
  outside : ∀ i, TagAt cs i → ∀ k c, ps[k]? = some (char c) →
    offset ps k < i ∨ i + Filter.tag.length ≤ offset ps k
  /-- No sign is left in a gap in front of a token without one. -/
  signed : ∀ k c t, ps[k]? = some (char c) → ps[k + 1]? = some (token t) → t.sign = none →
    c ≠ '+' ∧ c ≠ '-'

/-! ### What is read from left to right is a reading -/

/-- Every tag stands inside a token that is found. -/
theorem Scanned.exists_inside {cs : List Char} {ps : List Piece} (h : Scanned cs ps) :
    ∀ {i : Nat}, TagAt cs i → ∃ k, (∃ t, ps[k]? = some (.token t)) ∧ Inside ps k i := by
  induction h with
  | nil =>
    rintro i ⟨tag, htag, hbegins⟩
    rw [List.drop_nil, List.prefix_nil] at hbegins
    exact absurd (hbegins ▸ htag.length_eq) (by decide)
  | @token t rest ps _ hrest _ ih =>
    intro i htag
    rcases Nat.lt_or_ge i t.text.length with hi | hi
    · refine ⟨0, ⟨t, rfl⟩, Nat.zero_le i, ?_⟩
      rw [offset_cons_succ, offset_zero, Nat.add_zero]
      exact htag.le_of_lt hrest hi
    · obtain ⟨i, rfl⟩ := Nat.exists_eq_add_of_le hi
      obtain ⟨k, ht, hinside⟩ := ih ((tagAt_append _ _ _).mp htag)
      exact ⟨k + 1, ht, inside_cons_succ.mpr hinside⟩
  | @char c cs ps hnone _ ih =>
    intro i htag
    cases i with
    | zero => exact absurd htag (not_tagAt_zero_of_none hnone)
    | succ i =>
      obtain ⟨k, ht, hinside⟩ := ih ((tagAt_append [c] cs i).mp (Nat.add_comm 1 i ▸ htag))
      exact ⟨k + 1, ht, Nat.add_comm 1 i ▸ inside_cons_succ.mpr hinside⟩

/-- No tag has one of the characters that are left. -/
theorem Scanned.outside {cs : List Char} {ps : List Piece} (h : Scanned cs ps) :
    ∀ {i : Nat}, TagAt cs i → ∀ k c, ps[k]? = some (.char c) →
      offset ps k < i ∨ i + Filter.tag.length ≤ offset ps k := by
  intro i htag k c hk
  obtain ⟨j, ⟨t, ht⟩, hj₁, hj₂⟩ := h.exists_inside htag
  have hpos := tag_length_pos
  rcases Nat.lt_trichotomy j k with hlt | rfl | hlt
  · have : offset ps (j + 1) ≤ offset ps k := offset_mono ps hlt
    exact Or.inr (hj₂.trans this)
  · exact Piece.noConfusion (Option.some.inj (hk.symm.trans ht))
  · have hlen := offset_succ hk
    have : offset ps (k + 1) ≤ offset ps j := offset_mono ps hlt
    rw [text, List.length_singleton] at hlen
    omega

theorem Scanned.longest {cs : List Char} {ps : List Piece} (h : Scanned cs ps) :
    ∀ k t, ps[k]? = some (.token t) → Token.EndsWord (textOf (ps.drop (k + 1))) := by
  induction h with
  | nil => simp
  | token _ hrest more ih =>
    intro k t hk
    cases k with
    | zero =>
      rw [List.drop_succ_cons, List.drop_zero, more.textOf_eq]
      exact hrest
    | succ k => exact ih k t hk
  | char _ _ ih =>
    intro k t hk
    cases k with
    | zero => exact Piece.noConfusion (Option.some.inj hk)
    | succ k => exact ih k t hk

theorem Scanned.signed {cs : List Char} {ps : List Piece} (h : Scanned cs ps) :
    ∀ k c t, ps[k]? = some (.char c) → ps[k + 1]? = some (.token t) → t.sign = none →
      c ≠ '+' ∧ c ≠ '-' := by
  induction h with
  | nil => simp
  | token _ _ _ ih =>
    intro k c t hk ht hsign
    cases k with
    | zero => exact Piece.noConfusion (Option.some.inj hk)
    | succ k => exact ih k c t hk ht hsign
  | @char c cs ps hnone more ih =>
    intro k d t hk ht hsign
    cases k with
    | zero =>
      obtain rfl : c = d := Piece.char.inj (Option.some.inj hk)
      cases more with
      | nil => exact absurd ht (by simp)
      | token hproper _ _ =>
        obtain rfl := Piece.token.inj (Option.some.inj ht)
        exact not_sign_of_none hnone hproper hsign (List.prefix_append _ _)
      | char _ _ => exact Piece.noConfusion (Option.some.inj ht)
    | succ k => exact ih k d t hk ht hsign

theorem Scanned.reading {cs : List Char} {ps : List Piece} (h : Scanned cs ps) :
    Reading cs ps where
  text := h.textOf_eq
  proper _ := h.proper_of_mem
  longest := h.longest
  inside i hi := by
    obtain ⟨k, ht, hk⟩ := h.exists_inside hi
    exact ⟨k, ⟨ht, hk⟩, fun j hj => hj.2.unique hk⟩
  outside i := h.outside
  signed := h.signed

/-! ### A reading is read from left to right -/

theorem Reading.tail {cs : List Char} {p : Piece} {ps : List Piece} (h : Reading cs (p :: ps)) :
    Reading (textOf ps) ps := by
  have hshift : ∀ {i : Nat}, TagAt (textOf ps) i → TagAt cs (p.text.length + i) := fun hi =>
    h.text ▸ (tagAt_append _ _ _).mpr hi
  constructor
  case text => rfl
  case proper => exact fun t ht => h.proper t (List.mem_cons_of_mem p ht)
  case longest => exact fun k => h.longest (k + 1)
  case signed => exact fun k => h.signed (k + 1)
  case inside =>
    intro i hi
    obtain ⟨k, ⟨ht, hk⟩, hunique⟩ := h.inside _ (hshift hi)
    cases k with
    | zero =>
      have hpos := tag_length_pos
      have hlen := hk.2
      rw [offset_cons_succ, offset_zero] at hlen
      omega
    | succ k =>
      refine ⟨k, ⟨ht, inside_cons_succ.mp hk⟩, fun j hj => ?_⟩
      exact Nat.succ.inj (hunique (j + 1) ⟨hj.1, inside_cons_succ.mpr hj.2⟩)
  case outside =>
    intro i hi k c hk
    have := h.outside _ (hshift hi) (k + 1) c hk
    rw [offset_cons_succ] at this
    omega

theorem Reading.text_ne_nil {cs : List Char} {ps : List Piece} (h : Reading cs ps) :
    ∀ p ∈ ps, p.text ≠ []
  | .token t, ht => (h.proper t ht).text_ne_nil
  | .char c, _ => List.cons_ne_nil c []

/-- A tag at the beginning of a reading belongs to a token that it begins with. -/
theorem Reading.eq_token_cons {cs : List Char} {ps : List Piece} (h : Reading cs ps)
    (htag : TagAt cs 0) : ∃ t qs, ps = .token t :: qs ∧ t.sign = none := by
  obtain ⟨k, ⟨⟨t, ht⟩, hk, -⟩, -⟩ := h.inside 0 htag
  obtain ⟨p, ps, rfl⟩ : ∃ p ps', ps = p :: ps' := by
    refine List.exists_cons_of_ne_nil fun hnil => ?_
    rw [hnil] at ht
    exact absurd ht (by simp)
  cases k with
  | zero =>
    obtain rfl : p = .token t := Option.some.inj ht
    obtain ⟨u, hu, hsign, hbegins⟩ := tagAt_zero_iff.mp htag
    rw [← h.text, textOf_cons] at hbegins
    exact ⟨t, ps, rfl, (hu.sign_eq (h.proper t List.mem_cons_self) hbegins).symm.trans hsign⟩
  | succ k =>
    rw [offset_cons_succ] at hk
    have hpos := List.length_pos_iff.mpr (h.text_ne_nil p List.mem_cons_self)
    omega

/-- A character that is left is one where no token stands. -/
theorem Reading.none_of_char {cs : List Char} {c : Char} {ps : List Piece}
    (h : Reading cs (.char c :: ps)) : ∀ t : Token, t.Proper → ¬ t.text <+: cs := by
  intro t ht hbegins
  cases hsign : t.sign with
  | none =>
    have hpos := tag_length_pos
    have := h.outside 0 (tagAt_zero_iff.mpr ⟨t, ht, hsign, hbegins⟩) 0 c rfl
    rw [offset_zero] at this
    omega
  | some s =>
    obtain rfl : c :: textOf ps = cs := h.text
    rw [ht.text_eq_cons, hsign, List.cons_prefix_cons] at hbegins
    have htag : TagAt (textOf ps) 0 := by
      refine ⟨t.tag, ht.tag, (List.prefix_append t.tag t.word).trans ?_⟩
      have htail : t.text.tail = t.tag ++ t.word := by
        rw [Token.text_eq, hsign]
        cases s <;> rfl
      exact htail ▸ hbegins.2
    obtain ⟨u, qs, rfl, hu⟩ := h.tail.eq_token_cons htag
    obtain ⟨hplus, hminus⟩ := h.signed 0 c u rfl rfl hu
    cases s with
    | plus => exact hplus hbegins.1.symm
    | minus => exact hminus hbegins.1.symm

/-- **The one reading of a text is what is read from left to right.** -/
theorem reading_iff_scanned {cs : List Char} {ps : List Piece} :
    Reading cs ps ↔ Scanned cs ps := by
  refine ⟨fun h => ?_, Scanned.reading⟩
  induction ps generalizing cs with
  | nil => exact h.text ▸ .nil
  | cons p ps ih =>
    have hmore := ih h.tail
    have htext : p.text ++ textOf ps = cs := h.text
    subst htext
    cases p with
    | char c => exact .char h.none_of_char hmore
    | token t =>
      exact .token (h.proper t List.mem_cons_self) (h.longest 0 t rfl) hmore

/-- The token that a piece is. -/
def token? : Piece → Option Token
  | token t => some t
  | char _ => none

/-- The tokens among some pieces, in their order. -/
def tokens (ps : List Piece) : List Token := ps.filterMap token?

theorem filterMap_filter?_eq : ∀ ps : List Piece,
    ps.filterMap filter? = ((tokens ps).filter (·.word ≠ [])).map fun t =>
      ⟨t.sign != some .minus, Text.lowerString (String.ofList t.word), none, String.ofList t.text⟩
  | [] => rfl
  | char _ :: ps => filterMap_filter?_eq ps
  | token t :: ps => by
    have htokens : tokens (token t :: ps) = t :: tokens ps := rfl
    rw [htokens]
    by_cases hword : t.word = []
    · rw [List.filterMap_cons_none (filter?_token_of_eq_nil hword), List.filter_cons_of_neg
        (by simpa using hword), filterMap_filter?_eq ps]
    · rw [List.filterMap_cons_some (filter?_token_of_ne_nil hword), List.filter_cons_of_pos
        (by simpa using hword), filterMap_filter?_eq ps]
      rfl

end Piece

namespace Query

/-- **The filters of a query come from the tokens of its one reading.**  A token with a word gives a
filter, and nothing else does: it excludes if its sign is a minus, its keyword is the small form of
the word, it has no feature, and it is written as the token is. -/
theorem filters_eq_map_tokens (query : String) :
    ∃ ps, Piece.Reading query.toList ps ∧ (∀ qs, Piece.Reading query.toList qs → qs = ps) ∧
      filters query = ((Piece.tokens ps).filter (·.word ≠ [])).map fun t =>
        ⟨t.sign != some .minus, Text.lowerString (String.ofList t.word), none,
          String.ofList t.text⟩ := by
  refine ⟨Piece.scan query.toList, (Piece.scanned_scan _).reading, fun qs hqs => ?_,
    Piece.filterMap_filter?_eq _⟩
  exact (Piece.reading_iff_scanned.mp hqs).scan_eq.symm

end Query

end QuerySieve
