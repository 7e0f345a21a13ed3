import Mathlib.Data.List.Basic
import QuerySieve.Proofs.Text.Case
import QuerySieve.Query.Token

/-!
# Proofs/Query/Tag — the tag in letters of any case

A text is the tag in some case if its small form is the tag (`IsTag`).  That is a matter of the
single letters (`isTag_iff_map`), since the tag holds no letter that depends on its neighbours, and
it is what the reader of tokens looks for (`readTag?_tag_eq_some_iff`).
-/

namespace QuerySieve.Token

/-! ## Letters of the tag -/

/-- The tag in letters of any case — a text whose small form is the tag. -/
def IsTag (cs : List Char) : Prop := Text.lower cs = Filter.tag.toList

theorem plain_of_mem_tag : ∀ letter ∈ Filter.tag.toList, letter.toNat < 0x80 := by
  have hall : (Filter.tag.toList.all fun letter => letter.toNat < 0x80) = true := by decide
  exact fun letter h => of_decide_eq_true (List.all_eq_true.mp hall letter h)

theorem lowerChar_kelvin : Text.lowerChar '\u212A' = 'k' := by decide +kernel

/-- The letters that a reader takes for a letter of the tag are those whose small form it is. -/
theorem isTagLetter_iff {letter : Char} (h : letter ∈ Filter.tag.toList) (c : Char) :
    isTagLetter letter c = true ↔ Text.lowerChar c = letter := by
  have hplain := plain_of_mem_tag letter h
  simp only [isTagLetter, Bool.or_eq_true, Bool.and_eq_true, beq_iff_eq]
  constructor
  · rintro (rfl | ⟨rfl, rfl⟩)
    · have hc : c.toNat < 0x80 := by
        rw [Text.toNat_toLower] at hplain
        split at hplain <;> omega
      exact Text.lowerChar_of_plain hc
    · exact lowerChar_kelvin
  · rintro rfl
    rcases Text.plain_of_plain_lowerChar hplain with hc | rfl
    · exact Or.inl (Text.lowerChar_of_plain hc).symm
    · exact Or.inr ⟨lowerChar_kelvin, rfl⟩

/-- A letter that the two special characters do not give comes from one character alone. -/
theorem lowerFrom_cons_eq_cons_iff {letter : Char} (h : letter ∉ ['σ', 'ς', 'i', 'İ'])
    (seen : Bool) (c : Char) (cs letters : List Char) :
    Text.lowerFrom seen (c :: cs) = letter :: letters ↔
      Text.lowerChar c = letter ∧ Text.lowerFrom (Text.seenAfter seen c) cs = letters := by
  simp only [List.mem_cons, List.not_mem_nil, or_false, not_or] at h
  obtain ⟨hsmall, hfinal, hi, hI⟩ := h
  have hsigma : Text.lowerChar 'Σ' = 'σ' := by decide +kernel
  have hdotted : Text.lowerChar 'İ' = 'İ' := by decide +kernel
  rw [Text.lowerFrom_cons, Text.lowerAt]
  split
  · rename_i hc
    subst hc
    rw [hsigma]
    refine iff_of_false (fun heq => ?_) fun heq => hsmall heq.1.symm
    split at heq
    · exact hfinal (List.cons.inj heq).1.symm
    · exact hsmall (List.cons.inj heq).1.symm
  · split
    · rename_i hc
      subst hc
      rw [hdotted]
      exact iff_of_false (fun heq => hi (List.cons.inj heq).1.symm) fun heq => hI heq.1.symm
    · rw [List.singleton_append, List.cons.injEq]

/-! ## The tag -/

theorem lowerFrom_eq_iff_map : ∀ {letters : List Char}, letters ⊆ Filter.tag.toList →
    ∀ (seen : Bool) (cs : List Char),
      Text.lowerFrom seen cs = letters ↔ cs.map Text.lowerChar = letters
  | [], _, _, [] => Iff.rfl
  | [], _, seen, c :: cs => by
    refine iff_of_false (fun h => ?_) (List.cons_ne_nil _ _)
    rw [Text.lowerFrom_cons, List.append_eq_nil_iff] at h
    exact Text.lowerAt_ne_nil _ _ _ h.1
  | letter :: letters, _, seen, [] => iff_of_false
    (List.cons_ne_nil _ _).symm (List.cons_ne_nil _ _).symm
  | letter :: letters, h, seen, c :: cs => by
    have hall : (Filter.tag.toList.all fun l => l ∉ ['σ', 'ς', 'i', 'İ']) = true := by decide
    have hplain : letter ∉ ['σ', 'ς', 'i', 'İ'] :=
      of_decide_eq_true (List.all_eq_true.mp hall letter (h List.mem_cons_self))
    rw [lowerFrom_cons_eq_cons_iff hplain, List.map_cons,
      List.cons.injEq, lowerFrom_eq_iff_map (List.subset_of_cons_subset h)]

/-- **A tag in any case is one letter by letter.** -/
theorem isTag_iff_map (cs : List Char) : IsTag cs ↔ cs.map Text.lowerChar = Filter.tag.toList :=
  lowerFrom_eq_iff_map (List.Subset.refl _) false cs

theorem isTag_tag : IsTag Filter.tag.toList := (isTag_iff_map _).mpr (by decide)

theorem IsTag.length_eq {cs : List Char} (h : IsTag cs) : cs.length = Filter.tag.length := by
  rw [← String.length_toList, ← (isTag_iff_map cs).mp h, List.length_map]

/-- Nothing in a tag ends a word. -/
theorem IsTag.isWordChar_of_mem {cs : List Char} (h : IsTag cs) {c : Char} (hc : c ∈ cs) :
    isWordChar c = true := by
  have hmem : Text.lowerChar c ∈ Filter.tag.toList :=
    (isTag_iff_map cs).mp h ▸ List.mem_map_of_mem hc
  have hplain : ∀ n < 0x80, (Char.ofNat n).toLower ∈ Filter.tag.toList →
      isWordChar (Char.ofNat n) = true := by decide
  rcases Text.plain_of_plain_lowerChar (plain_of_mem_tag _ hmem) with hc | rfl
  · rw [Text.lowerChar_of_plain hc] at hmem
    simpa using hplain c.toNat hc (by simpa using hmem)
  · decide

/-- A tag begins with a colon. -/
theorem IsTag.eq_cons {cs : List Char} (h : IsTag cs) : ∃ letters, cs = ':' :: letters := by
  obtain ⟨c, letters, rfl, hmap, -⟩ := List.map_eq_cons_iff.mp ((isTag_iff_map cs).mp h)
  have hc : Text.lowerChar c = ':' := hmap
  have hplain : ∀ n < 0x80, (Char.ofNat n).toLower = ':' → Char.ofNat n = ':' := by decide
  refine ⟨letters, congrArg (· :: letters) ?_⟩
  rcases Text.plain_of_plain_lowerChar (c := c) (by rw [hc]; decide) with hlt | rfl
  · rw [Text.lowerChar_of_plain hlt] at hc
    simpa using hplain c.toNat hlt (by simpa using hc)
  · exact absurd (lowerChar_kelvin.symm.trans hc) (by decide)

theorem readTag?_eq_some_iff : ∀ {letters : List Char}, letters ⊆ Filter.tag.toList →
    ∀ cs tag rest : List Char, readTag? letters cs = some (tag, rest) ↔
      cs = tag ++ rest ∧ tag.map Text.lowerChar = letters
  | [], _, cs, tag, rest => by
    rw [readTag?, Option.some_inj, Prod.mk.injEq, List.map_eq_nil_iff]
    constructor
    · rintro ⟨rfl, rfl⟩
      exact ⟨rfl, rfl⟩
    · rintro ⟨rfl, rfl⟩
      exact ⟨rfl, rfl⟩
  | letter :: letters, _, [], tag, rest => by
    refine iff_of_false (by simp [readTag?]) ?_
    rintro ⟨htext, hmap⟩
    rw [(List.append_eq_nil_iff.mp htext.symm).1] at hmap
    exact List.cons_ne_nil _ _ hmap.symm
  | letter :: letters, h, c :: cs, tag, rest => by
    have ih := readTag?_eq_some_iff (List.subset_of_cons_subset h) cs
    rw [readTag?]
    split
    · rename_i hc
      rw [isTagLetter_iff (h List.mem_cons_self)] at hc
      rw [Option.map_eq_some_iff]
      constructor
      · rintro ⟨⟨tag', rest'⟩, hread, heq⟩
        obtain ⟨rfl, rfl⟩ := Prod.mk.inj heq
        obtain ⟨rfl, hmap⟩ := (ih _ _).mp hread
        exact ⟨rfl, by rw [List.map_cons, hc, hmap]⟩
      · rintro ⟨htext, hmap⟩
        obtain ⟨c', tag', rfl, -, hmap'⟩ := List.map_eq_cons_iff.mp hmap
        obtain ⟨rfl, rfl⟩ := List.cons.inj htext
        exact ⟨(tag', rest), (ih _ _).mpr ⟨rfl, hmap'⟩, rfl⟩
    · rename_i hc
      rw [isTagLetter_iff (h List.mem_cons_self)] at hc
      refine iff_of_false (by simp) ?_
      rintro ⟨htext, hmap⟩
      obtain ⟨c', tag', rfl, hc', -⟩ := List.map_eq_cons_iff.mp hmap
      exact hc ((List.cons.inj htext).1 ▸ hc')

/-- **What is read as the tag is the tag in any case.** -/
theorem readTag?_tag_eq_some_iff {cs tag rest : List Char} :
    readTag? Filter.tag.toList cs = some (tag, rest) ↔ cs = tag ++ rest ∧ IsTag tag := by
  rw [readTag?_eq_some_iff (List.Subset.refl _), isTag_iff_map]

end QuerySieve.Token
