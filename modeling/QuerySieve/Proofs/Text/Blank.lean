import Mathlib.Data.List.DropRight
import QuerySieve.Proofs.Text.Case
import QuerySieve.Text.Blank

/-!
# Proofs/Text/Blank — blanks that trimming does not see, and that small letters do not bring in

Blanks at the end of a text are taken off it, so it makes no difference how many of them there are.
What is left is a stretch of the text with nothing more to take off (`trim_infix`, `trim_trim`), and
where two texts with the same end are left as one, a part without blanks that stands right before
that end in one of them stands there in the other, too (`exists_eq_append_of_trim_eq`).
No character has a blank for its small form but a blank, so a text without blanks has none in its
small form either (`isBlank_eq_false_of_mem_lower`).
-/

namespace QuerySieve.Text

/-! ## Blanks at the end -/

theorem trimEndOf_append {p : Char → Bool} (cs : List Char) {bs : List Char}
    (h : ∀ b ∈ bs, p b = true) : trimEndOf p (cs ++ bs) = trimEndOf p cs := by
  have hreverse : ∀ b ∈ bs.reverse, p b = true := fun b hb => h b (List.mem_reverse.mp hb)
  rw [trimEndOf, List.reverse_append, List.dropWhile_append_of_pos hreverse, trimEndOf]

/-- **Blanks behind a text are trimmed away.** -/
theorem trim_append (cs : List Char) {bs : List Char} (h : ∀ b ∈ bs, isBlank b = true) :
    trim (cs ++ bs) = trim cs := by
  have hbs : bs.dropWhile isBlank = [] := List.dropWhile_eq_nil_iff.mpr h
  rw [trim, trimOf, List.dropWhile_append]
  split
  · rename_i hcs
    rw [hbs, trim, trimOf, List.isEmpty_iff.mp hcs]
  · rw [trimEndOf_append _ h, trim, trimOf]

/-- **Blanks before a text are trimmed away.** -/
theorem trim_blank_append {bs : List Char} (h : ∀ b ∈ bs, isBlank b = true) (cs : List Char) :
    trim (bs ++ cs) = trim cs := by
  rw [trim, trimOf, List.dropWhile_append_of_pos h, trim, trimOf]

/-! ## What is left -/

/-- **A trimmed text is a stretch of the text.** -/
theorem trim_infix (cs : List Char) : trim cs <:+: cs :=
  have hend : trim cs <+: cs.dropWhile isBlank :=
    List.rdropWhile_prefix isBlank (cs.dropWhile isBlank)
  hend.isInfix.trans (List.dropWhile_suffix isBlank).isInfix

/-- **A trimmed text is trimmed already.** -/
@[simp] theorem trim_trim (cs : List Char) : trim (trim cs) = trim cs := by
  have hstart : (trim cs).dropWhile isBlank = trim cs := by
    cases htrim : trim cs with
    | nil => rfl
    | cons c rest =>
      -- what is left begins where the blanks at the beginning end
      obtain ⟨more, hmore⟩ : trim cs <+: cs.dropWhile isBlank :=
        List.rdropWhile_prefix isBlank (cs.dropWhile isBlank)
      have hhead := List.head?_dropWhile_not isBlank cs
      rw [← hmore, htrim, List.cons_append, List.head?_cons] at hhead
      exact List.dropWhile_cons_of_neg (by simpa using hhead)
  rw [trim, trimOf, hstart]
  exact List.rdropWhile_idempotent isBlank (cs.dropWhile isBlank)

/-- A text is what is trimmed off its ends and what is left between. -/
theorem exists_eq_append_trim (cs : List Char) : ∃ lead tail, (∀ c ∈ lead, isBlank c = true) ∧
    (∀ c ∈ tail, isBlank c = true) ∧ cs = lead ++ (trim cs ++ tail) := by
  refine ⟨cs.takeWhile isBlank, (cs.dropWhile isBlank).rtakeWhile isBlank,
    fun c => List.mem_takeWhile_imp, fun c => List.mem_rtakeWhile_imp, ?_⟩
  have hend : trim cs ++ (cs.dropWhile isBlank).rtakeWhile isBlank = cs.dropWhile isBlank :=
    List.rdropWhile_append_rtakeWhile
  rw [hend, List.takeWhile_append_dropWhile]

/-- Nothing is left of a text just if there is nothing in it but blanks. -/
theorem trim_eq_nil_iff {cs : List Char} : trim cs = [] ↔ ∀ c ∈ cs, isBlank c = true := by
  constructor
  · intro h
    obtain ⟨lead, tail, hlead, htail, hcs⟩ := exists_eq_append_trim cs
    rw [h, List.nil_append] at hcs
    rw [hcs]
    exact List.forall_mem_append.mpr ⟨hlead, htail⟩
  · intro h
    exact trim_append [] h

/-- **A text that is trimmed already has no blank at either end.** -/
theorem isBlank_eq_false_of_trim_eq_self {cs : List Char} (h : trim cs = cs) {c : Char}
    (hc : cs.head? = some c ∨ cs.getLast? = some c) : isBlank c = false := by
  -- without a blank there, what is left would be shorter than the text
  rw [← Bool.not_eq_true]
  intro hblank
  have hone : ∀ b ∈ [c], isBlank b = true := by simpa using hblank
  rcases hc with hhead | hlast
  · obtain ⟨rest, rfl⟩ := List.head?_eq_some_iff.mp hhead
    have hrest : trim rest <:+: rest := trim_infix rest
    rw [← trim_blank_append hone rest, List.singleton_append, h] at hrest
    exact absurd hrest.length_le (by simp)
  · obtain ⟨front, rfl⟩ := List.getLast?_eq_some_iff.mp hlast
    have hfront : trim front <:+: front := trim_infix front
    rw [← trim_append front hone, h] at hfront
    exact absurd hfront.length_le (by simp)

@[simp] theorem trimString_trimString (s : String) : trimString (trimString s) = trimString s := by
  rw [trimString, toList_trimString, trim_trim, trimString]

/-- Exchanging the blanks at the beginning changes no last character but a blank. -/
theorem getLast?_eq_of_append_dropWhile {lead cs : List Char} {c : Char}
    (hlead : ∀ b ∈ lead, isBlank b = true) (hc : isBlank c = false)
    (h : (lead ++ cs.dropWhile isBlank).getLast? = some c) : cs.getLast? = some c := by
  rw [List.getLast?_append] at h
  cases hlast : (cs.dropWhile isBlank).getLast? with
  | some d =>
    rw [hlast, Option.some_or] at h
    rw [← List.takeWhile_append_dropWhile (p := isBlank) (l := cs), List.getLast?_append, hlast,
      Option.some_or, h]
  | none =>
    rw [hlast, Option.none_or] at h
    exact absurd (hlead c (List.mem_of_getLast? h)) (by simp [hc])

/-! ## Texts around a part without blanks -/

section Part

variable {part : List Char}

/-- A last character that is not in a part is the last one without the part, too. -/
theorem getLast?_append_of_not_mem {front back : List Char} {c : Char} (hc : c ∉ part)
    (h : (front ++ (part ++ back)).getLast? = some c) : (front ++ back).getLast? = some c := by
  rw [List.getLast?_append, List.getLast?_append] at h
  rw [List.getLast?_append]
  cases hback : back.getLast? with
  | some b => rwa [hback, Option.some_or, Option.some_or] at h
  | none =>
    rw [hback, Option.none_or] at h
    cases hpart : part.getLast? with
    | some b =>
      rw [hpart, Option.some_or] at h
      exact absurd (List.mem_of_getLast? (hpart.trans h)) hc
    | none => rwa [hpart, Option.none_or] at h

theorem dropWhile_append_part (hne : part ≠ []) (h : ∀ c ∈ part, isBlank c = false)
    (cs rest : List Char) :
    (cs ++ (part ++ rest)).dropWhile isBlank = cs.dropWhile isBlank ++ (part ++ rest) := by
  have hpart : (part ++ rest).dropWhile isBlank = part ++ rest := by
    obtain ⟨c, part, rfl⟩ := List.exists_cons_of_ne_nil hne
    exact List.dropWhile_cons_of_neg (by simp [h c List.mem_cons_self])
  rw [List.dropWhile_append]
  split
  · rename_i hempty
    rw [hpart, List.isEmpty_iff.mp hempty, List.nil_append]
  · rfl

theorem trimEndOf_concat {c : Char} (h : isBlank c = false) (cs : List Char) :
    trimEndOf isBlank (cs ++ [c]) = cs ++ [c] :=
  List.rdropWhile_concat_neg isBlank cs c (Bool.not_eq_true _ ▸ h)

theorem trim_concat {c : Char} (h : isBlank c = false) (cs : List Char) :
    trim (cs ++ [c]) = cs.dropWhile isBlank ++ [c] := by
  have hpart : (cs ++ ([c] ++ [])).dropWhile isBlank = cs.dropWhile isBlank ++ ([c] ++ []) :=
    dropWhile_append_part (List.cons_ne_nil c []) (by simpa using h) cs []
  rw [List.append_nil] at hpart
  rw [trim, trimOf, hpart, trimEndOf_concat h]

/-- **Two texts with the same end that are the same when trimmed**: if a part without blanks stands
before that end in one, it stands there in the other as well, but for blanks behind it and at the
beginning. -/
theorem exists_eq_append_of_trim_eq (hne : part ≠ []) (h : ∀ c ∈ part, isBlank c = false)
    {cs front rest : List Char} (htrim : trim (cs ++ rest) = trim (front ++ (part ++ rest))) :
    ∃ lead tail, (∀ c ∈ lead, isBlank c = true) ∧ (∀ c ∈ tail, isBlank c = true) ∧
      cs = lead ++ (front.dropWhile isBlank ++ (part ++ tail)) := by
  induction rest using List.reverseRecOn with
  | nil =>
    obtain ⟨lead, tail, hlead, htail, heq⟩ := exists_eq_append_trim cs
    obtain ⟨part', c, rfl⟩ := (List.eq_nil_or_concat' part).resolve_left hne
    have hc : isBlank c = false := h c (List.mem_append_right _ List.mem_cons_self)
    have hfront : trim (front ++ (part' ++ [c])) = front.dropWhile isBlank ++ (part' ++ [c]) := by
      have hdrop := dropWhile_append_part hne h front []
      rw [List.append_nil] at hdrop
      rw [trim, trimOf, hdrop, ← List.append_assoc, trimEndOf_concat hc]
    rw [List.append_nil, List.append_nil, hfront] at htrim
    rw [htrim, List.append_assoc] at heq
    exact ⟨lead, tail, hlead, htail, heq⟩
  | append_singleton rest c ih =>
    simp only [← List.append_assoc] at htrim
    cases hc : isBlank c with
    | true =>
      have hblank : ∀ b ∈ [c], isBlank b = true := by simpa using hc
      rw [trim_append _ hblank, trim_append _ hblank, List.append_assoc front] at htrim
      exact ih htrim
    | false =>
      -- nothing is trimmed off the end, so all of it is the same in both texts
      rw [trim_concat hc, trim_concat hc, List.append_assoc front, dropWhile_append_part hne h,
        List.append_left_inj] at htrim
      have hsplit := List.takeWhile_append_dropWhile (p := isBlank) (l := cs ++ rest)
      rw [htrim, ← List.append_assoc, ← List.append_assoc, List.append_left_inj,
        List.append_assoc] at hsplit
      refine ⟨(cs ++ rest).takeWhile isBlank, [], fun c => List.mem_takeWhile_imp,
        List.forall_mem_nil _, ?_⟩
      rw [List.append_nil, hsplit]

end Part

/-! ## Texts without blanks -/

theorem dropWhile_isBlank_eq_self {cs : List Char} (h : ∀ c ∈ cs, isBlank c = false) :
    cs.dropWhile isBlank = cs := by
  cases cs with
  | nil => rfl
  | cons c cs =>
    have hc : ¬ isBlank c = true := Bool.not_eq_true _ ▸ h c List.mem_cons_self
    exact List.dropWhile_cons_of_neg hc

/-- **Nothing is trimmed off a text without blanks.** -/
theorem trimString_eq_self {s : String} (h : ∀ c ∈ s.toList, isBlank c = false) :
    trimString s = s := by
  have hreverse : ∀ c ∈ s.toList.reverse, isBlank c = false :=
    fun c hc => h c (List.mem_reverse.mp hc)
  rw [trimString, trim, trimOf, trimEndOf, dropWhile_isBlank_eq_self h,
    dropWhile_isBlank_eq_self hreverse, List.reverse_reverse, String.ofList_toList]

/-! ## Blanks and small letters -/

/-- The blanks as a table. -/
def blankRanges : List Range := [⟨0x09, 0x0D⟩, ⟨0x1C, 0x20⟩, ⟨0x85, 0x85⟩, ⟨0xA0, 0xA0⟩,
  ⟨0x1680, 0x1680⟩, ⟨0x2000, 0x200A⟩, ⟨0x2028, 0x2029⟩, ⟨0x202F, 0x202F⟩, ⟨0x205F, 0x205F⟩,
  ⟨0x3000, 0x3000⟩]

theorem exists_range_of_isBlank {c : Char} (h : isBlank c = true) :
    ∃ r ∈ blankRanges, r.first ≤ c.toNat ∧ c.toNat ≤ r.last := by
  simp only [isBlank, Bool.or_eq_true, Bool.and_eq_true, decide_eq_true_eq, beq_iff_eq] at h
  simp only [blankRanges, List.exists_mem_cons_iff, List.not_mem_nil, false_and, exists_false,
    or_false]
  omega

/-- What the run gives lies behind or before every blank. -/
def CaseRun.givesNoBlank (r : CaseRun) : Bool :=
  blankRanges.all fun range => Nat.blt r.lastImage range.first || Nat.blt range.last r.firstImage

theorem smallForms_noBlank : smallForms.all CaseRun.givesNoBlank = true := by decide +kernel

/-- **Only a blank has a blank for its small form.** -/
theorem isBlank_of_isBlank_lowerChar {c : Char} (h : isBlank (lowerChar c) = true) :
    isBlank c = true := by
  rcases lowerChar_cases c with ⟨hsame, -⟩ | ⟨r, hr, hc, hshift⟩
  · rwa [hsame] at h
  · obtain ⟨range, hrange, hfirst, hlast⟩ := exists_range_of_isBlank h
    obtain ⟨hlow, hhigh⟩ := CaseRun.le_image hc hshift
    have hmisses := List.all_eq_true.mp (List.all_eq_true.mp smallForms_noBlank r hr) range hrange
    simp only [Bool.or_eq_true, Nat.blt_eq] at hmisses
    omega

/-- **A text without blanks has none in its small form.** -/
theorem isBlank_eq_false_of_mem_lower {cs : List Char} (h : ∀ c ∈ cs, isBlank c = false) :
    ∀ d ∈ lower cs, isBlank d = false := by
  intro d hd
  rw [← Bool.not_eq_true]
  rcases mem_lowerFrom hd with hspecial | ⟨c, hc, -, rfl⟩
  · have hnone : ['σ', 'ς', 'i', '\u0307'].any isBlank = false := by decide
    exact List.any_eq_false.mp hnone d hspecial
  · intro hblank
    exact Bool.false_ne_true ((h c hc).symm.trans (isBlank_of_isBlank_lowerChar hblank))

/-- The text in small letters, without blanks at its ends. -/
def tidy (s : String) : String := lowerString (trimString s)

@[simp] theorem lowerString_tidy (s : String) : lowerString (tidy s) = tidy s :=
  lowerString_lowerString _

/-- Small letters leave something of whatever is left without the blanks. -/
theorem isEmpty_trimString (s : String) : (trimString s).isEmpty = true ↔ tidy s = "" := by
  rw [String.isEmpty_iff, ← String.toList_inj, ← String.toList_inj, tidy, toList_lowerString]
  exact lower_eq_nil_iff.symm

end QuerySieve.Text
