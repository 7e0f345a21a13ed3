import Mathlib.Data.List.Forall2
import QuerySieve.Proofs.Text.Blank

/-!
# Proofs/Text/Recased — texts that differ in the case of plain letters

Whether a character is a blank, has case, is passed over, and what its small form is: none of this
tells the two cases of a plain letter apart, so it can be asked of the small one (`apply_toLower`).
Therefore a text and the same in another case have one small form, although that depends on the
neighbours of a character (`Recased.lower_eq`).
-/

namespace QuerySieve.Text

/-- **The texts are the same but for the case of plain letters.** -/
def Recased (s t : String) : Prop :=
  List.Forall₂ (fun c d => d = c ∨ d = c.toLower ∨ d = c.toUpper) s.toList t.toList

instance (s t : String) : Decidable (Recased s t) :=
  inferInstanceAs (Decidable (List.Forall₂ _ _ _))

/-! ## Plain letters -/

theorem toLower_of_not_plain {c : Char} (h : ¬ c.toNat < 0x80) : c.toLower = c := by
  rw [← Char.toNat_inj, toNat_toLower, if_neg (by omega)]

theorem toUpper_of_not_plain {c : Char} (h : ¬ c.toNat < 0x80) : c.toUpper = c := by
  refine dif_neg fun hsmall => h ?_
  have hle := UInt32.le_iff_toNat_le.mp hsmall.2
  exact Nat.lt_of_le_of_lt hle (by decide)

/-- **What does not tell the cases of a plain letter apart** can be asked of the small one. -/
theorem apply_toLower {α : Type} {f : Char → α}
    (h : ∀ n < 0x80, f (Char.ofNat n).toLower = f (Char.ofNat n)) (c : Char) :
    f c.toLower = f c := by
  by_cases hc : c.toNat < 0x80
  · have hplain := h c.toNat hc
    rwa [Char.ofNat_toNat] at hplain
  · rw [toLower_of_not_plain hc]

theorem toLower_toUpper (c : Char) : c.toUpper.toLower = c.toLower := by
  by_cases hc : c.toNat < 0x80
  · have hplain : ∀ n < 0x80, (Char.ofNat n).toUpper.toLower = (Char.ofNat n).toLower := by decide
    have := hplain c.toNat hc
    rwa [Char.ofNat_toNat] at this
  · rw [toUpper_of_not_plain hc]

@[simp] theorem toLower_toLower (c : Char) : c.toLower.toLower = c.toLower :=
  apply_toLower (by decide) c

@[simp] theorem isBlank_toLower (c : Char) : isBlank c.toLower = isBlank c :=
  apply_toLower (by decide) c

@[simp] theorem isCased_toLower (c : Char) : isCased c.toLower = isCased c :=
  apply_toLower (by decide +kernel) c

@[simp] theorem isIgnorable_toLower (c : Char) : isIgnorable c.toLower = isIgnorable c :=
  apply_toLower (by decide +kernel) c

@[simp] theorem lowerChar_toLower (c : Char) : lowerChar c.toLower = lowerChar c :=
  apply_toLower (by decide +kernel) c

/-- A character that is no plain letter stands for itself. -/
theorem toLower_eq_iff {special : Char} (h : ¬ special.toNat < 0x80) {c : Char} :
    c.toLower = special ↔ c = special := by
  constructor
  · intro hc
    by_cases hplain : c.toNat < 0x80
    · have hnat : c.toLower.toNat = special.toNat := by rw [hc]
      rw [toNat_toLower] at hnat
      split at hnat <;> omega
    · rwa [toLower_of_not_plain hplain] at hc
  · rintro rfl
    exact toLower_of_not_plain h

/-! ## Small forms -/

theorem startsCased_map_toLower : ∀ cs : List Char,
    startsCased (cs.map Char.toLower) = startsCased cs
  | [] => rfl
  | c :: cs => by
    rw [List.map_cons, startsCased, startsCased, startsCased_map_toLower cs, isIgnorable_toLower,
      isCased_toLower]

theorem lowerAt_toLower (seen : Bool) (c : Char) (cs : List Char) :
    lowerAt seen c.toLower (cs.map Char.toLower) = lowerAt seen c cs := by
  have hsigma : c.toLower = 'Σ' ↔ c = 'Σ' := toLower_eq_iff (by decide)
  have hdotted : c.toLower = 'İ' ↔ c = 'İ' := toLower_eq_iff (by decide)
  simp only [lowerAt, startsCased_map_toLower, hsigma, hdotted, lowerChar_toLower]

theorem lowerFrom_map_toLower : ∀ (seen : Bool) (cs : List Char),
    lowerFrom seen (cs.map Char.toLower) = lowerFrom seen cs
  | _, [] => rfl
  | seen, c :: cs => by
    have hseen : seenAfter seen c.toLower = seenAfter seen c := by
      rw [seenAfter, seenAfter, isIgnorable_toLower, isCased_toLower]
    rw [List.map_cons, lowerFrom_cons, lowerFrom_cons, lowerAt_toLower, hseen,
      lowerFrom_map_toLower (seenAfter seen c) cs]

/-- **The small form does not ask for the case of plain letters.** -/
theorem lower_map_toLower (cs : List Char) : lower (cs.map Char.toLower) = lower cs :=
  lowerFrom_map_toLower false cs

theorem trim_map_toLower (cs : List Char) :
    trim (cs.map Char.toLower) = (trim cs).map Char.toLower := by
  have hblank : isBlank ∘ Char.toLower = isBlank := funext isBlank_toLower
  rw [trim, trimOf, trimEndOf, List.dropWhile_map, hblank, ← List.map_reverse, List.dropWhile_map,
    hblank, ← List.map_reverse]
  rfl

/-! ## Texts in another case -/

theorem map_eq_map_iff_forall₂ {α β : Type} {f : α → β} {xs ys : List α} :
    xs.map f = ys.map f ↔ List.Forall₂ (fun x y => f x = f y) xs ys := by
  rw [← List.forall₂_eq_eq_eq, List.forall₂_map_left_iff, List.forall₂_map_right_iff]

namespace Recased

variable {s t : String}

theorem refl (s : String) : Recased s s := List.forall₂_same.mpr fun _ _ => Or.inl rfl

theorem map_toLower_eq (h : Recased s t) :
    s.toList.map Char.toLower = t.toList.map Char.toLower := by
  rw [map_eq_map_iff_forall₂]
  refine List.Forall₂.imp (fun c d hd => ?_) h
  rcases hd with rfl | rfl | rfl
  · rfl
  · exact (toLower_toLower c).symm
  · exact (toLower_toUpper c).symm

/-- **A text has the same small form in any case.** -/
theorem lower_eq (h : Recased s t) : lower s.toList = lower t.toList := by
  rw [← lower_map_toLower, h.map_toLower_eq, lower_map_toLower]

theorem lowerString_eq (h : Recased s t) : lowerString s = lowerString t := by
  rw [lowerString, h.lower_eq, lowerString]

theorem tidy_eq (h : Recased s t) : tidy s = tidy t := by
  rw [tidy, tidy, lowerString, lowerString, toList_trimString, toList_trimString,
    ← lower_map_toLower, ← trim_map_toLower, h.map_toLower_eq, trim_map_toLower, lower_map_toLower]

theorem isEmpty_eq (h : Recased s t) : s.isEmpty = t.isEmpty := by
  rw [Bool.eq_iff_iff, String.isEmpty_iff, String.isEmpty_iff, ← String.toList_eq_nil_iff,
    ← String.toList_eq_nil_iff, ← List.length_eq_zero_iff, ← List.length_eq_zero_iff,
    List.Forall₂.length_eq h]

end Recased

end QuerySieve.Text
