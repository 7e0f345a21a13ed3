import Mathlib.Data.List.Basic
import QuerySieve.Text.Substring

/-!
# Proofs/Text/Substring — where a part occurs, and which occurrence is taken out

`occursIn` is containment as a stretch (`occursIn_iff_infix`), and a part without the mark lies in
one of the texts that the mark joins, never across two of them (`infix_intercalate_iff`).
`removeFirst` looks for its part from the left.  If the part does not begin anywhere inside the text
before one of its occurrences, that occurrence is the one that is taken out (`removeFirst_append`);
an occurrence in the text in front goes before all behind it (`removeFirst_append_of_infix`).
-/

namespace QuerySieve.Text

/-! ## Cutting -/

/-- Cutting at a mark is cutting at what equals it. -/
theorem splitOn_eq_splitOn (mark : Char) : ∀ cs : List Char, splitOn mark cs = cs.splitOn mark
  | [] => rfl
  | c :: cs => by
    rw [splitOn, splitOn_eq_splitOn mark cs, List.splitOn, List.splitOn,
      List.splitOnP_cons_eq_if_modifyHead]
    cases hsplit : cs.splitOnP (· == mark) with
    | nil => exact absurd hsplit (List.splitOnP_ne_nil _ cs)
    | cons segment segments =>
      by_cases hc : c = mark
      · simp [hc]
      · simp [hc]

/-- What is left behind the first characters of a kind. -/
theorem drop_length_takeWhile (p : Char → Bool) (cs : List Char) :
    cs.drop (cs.takeWhile p).length = cs.dropWhile p :=
  calc cs.drop (cs.takeWhile p).length
      = (cs.takeWhile p ++ cs.dropWhile p).drop (cs.takeWhile p).length := by
        rw [List.takeWhile_append_dropWhile]
    _ = cs.dropWhile p := List.drop_left

/-! ## Where a part occurs -/

/-- **A part occurs in a text exactly if it is a stretch of it.** -/
theorem occursIn_iff_infix {part : List Char} : ∀ {cs : List Char},
    occursIn part cs = true ↔ part <:+: cs
  | [] => by rw [occursIn, List.isEmpty_iff, List.infix_nil]
  | c :: cs => by
    rw [occursIn, Bool.or_eq_true, List.isPrefixOf_iff_prefix, occursIn_iff_infix,
      List.infix_cons_iff]

/-- Texts joined by a mark: the first, the mark, and the others joined. -/
theorem intercalate_mark_cons_cons (mark : Char) (text next : List Char)
    (texts : List (List Char)) :
    [mark].intercalate (text :: next :: texts) =
      text ++ mark :: [mark].intercalate (next :: texts) := by
  rw [List.intercalate_cons_cons, List.append_assoc, List.singleton_append]

section Joined

variable {mark : Char} {part : List Char}

theorem eq_nil_of_prefix_cons (h : mark ∉ part) {cs : List Char} (hpart : part <+: mark :: cs) :
    part = [] := by
  cases part with
  | nil => rfl
  | cons c part =>
    rw [List.cons_prefix_cons] at hpart
    exact absurd (hpart.1 ▸ List.mem_cons_self) h

/-- A part without the mark does not lie across it. -/
theorem infix_append_cons_iff (h : mark ∉ part) (cs ds : List Char) :
    part <:+: cs ++ mark :: ds ↔ part <:+: cs ∨ part <:+: ds := by
  constructor
  · intro hpart
    rcases List.infix_append_iff.mp hpart with hcs | hds | ⟨front, back, rfl, hfront, hback⟩
    · exact Or.inl hcs
    · rcases List.infix_cons_iff.mp hds with hds | hds
      · exact Or.inr (eq_nil_of_prefix_cons h hds ▸ List.nil_infix)
      · exact Or.inr hds
    · have hnil : back = [] :=
        eq_nil_of_prefix_cons (fun hmem => h (List.mem_append_right front hmem)) hback
      rw [hnil, List.append_nil]
      exact Or.inl hfront.isInfix
  · rintro (hcs | hds)
    · exact hcs.trans (List.prefix_append cs _).isInfix
    · exact hds.trans ((List.suffix_cons mark ds).trans (List.suffix_append cs _)).isInfix

/-- **A part without the mark occurs in joined texts exactly if it occurs in one of them.** -/
theorem infix_intercalate_iff (h : mark ∉ part) : ∀ {texts : List (List Char)}, texts ≠ [] →
    (part <:+: [mark].intercalate texts ↔ ∃ text ∈ texts, part <:+: text)
  | [], hne => absurd rfl hne
  | [text], _ => by rw [List.intercalate_singleton]; simp
  | text :: next :: texts, _ => by
    rw [intercalate_mark_cons_cons, infix_append_cons_iff h,
      infix_intercalate_iff h (List.cons_ne_nil next texts)]
    exact (List.exists_mem_cons_iff _ text (next :: texts)).symm

end Joined

/-! ## Which occurrence is taken out -/

theorem removeFirst_self_append {part : List Char} (hpart : part ≠ []) (rest : List Char) :
    removeFirst part (part ++ rest) = rest := by
  obtain ⟨c, cs, rfl⟩ := List.exists_cons_of_ne_nil hpart
  have hbegins : (c :: cs).isPrefixOf (c :: (cs ++ rest)) = true :=
    List.isPrefixOf_iff_prefix.mpr (List.prefix_append (c :: cs) rest)
  rw [List.cons_append, removeFirst, if_pos hbegins]
  exact List.drop_left

/-- **The occurrence behind `before` is taken out** if the part begins nowhere in `before`. -/
theorem removeFirst_append {part : List Char} (hpart : part ≠ []) {before rest : List Char}
    (hfirst : ∀ cs, cs ≠ [] → cs <:+ before → ¬ part <+: cs ++ (part ++ rest)) :
    removeFirst part (before ++ (part ++ rest)) = before ++ rest := by
  induction before with
  | nil => exact removeFirst_self_append hpart rest
  | cons c before ih =>
    have hnot : ¬ part.isPrefixOf (c :: (before ++ (part ++ rest))) = true := fun h =>
      hfirst (c :: before) (List.cons_ne_nil _ _) List.suffix_rfl (List.isPrefixOf_iff_prefix.mp h)
    have htail := ih fun cs hcs hsuffix => hfirst cs hcs (hsuffix.trans (List.suffix_cons c before))
    rw [List.cons_append, removeFirst, if_neg hnot, htail, List.cons_append]

/-- **Where the part occurs in the text in front, it is taken out there**, whatever follows. -/
theorem removeFirst_append_of_infix {part : List Char} (hpart : part ≠ []) : ∀ {cs : List Char},
    part <:+: cs → ∃ front back, cs = front ++ (part ++ back) ∧
      ∀ rest, removeFirst part (cs ++ rest) = front ++ back ++ rest
  | [], h => absurd (List.infix_nil.mp h) hpart
  | c :: cs, h => by
    by_cases hbegins : part <+: c :: cs
    · obtain ⟨back, hback⟩ := hbegins
      refine ⟨[], back, hback.symm, fun rest => ?_⟩
      rw [← hback, List.append_assoc, removeFirst_self_append hpart, List.nil_append]
    · obtain ⟨front, back, rfl, hremove⟩ :=
        removeFirst_append_of_infix hpart ((List.infix_cons_iff.mp h).resolve_left hbegins)
      refine ⟨c :: front, back, rfl, fun rest => ?_⟩
      -- the part is no longer than the text in front, so it does not begin here and end behind it
      have hnot : ¬ part.isPrefixOf (c :: (front ++ (part ++ back) ++ rest)) = true := fun hlong =>
        hbegins (List.prefix_of_prefix_length_le (List.isPrefixOf_iff_prefix.mp hlong)
          (List.prefix_append _ rest) h.length_le)
      rw [List.cons_append, removeFirst, if_neg hnot, hremove rest, List.cons_append,
        List.cons_append]

end QuerySieve.Text
