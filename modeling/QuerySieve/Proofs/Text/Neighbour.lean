import Mathlib.Data.List.Induction
import QuerySieve.Proofs.Text.Case
import QuerySieve.Proofs.Text.Substring

/-!
# Proofs/Text/Neighbour — the small form of a part of a text

`lowerBetween` is the small form that a part has where it stands: after `seen` and before the rest.
Only a capital sigma asks for its neighbours, and it does not look across a space, so the small form
of joined texts is joined from theirs (`lower_intercalate`).  A part whose sigmas find both answers
inside it is `Settled`: those are the texts whose small form occurs in that of every text which they
occur in (`settled_iff`).
-/

namespace QuerySieve.Text

/-! ## A part in its place -/

/-- Whether a letter stands before what comes behind a text that itself comes after `seen`. -/
def seenBehind (seen : Bool) (cs : List Char) : Bool := cs.foldl seenAfter seen

/-- The small form of a text that comes after `seen` and before `rest`. -/
def lowerBetween : Bool → List Char → List Char → List Char
  | _, [], _ => []
  | seen, c :: cs, rest => lowerAt seen c (cs ++ rest) ++ lowerBetween (seenAfter seen c) cs rest

/-- **The small form of a text is put together from those of its parts in their places.** -/
theorem lowerFrom_append : ∀ (seen : Bool) (cs ds : List Char),
    lowerFrom seen (cs ++ ds) = lowerBetween seen cs ds ++ lowerFrom (seenBehind seen cs) ds
  | _, [], _ => rfl
  | seen, c :: cs, ds => by
    rw [List.cons_append, lowerFrom_cons, lowerFrom_append (seenAfter seen c) cs ds, lowerBetween,
      List.append_assoc]
    rfl

theorem lower_append (cs ds : List Char) :
    lower (cs ++ ds) = lowerBetween false cs ds ++ lowerFrom (seenBehind false cs) ds :=
  lowerFrom_append false cs ds

@[simp] theorem lowerBetween_nil : ∀ (seen : Bool) (cs : List Char),
    lowerBetween seen cs [] = lowerFrom seen cs
  | _, [] => rfl
  | seen, c :: cs => by
    rw [lowerBetween, List.append_nil, lowerBetween_nil (seenAfter seen c) cs, lowerFrom_cons]

section Congruence

variable {rest rest' : List Char}

theorem startsCased_append_congr (h : startsCased rest = startsCased rest') :
    ∀ cs, startsCased (cs ++ rest) = startsCased (cs ++ rest')
  | [] => h
  | c :: cs => by
    rw [List.cons_append, List.cons_append, startsCased, startsCased,
      startsCased_append_congr h cs]

theorem lowerAt_congr (h : startsCased rest = startsCased rest') (seen : Bool) (c : Char) :
    lowerAt seen c rest = lowerAt seen c rest' := by rw [lowerAt, lowerAt, h]

/-- Of what stands behind a part only the next letter matters. -/
theorem lowerBetween_congr (h : startsCased rest = startsCased rest') :
    ∀ (seen : Bool) (cs : List Char), lowerBetween seen cs rest = lowerBetween seen cs rest'
  | _, [] => rfl
  | seen, c :: cs => by
    rw [lowerBetween, lowerBetween, lowerAt_congr (startsCased_append_congr h cs),
      lowerBetween_congr h (seenAfter seen c) cs]

end Congruence

/-! ## Texts with spaces between -/

/-- **Nothing is looked for across a space.** -/
theorem lower_append_space (cs ds : List Char) :
    lower (cs ++ ' ' :: ds) = lower cs ++ ' ' :: lower ds := by
  have hnext : startsCased (' ' :: ds) = startsCased [] := rfl
  have hfirst : lowerFrom (seenBehind false cs) (' ' :: ds) = ' ' :: lower ds := rfl
  rw [lower_append, lowerBetween_congr hnext, lowerBetween_nil, hfirst, ← lower]

/-- **The small form of joined texts is joined from theirs.** -/
theorem lower_intercalate : ∀ texts : List (List Char),
    lower ([' '].intercalate texts) = [' '].intercalate (texts.map lower)
  | [] => rfl
  | [text] => by rw [List.intercalate_singleton, List.map_singleton, List.intercalate_singleton]
  | text :: next :: texts => by
    rw [intercalate_mark_cons_cons, lower_append_space, lower_intercalate (next :: texts)]
    exact (intercalate_mark_cons_cons ' ' (lower text) (lower next) (texts.map lower)).symm

/-! ## Texts whose small form is their own -/

/-- Whether the last character that is not passed over has case; nothing if there is none. -/
def caseBefore (cs : List Char) : Option Bool :=
  (cs.reverse.find? fun c => !isIgnorable c).map isCased

/-- Whether the first character that is not passed over has case; nothing if there is none. -/
def caseBehind (cs : List Char) : Option Bool := (cs.find? fun c => !isIgnorable c).map isCased

theorem seenBehind_eq (seen : Bool) (cs : List Char) :
    seenBehind seen cs = (caseBefore cs).getD seen := by
  induction cs using List.reverseRecOn with
  | nil => rfl
  | append_singleton cs c ih =>
    rw [seenBehind, List.foldl_append, List.foldl_cons, List.foldl_nil, ← seenBehind, ih, seenAfter,
      caseBefore, caseBefore, List.reverse_append, List.reverse_singleton, List.singleton_append,
      List.find?_cons]
    cases isIgnorable c <;> rfl

theorem startsCased_append (rest : List Char) : ∀ cs : List Char,
    startsCased (cs ++ rest) = (caseBehind cs).getD (startsCased rest)
  | [] => rfl
  | c :: cs => by
    rw [List.cons_append, startsCased, startsCased_append rest cs, caseBehind, caseBehind,
      List.find?_cons]
    cases isIgnorable c <;> rfl

theorem startsCased_eq (cs : List Char) : startsCased cs = (caseBehind cs).getD false := by
  rw [← List.append_nil cs, startsCased_append, List.append_nil, startsCased]

/-- The form of a capital sigma between two texts can be told from them: no letter stands before it,
or one stands behind it, or it ends a word and something follows. -/
def SigmaTold (before behind : List Char) : Prop :=
  caseBefore before = some false ∨ caseBehind behind = some true ∨
    (caseBefore before = some true ∧ caseBehind behind = some false)

instance (before behind : List Char) : Decidable (SigmaTold before behind) :=
  inferInstanceAs (Decidable (_ ∨ _ ∨ (_ ∧ _)))

/-- **Every capital sigma has its form from the text alone**, whatever the text stands in. -/
def Settled (cs : List Char) : Prop :=
  ∀ before behind, cs = before ++ 'Σ' :: behind → SigmaTold before behind

instance (cs : List Char) : Decidable (Settled cs) :=
  decidable_of_iff (∀ i, (h : i < cs.length) → cs[i] = 'Σ' →
      SigmaTold (cs.take i) (cs.drop (i + 1))) <| by
    constructor
    · rintro h before behind rfl
      simpa using h before.length (by simp) (by simp)
    · intro h i hi hsigma
      refine h _ _ ?_
      rw [← hsigma, List.getElem_cons_drop, List.take_append_drop]

theorem settled_of_notMem {cs : List Char} (h : 'Σ' ∉ cs) : Settled cs := by
  rintro before behind rfl
  exact absurd (List.mem_append_right before List.mem_cons_self) h

/-- A settled sigma has the same form whatever stands around. -/
theorem Settled.lowerAt_eq {before behind : List Char} {c : Char}
    (h : Settled (before ++ c :: behind)) (seen : Bool) (rest : List Char) :
    lowerAt (seenBehind seen before) c (behind ++ rest) =
      lowerAt (seenBehind false before) c behind := by
  by_cases hc : c = 'Σ'
  · subst hc
    rw [lowerAt, lowerAt, if_pos rfl, if_pos rfl, seenBehind_eq, seenBehind_eq, startsCased_append,
      startsCased_eq behind]
    rcases h before behind rfl with hbefore | hbehind | ⟨hbefore, hbehind⟩
    · rw [hbefore]; rfl
    · rw [hbehind, Option.getD_some, Option.getD_some, Bool.not_true, Bool.and_false,
        Bool.and_false]
    · rw [hbefore, hbehind]; rfl
  · rw [lowerAt, lowerAt, if_neg hc, if_neg hc]

/-- **The small form of a settled text is the same in every place.** -/
theorem Settled.lowerBetween_eq {cs : List Char} (h : Settled cs) (seen : Bool) (rest : List Char) :
    lowerBetween seen cs rest = lower cs := by
  have hparts : ∀ before behind : List Char, cs = before ++ behind →
      lowerBetween (seenBehind seen before) behind rest =
        lowerFrom (seenBehind false before) behind := by
    intro before behind hcs
    induction behind generalizing before with
    | nil => rfl
    | cons c behind ih =>
      have hmore := ih (before ++ [c]) (by rw [hcs, List.append_assoc]; rfl)
      simp only [seenBehind, List.foldl_append, List.foldl_cons, List.foldl_nil] at hmore
      have hc : Settled (before ++ c :: behind) := hcs ▸ h
      rw [lowerBetween, lowerFrom_cons, hc.lowerAt_eq]
      exact congrArg _ hmore
  exact hparts [] cs rfl

theorem Settled.lower_infix {cs text : List Char} (h : Settled cs) (hcs : cs <:+: text) :
    lower cs <:+: lower text := by
  obtain ⟨before, behind, rfl⟩ := hcs
  rw [List.append_assoc, lower_append, lowerFrom_append, h.lowerBetween_eq]
  exact List.infix_append' _ _ _

/-! ### A text that is not settled -/

/-- The small form of a text around a capital sigma. -/
theorem lowerFrom_append_sigma (seen : Bool) (before behind : List Char) :
    lowerFrom seen (before ++ 'Σ' :: behind) = lowerBetween seen before ['Σ'] ++
      (if (caseBefore before).getD seen && !startsCased behind then 'ς' else 'σ') ::
        lowerFrom true behind := by
  have hsigma : isIgnorable 'Σ' = false ∧ isCased 'Σ' = true := by decide +kernel
  have hnext : ∀ ds, startsCased ('Σ' :: ds) = true := fun ds => by
    rw [startsCased, hsigma.1, hsigma.2]; rfl
  have hseen : seenAfter (seenBehind seen before) 'Σ' = true := by
    rw [seenAfter, hsigma.1, hsigma.2]; rfl
  rw [lowerFrom_append, lowerBetween_congr ((hnext behind).trans (hnext []).symm), lowerFrom_cons,
    hseen, lowerAt, if_pos rfl, seenBehind_eq]
  rfl

theorem settled_of_ignorable {cs : List Char} (h : ∀ c ∈ cs, isIgnorable c = true) :
    Settled cs := by
  have hsigma : isIgnorable 'Σ' = false := by decide +kernel
  exact settled_of_notMem fun hmem => Bool.false_ne_true (hsigma.symm.trans (h _ hmem))

theorem caseBefore_eq_none_iff {cs : List Char} :
    caseBefore cs = none ↔ ∀ c ∈ cs, isIgnorable c = true := by
  simp [caseBefore]

theorem caseBehind_eq_none_iff {cs : List Char} :
    caseBehind cs = none ↔ ∀ c ∈ cs, isIgnorable c = true := by
  simp [caseBehind]

/-- A letter in front makes the first sigma a final one: the small form then has one ordinary sigma
less, and cannot hold the other. -/
theorem not_infix_cons {before behind : List Char} (hbefore : caseBefore before = none)
    (hbehind : startsCased behind = false) :
    ¬ lower (before ++ 'Σ' :: behind) <:+: lower ('a' :: (before ++ 'Σ' :: behind)) := by
  have hsettled := settled_of_ignorable (caseBefore_eq_none_iff.mp hbefore)
  have halone : lower (before ++ 'Σ' :: behind) =
      lower before ++ 'σ' :: lowerFrom true behind := by
    rw [lower, lowerFrom_append_sigma, hsettled.lowerBetween_eq, hbefore]
    rfl
  have hletter : lower ('a' :: (before ++ 'Σ' :: behind)) =
      'a' :: (lower before ++ 'ς' :: lowerFrom true behind) := by
    have hfirst : lower ('a' :: (before ++ 'Σ' :: behind)) =
        'a' :: lowerFrom true (before ++ 'Σ' :: behind) := rfl
    rw [hfirst, lowerFrom_append_sigma, hsettled.lowerBetween_eq, hbefore, hbehind]
    rfl
  intro hinfix
  have hcount := hinfix.count_le 'σ'
  rw [halone, hletter, List.count_cons_of_ne (by decide), List.count_append, List.count_append,
    List.count_cons_self, List.count_cons_of_ne (by decide)] at hcount
  omega

/-- A letter behind makes the last sigma an ordinary one: the small form then has one final sigma
less, and cannot hold the other. -/
theorem not_infix_concat {before behind : List Char} (hbefore : caseBefore before = some true)
    (hbehind : caseBehind behind = none) :
    ¬ lower (before ++ 'Σ' :: behind) <:+: lower (before ++ 'Σ' :: (behind ++ ['a'])) := by
  have hsettled := settled_of_ignorable (caseBehind_eq_none_iff.mp hbehind)
  have halone : lower (before ++ 'Σ' :: behind) =
      lowerBetween false before ['Σ'] ++ 'ς' :: lower behind := by
    rw [lower, lowerFrom_append_sigma, hbefore, startsCased_eq, hbehind, ← lowerBetween_nil,
      hsettled.lowerBetween_eq]
    rfl
  have hletter : lower (before ++ 'Σ' :: (behind ++ ['a'])) =
      lowerBetween false before ['Σ'] ++ 'σ' :: (lower behind ++ ['a']) := by
    have hnext : startsCased ['a'] = true := by decide
    have hlast : lowerFrom (seenBehind true behind) ['a'] = ['a'] := rfl
    rw [lower, lowerFrom_append_sigma, hbefore, startsCased_append, hbehind, hnext,
      lowerFrom_append, hsettled.lowerBetween_eq, hlast]
    rfl
  intro hinfix
  have hcount := hinfix.count_le 'ς'
  rw [halone, hletter, List.count_append, List.count_append, List.count_cons_self,
    List.count_cons_of_ne (by decide), List.count_append, List.count_cons_of_ne (by decide),
    List.count_nil] at hcount
  omega

/-- **The settled texts are those that every text holds in small form which holds them.** -/
theorem settled_iff {cs : List Char} :
    Settled cs ↔ ∀ text, cs <:+: text → lower cs <:+: lower text := by
  refine ⟨fun h text => h.lower_infix, fun h before behind hcs => ?_⟩
  subst hcs
  -- the two texts that hold this one with a letter at an end
  have hcons := h ('a' :: (before ++ 'Σ' :: behind)) (List.suffix_cons _ _).isInfix
  have hconcat := h (before ++ 'Σ' :: (behind ++ ['a']))
    (by simpa using (List.prefix_append (before ++ 'Σ' :: behind) ['a']).isInfix)
  match hbefore : caseBefore before, hbehind : caseBehind behind with
  | some false, _ => exact Or.inl hbefore
  | _, some true => exact Or.inr (Or.inl hbehind)
  | some true, some false => exact Or.inr (Or.inr ⟨hbefore, hbehind⟩)
  | some true, none => exact absurd hconcat (not_infix_concat hbefore hbehind)
  | none, some false | none, none =>
    exact absurd hcons (not_infix_cons hbefore (by rw [startsCased_eq, hbehind]; rfl))

end QuerySieve.Text
