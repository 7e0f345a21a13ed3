import QuerySieve.Proofs.Query.Word

/-!
# Proofs/Query/Astray — removals that take out another place than the token's own

A token that stays may hold the text of a later token that goes.  Then the removal goes astray: it
takes the text out of the token that stays, and the token that goes is left where it stands.
`Taken` follows the removals from piece to piece and tells whether one has gone astray; if none has,
nothing was shadowed (`Taken.unshadowed`).  Nothing that is removed later makes up for one that has,
not even what is trimmed off the ends (`Taken.trim_ne`): behind the last token that was missed all
is as it should be, so what stays in front of it would have to end with its text.
-/

namespace QuerySieve

namespace Token

variable {t : Token}

theorem Proper.isBlank_eq_false_of_mem (h : t.Proper) {c : Char} (hc : c ∈ t.text) :
    Text.isBlank c = false := by
  rw [h.text_eq_cons] at hc
  rcases List.mem_cons.mp hc with rfl | hc
  · match t.sign with
    | none | some .plus | some .minus => rfl
  · exact (isWordChar_iff.mp (h.isWordChar_of_mem_tail hc)).1

/-- A token that goes on with a word where it begins is a word throughout. -/
theorem Proper.isWordChar_of_not_endsWord (h : t.Proper) {rest : List Char}
    (hrest : ¬ EndsWord (t.text ++ rest)) : ∀ c ∈ t.text, isWordChar c = true := by
  rw [h.text_eq_cons, List.cons_append, endsWord_cons, Bool.not_eq_false] at hrest
  rw [h.text_eq_cons]
  exact List.forall_mem_cons.mpr ⟨hrest, fun c => h.isWordChar_of_mem_tail⟩

end Token

namespace Piece

variable {stays : Piece → Bool} {cs left : List Char} {ps qs : List Piece} {astray : Bool}

/-! ## The removals one by one -/

/-- **What the removals leave of some pieces.**  A token that goes is taken out at its own place;
but where its text occurs in what is left in front of it, it is taken out there and stays at its own
place, and the removals have gone astray. -/
inductive Taken (stays : Piece → Bool) : List Piece → List Char → Bool → Prop
  | nil : Taken stays [] [] false
  | stay {ps : List Piece} {left : List Char} {astray : Bool} {p : Piece}
      (h : Taken stays ps left astray) (hstays : stays p = true) :
      Taken stays (ps ++ [p]) (left ++ p.text) astray
  | here {ps : List Piece} {left : List Char} {astray : Bool} {t : Token}
      (h : Taken stays ps left astray) (hgoes : stays (token t) = false)
      (hnot : ¬ t.text <:+: left) : Taken stays (ps ++ [token t]) left astray
  | before {ps : List Piece} {front back : List Char} {astray : Bool} {t : Token}
      (h : Taken stays ps (front ++ (t.text ++ back)) astray)
      (hgoes : stays (token t) = false) :
      Taken stays (ps ++ [token t]) (front ++ back ++ t.text) true

/-- Removals that do not go astray leave what stays. -/
theorem Taken.eq_leftOf (h : Taken stays ps left astray) (hexact : astray = false) :
    left = leftOf stays ps := by
  induction h with
  | nil => rfl
  | stay _ hstays ih => rw [leftOf_concat_of_stays hstays, ih hexact]
  | here _ hgoes _ ih => rw [leftOf_concat_of_goes hgoes, ih hexact]
  | before => exact absurd hexact (by simp)

/-- What stays is part of what is left. -/
theorem text_infix_leftOf {p : Piece} (hp : p ∈ ps) (hstays : stays p = true) :
    p.text <:+: leftOf stays ps := by
  obtain ⟨front, back, rfl⟩ := List.append_of_mem hp
  rw [leftOf_append, leftOf_cons_of_stays hstays, ← List.append_assoc]
  exact List.infix_append _ _ _

/-- **Where the removals do not go astray, nothing is shadowed.** -/
theorem Taken.unshadowed (h : Taken stays ps left astray) (hexact : astray = false) :
    Unshadowed stays ps := by
  induction h with
  | nil => exact List.Pairwise.nil
  | stay _ hstays ih =>
    refine List.pairwise_append.mpr ⟨ih hexact, List.pairwise_singleton _ _, ?_⟩
    intro q _ p hp _ hgoes
    rw [List.mem_singleton.mp hp, hstays] at hgoes
    exact absurd hgoes (by simp)
  | here h _ hnot ih =>
    refine List.pairwise_append.mpr ⟨ih hexact, List.pairwise_singleton _ _, ?_⟩
    intro q hq p hp hstays _ hpart
    rw [List.mem_singleton.mp hp] at hpart
    rw [h.eq_leftOf hexact] at hnot
    exact hnot (hpart.trans (text_infix_leftOf hq hstays))
  | before => exact absurd hexact (by simp)

/-- **The last token that was missed** — behind it the removals are exact. -/
theorem Taken.exists_missed (h : Taken stays ps left astray) (hastray : astray = true) :
    ∃ before t behind front back earlier, ps = before ++ .token t :: behind ∧
      stays (.token t) = false ∧ Taken stays before (front ++ (t.text ++ back)) earlier ∧
        left = front ++ back ++ (t.text ++ leftOf stays behind) := by
  induction h with
  | nil => exact absurd hastray (by simp)
  | @stay _ _ _ p _ hstays ih =>
    obtain ⟨before, t, behind, front, back, earlier, rfl, ht, hbefore, rfl⟩ := ih hastray
    refine ⟨before, t, behind ++ [p], front, back, earlier, by simp, ht, hbefore, ?_⟩
    rw [leftOf_concat_of_stays hstays]
    simp only [List.append_assoc]
  | @here _ _ _ d _ hgoes _ ih =>
    obtain ⟨before, t, behind, front, back, earlier, rfl, ht, hbefore, rfl⟩ := ih hastray
    refine ⟨before, t, behind ++ [.token d], front, back, earlier, by simp, ht, hbefore, ?_⟩
    rw [leftOf_concat_of_goes hgoes]
  | @before ps front back earlier t h hgoes _ =>
    exact ⟨ps, t, [], front, back, earlier, rfl, hgoes, h, by rw [leftOf_nil, List.append_nil]⟩

/-- A character that belongs to no token is left behind all others. -/
theorem Taken.getLast?_eq {c : Char} (h : Taken stays (ps ++ [.char c]) left astray) :
    left.getLast? = some c := by
  generalize hps : ps ++ [Piece.char c] = rs at h
  cases h with
  | nil => exact absurd hps (by simp)
  | stay h _ =>
    obtain rfl := List.singleton_inj.mp (List.append_inj' hps rfl).2
    exact List.getLast?_concat
  | here => exact Piece.noConfusion (List.singleton_inj.mp (List.append_inj' hps rfl).2)
  | before => exact Piece.noConfusion (List.singleton_inj.mp (List.append_inj' hps rfl).2)

/-- **A word that goes on behind what is left has been there from the beginning**: it consists of
characters that belong to no token, since no word goes on behind a token. -/
theorem Taken.map_char_suffix (h : Taken stays ps left astray) :
    ∀ {qs : List Piece}, Scanned cs (ps ++ qs) → ¬ Token.EndsWord (textOf qs) →
      ∀ {word : List Char}, word <:+ left → (∀ c ∈ word, Token.isWordChar c = true) →
        word.map Piece.char <:+ ps := by
  induction h with
  | nil =>
    intro qs _ _ word hsuffix _
    obtain rfl := List.suffix_nil.mp hsuffix
    exact List.nil_suffix
  | @stay ps left _ p _ _ ih =>
    intro qs hscan hqs word hsuffix hword
    rw [List.append_assoc, List.singleton_append] at hscan
    cases p with
    | token d => exact absurd hscan.endsWord_behind hqs
    | char c =>
      rcases List.suffix_concat_iff.mp hsuffix with rfl | ⟨word, rfl, hshorter⟩
      · exact List.nil_suffix
      · obtain ⟨hword, hc⟩ := List.forall_mem_append.mp hword
        have hnext : ¬ Token.EndsWord (textOf (.char c :: qs)) := by
          rw [textOf_cons, text, List.singleton_append, Token.endsWord_cons,
            hc c (List.mem_singleton_self c)]
          simp
        rw [List.map_append, List.map_singleton, List.suffix_append_self_iff]
        exact ih hscan hnext hshorter hword
  | here =>
    intro qs hscan hqs
    rw [List.append_assoc, List.singleton_append] at hscan
    exact absurd hscan.endsWord_behind hqs
  | before =>
    intro qs hscan hqs
    rw [List.append_assoc, List.singleton_append] at hscan
    exact absurd hscan.endsWord_behind hqs

theorem textOf_map_char : ∀ cs : List Char, textOf (cs.map char) = cs
  | [] => rfl
  | c :: cs => by rw [List.map_cons, textOf_cons, textOf_map_char cs]; rfl

/-- **A token begins in what is left only if it also ends there.** -/
theorem Taken.not_prefix {t : Token} (h : Taken stays ps left astray)
    (hscan : Scanned cs (ps ++ .token t :: qs)) (hnot : ¬ t.text <:+: left) {ds : List Char}
    (hds : ds ≠ []) (hsuffix : ds <:+ left) : ¬ t.text <+: ds ++ (t.text ++ textOf qs) := by
  intro hbegins
  have ht : t.Proper := hscan.proper_of_mem (List.mem_append_right ps List.mem_cons_self)
  have hends : ¬ t.text <+: ds := fun hends => hnot (hends.isInfix.trans hsuffix.isInfix)
  by_cases hrest : Token.EndsWord (t.text ++ textOf qs)
  · exact hends (ht.prefix_of_prefix_append hds hrest hbegins)
  · -- `ds` begins the token, so it is a word, and there the token would have been read
    have hword := ht.isWordChar_of_not_endsWord hrest
    have hshort : ds <+: t.text :=
      (List.prefix_or_prefix_of_prefix hbegins (List.prefix_append ds _)).resolve_left hends
    obtain ⟨before, rfl⟩ := h.map_char_suffix hscan hrest hsuffix
      fun c hc => hword c (hshort.subset hc)
    obtain ⟨c, ds, rfl⟩ := List.exists_cons_of_ne_nil hds
    have hfound : Scanned cs (before ++ .char c :: (ds.map Piece.char ++ .token t :: qs)) := by
      simpa using hscan
    refine hfound.none_of_char ht ?_
    rwa [textOf_append, textOf_map_char, textOf_cons]

/-- **The removals are followed from piece to piece**, whether they go astray or not. -/
theorem Taken.run (hchar : ∀ c, stays (.char c) = true) : ∀ {qs ps : List Piece}
    {left : List Char} {astray : Bool}, Taken stays ps left astray → Scanned cs (ps ++ qs) →
      ∃ astray', Taken stays (ps ++ qs) (removeGone stays qs (left ++ textOf qs)) astray' := by
  intro qs
  induction qs with
  | nil =>
    intro ps left astray h _
    refine ⟨astray, ?_⟩
    simpa [removeGone] using h
  | cons p qs ih =>
    intro ps left astray h hscan
    have hmore : ∀ {left' astray'}, Taken stays (ps ++ [p]) left' astray' →
        ∃ astray'', Taken stays (ps ++ p :: qs)
          (removeGone stays qs (left' ++ textOf qs)) astray'' := by
      intro left' astray' h'
      rw [List.append_cons] at hscan ⊢
      exact ih h' hscan
    cases hstays : stays p with
    | true =>
      rw [removeGone_cons_of_stays hstays, textOf_cons, ← List.append_assoc]
      exact hmore (h.stay hstays)
    | false =>
      cases p with
      | char c => exact absurd hstays (by simp [hchar])
      | token t =>
        have ht : t.Proper := hscan.proper_of_mem (List.mem_append_right ps List.mem_cons_self)
        rw [removeGone_cons_of_goes hstays, textOf_cons, text]
        by_cases hoccurs : t.text <:+: left
        · obtain ⟨front, back, rfl, hremove⟩ :=
            Text.removeFirst_append_of_infix ht.text_ne_nil hoccurs
          rw [hremove, ← List.append_assoc]
          exact hmore (h.before hstays)
        · rw [Text.removeFirst_append ht.text_ne_nil fun ds => h.not_prefix hscan hoccurs]
          exact hmore (h.here hstays hoccurs)

/-! ## Removals that go astray show -/

/-- A token that ends another one begins with what can stand in a word, so it does not stand right
behind that one. -/
theorem Scanned.exists_concat_char {behind : List Piece} {d t : Token} {first : List Char}
    (hscan : Scanned cs (ps ++ .token d :: behind ++ .token t :: qs))
    (htext : d.text = first ++ t.text) (hfirst : first ≠ []) :
    ∃ more c, behind = more ++ [.char c] := by
  have hd : d.Proper := hscan.proper_of_mem (by simp)
  have ht : t.Proper := hscan.proper_of_mem (by simp)
  have hgoes : ¬ Token.EndsWord (textOf (.token t :: qs)) := by
    obtain ⟨c, first, rfl⟩ := List.exists_cons_of_ne_nil hfirst
    have hword : Token.isWordChar (Token.firstChar t.sign) = true := by
      refine hd.isWordChar_of_mem_tail ?_
      rw [htext, ht.text_eq_cons, List.cons_append, List.tail_cons]
      exact List.mem_append_right first List.mem_cons_self
    rw [textOf_cons, text, ht.text_eq_cons, List.cons_append, Token.endsWord_cons, hword]
    simp
  rcases List.eq_nil_or_concat' behind with rfl | ⟨behind, p, rfl⟩
  · rw [List.append_assoc] at hscan
    exact absurd hscan.endsWord_behind hgoes
  · cases p with
    | char c => exact ⟨behind, c, rfl⟩
    | token e =>
      have he : Scanned cs (ps ++ .token d :: behind ++ .token e :: .token t :: qs) := by
        simpa using hscan
      exact absurd he.endsWord_behind hgoes

/-- **A text of a token, with only blanks behind it, ends a token there** among the pieces that stay
in front of that token. -/
theorem Scanned.exists_token_of_leftOf_eq {t : Token} (hchar : ∀ c, stays (.char c) = true)
    (hscan : Scanned cs (ps ++ .token t :: qs)) {front tail : List Char}
    (htail : ∀ c ∈ tail, Text.isBlank c = true)
    (hleft : leftOf stays ps = front ++ (t.text ++ tail)) :
    ∃ before d behind first, ps = before ++ .token d :: behind ∧ stays (.token d) = true ∧
      d.text = first ++ t.text ∧ front = leftOf stays before ++ first ∧
        tail = leftOf stays behind := by
  have ht : t.Proper := hscan.proper_of_mem (List.mem_append_right ps List.mem_cons_self)
  have hsuffix : t.text ++ tail <:+ leftOf stays ps := hleft ▸ List.suffix_append front _
  have hbegins : t.text <+: t.text ++ tail ++ textOf (.token t :: qs) := by
    rw [List.append_assoc]
    exact List.prefix_append t.text _
  obtain ⟨before, d, behind, first, last, rfl, hstays, htext, heq⟩ :=
    hscan.exists_of_prefix_left hchar ht _
      (List.append_ne_nil_of_left_ne_nil ht.text_ne_nil tail) hsuffix hbegins
  obtain rfl := List.append_cancel_left heq
  -- there are only blanks behind, so the token ends where `t` ends in it
  obtain rfl : last = [] := by
    refine List.eq_nil_iff_forall_not_mem.mpr fun c hc => ?_
    have hd : d.Proper := hscan.proper_of_mem (by simp)
    have hdark := hd.isBlank_eq_false_of_mem (c := c) (by simp [htext, hc])
    exact Bool.false_ne_true (hdark.symm.trans (htail c (List.mem_append_left _ hc)))
  rw [List.append_nil] at htext
  refine ⟨before, d, behind, first, rfl, hstays, htext, ?_, rfl⟩
  rw [leftOf_append, leftOf_cons_of_stays hstays, Piece.text, htext, List.nil_append,
    ← List.append_assoc, ← List.append_assoc, ← List.append_assoc, List.append_left_inj,
    List.append_left_inj] at hleft
  exact hleft.symm

/-- **Removals that have gone astray show**, also after the blanks at the ends are trimmed. -/
theorem Taken.trim_ne (hchar : ∀ c, stays (.char c) = true) (hscan : Scanned cs ps)
    (hapart : ∀ p ∈ ps, ∀ q ∈ ps, stays p = true → stays q = false → p.text ≠ q.text)
    (h : Taken stays ps left true) : Text.trim left ≠ Text.trim (leftOf stays ps) := by
  intro htrim
  obtain ⟨before, t, behind, front, back, earlier, rfl, hgoes, htaken, rfl⟩ := h.exists_missed rfl
  have ht : t.Proper := hscan.proper_of_mem (List.mem_append_right before List.mem_cons_self)
  have hdark : ∀ c ∈ t.text, Text.isBlank c = false := fun c => ht.isBlank_eq_false_of_mem
  rw [leftOf_append, leftOf_cons_of_goes hgoes] at htrim
  -- the token that was missed ends a longer token `d` in front of it, which stays
  obtain ⟨lead, tail, hlead, htail, hleft⟩ :=
    Text.exists_eq_append_of_trim_eq ht.text_ne_nil hdark htrim.symm
  rw [← List.append_assoc] at hleft
  obtain ⟨before, d, between, first, rfl, hstays, htext, hfront, rfl⟩ :=
    hscan.exists_token_of_leftOf_eq hchar htail hleft
  have hfirst : first ≠ [] := by
    rintro rfl
    exact hapart (.token d) (by simp) (.token t) (by simp) hstays hgoes htext
  obtain ⟨more, c, rfl⟩ := hscan.exists_concat_char htext hfirst
  have hd : d.Proper := hscan.proper_of_mem (by simp)
  obtain ⟨first, e, rfl⟩ := (List.eq_nil_or_concat' first).resolve_left hfirst
  have he : Text.isBlank e = false := hd.isBlank_eq_false_of_mem (by simp [htext])
  have hc : Text.isBlank c = true := by
    refine htail c ?_
    rw [leftOf_concat_of_stays (hchar c)]
    exact List.mem_append_right _ List.mem_cons_self
  -- the blank behind `d` ends what is left where `t` was taken out, and not what `d` begins with
  have hblank : (front ++ back).getLast? = some c := by
    rw [← List.cons_append, ← List.append_assoc] at htaken
    exact Text.getLast?_append_of_not_mem (fun hmem => by simp [hdark c hmem] at hc)
      htaken.getLast?_eq
  have hlast : (front ++ back).getLast? = some e := by
    refine Text.getLast?_eq_of_append_dropWhile hlead he ?_
    rw [hfront, ← List.append_assoc, List.getLast?_concat]
  have hsame := Option.some.inj (hblank.symm.trans hlast)
  exact Bool.false_ne_true (he.symm.trans (hsame ▸ hc))

/-- **The removals leave what stays, but for the blanks at the ends, exactly if nothing is
shadowed.** -/
theorem Scanned.trim_removeGone_eq_iff (hchar : ∀ c, stays (.char c) = true) (hscan : Scanned cs ps)
    (hapart : ∀ p ∈ ps, ∀ q ∈ ps, stays p = true → stays q = false → p.text ≠ q.text) :
    Text.trim (removeGone stays ps cs) = Text.trim (leftOf stays ps) ↔ Unshadowed stays ps := by
  refine ⟨fun htrim => ?_, fun hclear => by rw [hscan.removeGone_eq_leftOf hchar hclear]⟩
  have hwhole : Scanned cs ([] ++ ps) := hscan
  obtain ⟨astray, h⟩ := Taken.nil.run hchar hwhole
  rw [List.nil_append, List.nil_append, hscan.textOf_eq] at h
  cases astray with
  | false => exact h.unshadowed rfl
  | true => exact absurd htrim (h.trim_ne hchar hscan hapart)

end Piece

end QuerySieve
