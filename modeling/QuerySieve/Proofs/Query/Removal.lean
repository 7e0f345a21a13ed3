import QuerySieve.Proofs.Query.Scan
import QuerySieve.Proofs.Text.Substring

/-!
# Proofs/Query/Removal — which token a removal takes out

The tokens of a query are found at their places, but they are taken out by their texts, one after
the other, each where its text first occurs in what is left by then.  Some pieces stay and some go;
what the pieces that stay leave is `leftOf`.  A text of word characters cannot begin where a token
was taken out and go on behind it, because of what stands behind a token: the end, a blank or a
hyphen (`Scanned.prefix_of_prefix_left`).  So a token begins in what is left only inside a token
that stays (`Scanned.exists_of_prefix_left`), and where none of these holds the text of a later
token that goes, every removal takes out the right place (`Scanned.removeGone_eq_leftOf`).
-/

namespace QuerySieve.Piece

variable {stays : Piece → Bool} {cs : List Char} {ps qs : List Piece}

/-- What is left of some pieces where only those of a kind stay. -/
def leftOf (stays : Piece → Bool) (ps : List Piece) : List Char := textOf (ps.filter stays)

@[simp] theorem leftOf_nil : leftOf stays [] = [] := rfl

@[simp] theorem leftOf_append (ps qs : List Piece) :
    leftOf stays (ps ++ qs) = leftOf stays ps ++ leftOf stays qs := by
  rw [leftOf, List.filter_append, textOf_append, leftOf, leftOf]

theorem leftOf_cons_of_stays {p : Piece} (h : stays p = true) (ps : List Piece) :
    leftOf stays (p :: ps) = p.text ++ leftOf stays ps := by
  rw [leftOf, List.filter_cons_of_pos h, textOf_cons, leftOf]

theorem leftOf_cons_of_goes {p : Piece} (h : stays p = false) (ps : List Piece) :
    leftOf stays (p :: ps) = leftOf stays ps := by
  rw [leftOf, List.filter_cons_of_neg (Bool.not_eq_true _ ▸ h), leftOf]

theorem leftOf_concat_of_stays {p : Piece} (h : stays p = true) (ps : List Piece) :
    leftOf stays (ps ++ [p]) = leftOf stays ps ++ p.text := by
  rw [leftOf_append, leftOf_cons_of_stays h, leftOf_nil, List.append_nil]

theorem leftOf_concat_of_goes {p : Piece} (h : stays p = false) (ps : List Piece) :
    leftOf stays (ps ++ [p]) = leftOf stays ps := by
  rw [leftOf_append, leftOf_cons_of_goes h, leftOf_nil, List.append_nil]

/-- The text after all that goes has been taken out of it, piece by piece and each where its text
first occurs. -/
def removeGone (stays : Piece → Bool) (ps : List Piece) (cs : List Char) : List Char :=
  (ps.filter fun p => !stays p).foldl (fun cs p => Text.removeFirst p.text cs) cs

theorem removeGone_cons_of_stays {p : Piece} (h : stays p = true) (ps : List Piece)
    (cs : List Char) : removeGone stays (p :: ps) cs = removeGone stays ps cs := by
  rw [removeGone, List.filter_cons_of_neg (by simp [h]), removeGone]

theorem removeGone_cons_of_goes {p : Piece} (h : stays p = false) (ps : List Piece)
    (cs : List Char) :
    removeGone stays (p :: ps) cs = removeGone stays ps (Text.removeFirst p.text cs) := by
  rw [removeGone, List.filter_cons_of_pos (by simp [h]), List.foldl_cons, removeGone]

/-! ## Words are not brought together -/

/-- The pieces behind others are those of the text behind them. -/
theorem Scanned.behind : ∀ {ps : List Piece} {cs : List Char}, Scanned cs (ps ++ qs) →
    Scanned (textOf qs) qs
  | [], _, h => by
    have htext := h.textOf_eq
    rw [List.nil_append] at h htext
    exact htext ▸ h
  | _ :: _, _, .token _ _ more => more.behind
  | _ :: _, _, .char _ more => more.behind

/-- Behind a token no word goes on. -/
theorem Scanned.endsWord_behind {t : Token} (h : Scanned cs (ps ++ .token t :: qs)) :
    Token.EndsWord (textOf qs) := by
  have hbehind := h.behind
  generalize textOf (Piece.token t :: qs) = ds at hbehind
  cases hbehind with
  | token _ hrest more => exact more.textOf_eq ▸ hrest

/-- No token stands where a character is left. -/
theorem Scanned.none_of_char {c : Char} (h : Scanned cs (ps ++ .char c :: qs)) {t : Token}
    (ht : t.Proper) : ¬ t.text <+: c :: textOf qs := by
  have hbehind := h.behind
  generalize textOf (Piece.char c :: qs) = ds at hbehind
  cases hbehind with
  | char hnone more => exact more.textOf_eq ▸ hnone t ht

section Left

-- only tokens go
variable (hchar : ∀ c, stays (.char c) = true)

include hchar

/-- **Taking tokens out of the front brings no word together.** A text of word characters that
begins what is left begins the whole text as well. -/
theorem Scanned.prefix_of_prefix_left : ∀ {ps : List Piece} {cs : List Char},
    Scanned cs (ps ++ qs) → ∀ {word : List Char}, (∀ c ∈ word, Token.isWordChar c = true) →
      word <+: leftOf stays ps ++ textOf qs → word <+: cs := by
  intro ps
  induction ps with
  | nil =>
    intro cs h word _ hbegins
    rwa [leftOf_nil, List.nil_append, ← List.nil_append qs, h.textOf_eq] at hbegins
  | cons p ps ih =>
    intro cs h word hword hbegins
    cases h with
    | @token t rest _ hproper hrest more =>
      cases hstays : stays (.token t) with
      | true =>
        rw [leftOf_cons_of_stays hstays, List.append_assoc] at hbegins
        rcases List.prefix_or_prefix_of_prefix hbegins (List.prefix_append t.text _) with
          hshort | ⟨word', rfl⟩
        · exact hshort.trans (List.prefix_append _ _)
        · rw [Piece.text, List.prefix_append_right_inj] at hbegins
          rw [List.prefix_append_right_inj]
          exact ih more (fun c hc => hword c (List.mem_append_right _ hc)) hbegins
      | false =>
        rw [leftOf_cons_of_goes hstays] at hbegins
        -- behind the token that was taken out no word goes on
        cases word with
        | nil => exact List.nil_prefix
        | cons c word =>
          obtain ⟨after, rfl⟩ := ih more hword hbegins
          exact absurd (hword c List.mem_cons_self) (by simp [Token.endsWord_cons.mp hrest])
    | @char c cs _ _ more =>
      cases word with
      | nil => exact List.nil_prefix
      | cons d word =>
        rw [leftOf_cons_of_stays (hchar c), List.append_assoc, text, List.singleton_append,
          List.cons_prefix_cons] at hbegins
        rw [List.cons_prefix_cons]
        exact ⟨hbegins.1, ih more (fun c hc => hword c (List.mem_cons_of_mem _ hc)) hbegins.2⟩

/-- What is left of a text at whose beginning no word goes on has none there either. -/
theorem Scanned.endsWord_left (h : Scanned cs (ps ++ qs)) (hcs : Token.EndsWord cs) :
    Token.EndsWord (leftOf stays ps ++ textOf qs) := by
  intro c hc
  by_contra hword
  rw [Bool.not_eq_false] at hword
  obtain ⟨rest, hrest⟩ := List.head?_eq_some_iff.mp hc
  have hbegins : [c] <+: cs := h.prefix_of_prefix_left hchar (by simpa using hword)
    (hrest ▸ List.prefix_append [c] rest)
  obtain ⟨rest', rfl⟩ := hbegins
  exact Bool.false_ne_true ((Token.endsWord_cons.mp hcs).symm.trans hword)

/-- **A token that begins in what is left stands inside a token that stays.** -/
theorem Scanned.exists_of_prefix_left {t : Token} (ht : t.Proper) : ∀ {ps : List Piece}
    {cs : List Char}, Scanned cs (ps ++ qs) → ∀ ds, ds ≠ [] → ds <:+ leftOf stays ps →
      t.text <+: ds ++ textOf qs → ∃ before d behind front back,
        ps = before ++ .token d :: behind ∧ stays (.token d) = true ∧
          d.text = front ++ (t.text ++ back) ∧ ds = t.text ++ (back ++ leftOf stays behind) := by
  intro ps
  induction ps with
  | nil =>
    intro cs _ ds hds hsuffix
    exact absurd (List.suffix_nil.mp hsuffix) hds
  | cons p ps ih =>
    intro cs h ds hds hsuffix hbegins
    have hlater : ds <:+ leftOf stays ps → ∃ before d behind front back,
        p :: ps = before ++ .token d :: behind ∧ stays (.token d) = true ∧
          d.text = front ++ (t.text ++ back) ∧ ds = t.text ++ (back ++ leftOf stays behind) := by
      intro hsuffix
      have hfirst : Scanned cs ([p] ++ (ps ++ qs)) := h
      have hmore := hfirst.behind
      obtain ⟨before, d, behind, front, back, rfl, hrest⟩ := ih hmore ds hds hsuffix hbegins
      exact ⟨p :: before, d, behind, front, back, rfl, hrest⟩
    cases hstays : stays p with
    | false =>
      rw [leftOf_cons_of_goes hstays] at hsuffix
      exact hlater hsuffix
    | true =>
      rw [leftOf_cons_of_stays hstays] at hsuffix
      -- either `ds` begins behind the first piece, or it begins in it
      rcases List.suffix_or_suffix_of_suffix hsuffix (List.suffix_append p.text _) with
        hshort | ⟨part, rfl⟩
      · exact hlater hshort
      by_cases hpart : part = []
      · subst hpart
        exact hlater List.suffix_rfl
      rw [List.suffix_append_self_iff] at hsuffix
      rw [List.append_assoc] at hbegins
      cases h with
      | @token d rest _ hproper hrest more =>
        obtain ⟨back, rfl⟩ :=
          ht.prefix_of_prefix_append hpart (more.endsWord_left hchar hrest) hbegins
        obtain ⟨front, hfront⟩ := hsuffix
        exact ⟨[], d, ps, front, back, rfl, hstays, hfront.symm, List.append_assoc _ _ _⟩
      | @char c cs _ hnone more =>
        obtain rfl : part = [c] := by
          rcases List.suffix_cons_iff.mp hsuffix with h | h
          · exact h
          · exact absurd (List.suffix_nil.mp h) hpart
        nth_rewrite 1 [ht.text_eq_cons] at hbegins
        rw [List.singleton_append, List.cons_prefix_cons] at hbegins
        have htail : t.text.tail <+: cs :=
          more.prefix_of_prefix_left hchar (fun _ => ht.isWordChar_of_mem_tail) hbegins.2
        refine absurd ?_ (hnone t ht)
        rw [ht.text_eq_cons, hbegins.1]
        exact List.cons_prefix_cons.mpr ⟨rfl, htail⟩

end Left

/-! ## All removals -/

/-- **No piece that stays holds the text of a later one that goes.** -/
def Unshadowed (stays : Piece → Bool) (ps : List Piece) : Prop :=
  ps.Pairwise fun p q => stays p = true → stays q = false → ¬ q.text <:+: p.text

theorem Unshadowed.not_infix {p : Piece} (h : Unshadowed stays (ps ++ p :: qs))
    (hgoes : stays p = false) {q : Piece} (hq : q ∈ ps) (hstays : stays q = true) :
    ¬ p.text <:+: q.text :=
  (List.pairwise_append.mp h).2.2 q hq p List.mem_cons_self hstays hgoes

/-- The removals go on from what is left of the pieces in front. -/
theorem Scanned.removeGone_left (hchar : ∀ c, stays (.char c) = true) {qs : List Piece} :
    ∀ {ps : List Piece}, Scanned cs (ps ++ qs) → Unshadowed stays (ps ++ qs) →
      removeGone stays qs (leftOf stays ps ++ textOf qs) = leftOf stays (ps ++ qs) := by
  induction qs with
  | nil =>
    intro ps _ _
    simp [removeGone]
  | cons p qs ih =>
    intro ps h hclear
    have hmore : removeGone stays qs (leftOf stays (ps ++ [p]) ++ textOf qs) =
        leftOf stays (ps ++ [p] ++ qs) :=
      ih (by rwa [List.append_assoc]) (by rwa [List.append_assoc])
    rw [List.append_assoc, List.singleton_append] at hmore
    cases hstays : stays p with
    | true =>
      rw [leftOf_concat_of_stays hstays, List.append_assoc] at hmore
      rw [removeGone_cons_of_stays hstays, textOf_cons, hmore]
    | false =>
      rw [leftOf_concat_of_goes hstays] at hmore
      cases p with
      | char c => exact absurd hstays (by simp [hchar])
      | token t =>
        have ht : t.Proper := h.proper_of_mem (List.mem_append_right ps List.mem_cons_self)
        have hremove : Text.removeFirst t.text (leftOf stays ps ++ (t.text ++ textOf qs)) =
            leftOf stays ps ++ textOf qs := by
          refine Text.removeFirst_append ht.text_ne_nil fun ds hds hsuffix hbegins => ?_
          obtain ⟨before, d, behind, front, back, rfl, hd, htext, -⟩ :=
            h.exists_of_prefix_left hchar ht ds hds hsuffix hbegins
          refine hclear.not_infix hstays (List.mem_append_right before List.mem_cons_self) hd ?_
          exact ⟨front, back, (List.append_assoc _ _ _).trans htext.symm⟩
        rw [removeGone_cons_of_goes hstays, textOf_cons, text, hremove, hmore]

/-- **Where nothing is shadowed, the removals leave what stays.** -/
theorem Scanned.removeGone_eq_leftOf (hchar : ∀ c, stays (.char c) = true) (h : Scanned cs ps)
    (hclear : Unshadowed stays ps) : removeGone stays ps cs = leftOf stays ps := by
  have hscan : Scanned cs ([] ++ ps) := h
  have hremove := hscan.removeGone_left hchar hclear
  rwa [leftOf_nil, List.nil_append, h.textOf_eq] at hremove

end QuerySieve.Piece
