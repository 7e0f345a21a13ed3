import Mathlib.Data.List.TakeWhile
import QuerySieve.Proofs.Query.Tag

/-!
# Proofs/Query/Scan — the pieces of a query as a relation

`Scanned cs ps` says that `ps` are the pieces of `cs` when it is read from left to right: where a
token stands it is taken with its longest word, and where none stands one character is taken.  It is
the graph of `Piece.scan` (`scan_eq_iff`), and every theorem on queries is an induction on it.
-/

namespace QuerySieve

namespace Token

/-! ## Tokens as they are written -/

/-- The parts of a token are what their names say. -/
structure Proper (t : Token) : Prop where
  tag : IsTag t.tag
  word : ∀ c ∈ t.word, isWordChar c = true

/-- No word goes on at the beginning of the text — it is empty, or begins with a blank or a hyphen.
-/
def EndsWord (cs : List Char) : Prop := ∀ c ∈ cs.head?, isWordChar c = false

theorem endsWord_nil : EndsWord [] := by simp [EndsWord]

@[simp] theorem endsWord_cons {c : Char} {cs : List Char} :
    EndsWord (c :: cs) ↔ isWordChar c = false := by simp [EndsWord]

/-- What begins with a text that has no word in it has none itself. -/
theorem EndsWord.append {cs ds : List Char} (hc : EndsWord cs) (hd : EndsWord ds) :
    EndsWord (cs ++ ds) := by
  cases cs with
  | nil => exact hd
  | cons c cs => exact endsWord_cons.mpr (endsWord_cons.mp hc)

theorem endsWord_dropWhile (cs : List Char) : EndsWord (cs.dropWhile isWordChar) := by
  intro c hc
  have := List.head?_dropWhile_not isWordChar cs
  rw [Option.mem_def.mp hc] at this
  simpa using this

/-- **What goes on with word characters does not go on behind the end of a word.** -/
theorem EndsWord.prefix_of_prefix_append {cs ds rest : List Char} (hrest : EndsWord rest)
    (h : ds <+: cs ++ rest) (hword : ∀ c ∈ ds.drop cs.length, isWordChar c = true) : ds <+: cs := by
  rcases Nat.le_total ds.length cs.length with hlen | hlen
  · exact List.prefix_of_prefix_length_le h (List.prefix_append cs rest) hlen
  · obtain ⟨more, rfl⟩ := List.prefix_of_prefix_length_le (List.prefix_append cs rest) h hlen
    rw [List.drop_left] at hword
    rw [List.prefix_append_right_inj] at h
    cases more with
    | nil => simp
    | cons c more =>
      obtain ⟨after, rfl⟩ := h
      have hc := hword c List.mem_cons_self
      exact absurd (endsWord_cons.mp hrest) (by simp [hc])

/-- The longest word at the beginning of a text is the one that nothing goes on after. -/
theorem takeWhile_word {word rest : List Char} (hword : ∀ c ∈ word, isWordChar c = true)
    (hrest : EndsWord rest) : (word ++ rest).takeWhile isWordChar = word := by
  rw [List.takeWhile_append_of_pos hword]
  cases rest with
  | nil => rw [List.takeWhile_nil, List.append_nil]
  | cons c rest => simp [endsWord_cons.mp hrest]

theorem text_eq (t : Token) : t.text = signText t.sign ++ (t.tag ++ t.word) :=
  List.append_assoc _ _ _

theorem Proper.isWordChar_of_mem {t : Token} (h : t.Proper) {c : Char} (hc : c ∈ t.tag ++ t.word) :
    isWordChar c = true :=
  (List.mem_append.mp hc).elim h.tag.isWordChar_of_mem (h.word c)

theorem Proper.length_text {t : Token} (h : t.Proper) :
    t.text.length = (signText t.sign).length + (Filter.tag.length + t.word.length) := by
  rw [text_eq, List.length_append, List.length_append, h.tag.length_eq]

/-- The character that a token begins with. -/
def firstChar : Option Sign → Char
  | none => ':'
  | some .plus => '+'
  | some .minus => '-'

theorem Proper.text_eq_cons {t : Token} (h : t.Proper) :
    t.text = firstChar t.sign :: t.text.tail := by
  obtain ⟨letters, htag⟩ := h.tag.eq_cons
  match hsign : t.sign with
  | none => simp [text_eq, hsign, signText, firstChar, htag]
  | some .plus => simp [text_eq, hsign, signText, firstChar]
  | some .minus => simp [text_eq, hsign, signText, firstChar]

theorem firstChar_injective : Function.Injective firstChar := by
  intro s s' h
  match s, s' with
  | none, none => rfl
  | none, some .plus | none, some .minus => exact absurd h (by decide)
  | some .plus, none | some .plus, some .minus => exact absurd h (by decide)
  | some .minus, none | some .minus, some .plus => exact absurd h (by decide)
  | some .plus, some .plus | some .minus, some .minus => rfl

/-- Two tokens that stand at the same place have the same sign. -/
theorem Proper.sign_eq {t d : Token} (ht : t.Proper) (hd : d.Proper) {rest : List Char}
    (h : t.text <+: d.text ++ rest) : t.sign = d.sign := by
  rw [ht.text_eq_cons, hd.text_eq_cons, List.cons_append, List.cons_prefix_cons] at h
  exact firstChar_injective h.1

theorem length_signText_le (sign : Option Sign) : (signText sign).length ≤ 1 := by
  match sign with
  | none | some .plus | some .minus => decide

theorem Proper.text_ne_nil {t : Token} (h : t.Proper) : t.text ≠ [] := by
  rw [h.text_eq_cons]
  exact List.cons_ne_nil _ _

/-- All characters of a token but its first can stand in a word. -/
theorem Proper.isWordChar_of_mem_tail {t : Token} (h : t.Proper) {c : Char}
    (hc : c ∈ t.text.tail) : isWordChar c = true := by
  rw [text_eq] at hc
  match hsign : t.sign with
  | none =>
    rw [hsign] at hc
    exact h.isWordChar_of_mem (List.mem_of_mem_tail hc)
  | some .plus =>
    rw [hsign] at hc
    exact h.isWordChar_of_mem hc
  | some .minus =>
    rw [hsign] at hc
    exact h.isWordChar_of_mem hc

/-- **A token that begins in a text ends in it** if no word goes on behind the text. -/
theorem Proper.prefix_of_prefix_append {t : Token} (h : t.Proper) {cs rest : List Char}
    (hcs : cs ≠ []) (hrest : EndsWord rest) (hbegins : t.text <+: cs ++ rest) : t.text <+: cs := by
  refine hrest.prefix_of_prefix_append hbegins fun c hc => h.isWordChar_of_mem_tail ?_
  rw [← List.drop_one]
  exact List.drop_subset_drop_left _ (List.length_pos_iff.mpr hcs) hc

/-- **Tag and word are read at the beginning of a text exactly if they stand there**, with nothing
behind them that could belong to the word. -/
theorem readUnsigned?_eq_some_iff {sign : Option Sign} {cs : List Char} {t : Token} :
    readUnsigned? sign cs = some t ↔
      t.sign = sign ∧ t.Proper ∧ ∃ rest, EndsWord rest ∧ cs = t.tag ++ (t.word ++ rest) := by
  rw [readUnsigned?, Option.map_eq_some_iff]
  constructor
  · rintro ⟨⟨tag, rest⟩, hread, rfl⟩
    obtain ⟨rfl, htag⟩ := readTag?_tag_eq_some_iff.mp hread
    refine ⟨rfl, ⟨htag, fun c hc => List.mem_takeWhile_imp hc⟩, _, endsWord_dropWhile rest, ?_⟩
    rw [List.takeWhile_append_dropWhile]
  · rintro ⟨rfl, hproper, rest, hrest, rfl⟩
    refine ⟨(t.tag, t.word ++ rest), readTag?_tag_eq_some_iff.mpr ⟨rfl, hproper.tag⟩, ?_⟩
    simp only [takeWhile_word hproper.word hrest]

/-- **A token is read exactly where one stands**, up to where its word ends. -/
theorem read?_eq_some_iff {cs : List Char} {t : Token} :
    read? cs = some t ↔ t.Proper ∧ ∃ rest, EndsWord rest ∧ cs = t.text ++ rest := by
  constructor
  · intro h
    unfold read? at h
    split at h
    · obtain ⟨hsign, hproper, rest, hrest, rfl⟩ := readUnsigned?_eq_some_iff.mp h
      exact ⟨hproper, rest, hrest, by simp [text_eq, hsign, signText]⟩
    · obtain ⟨hsign, hproper, rest, hrest, rfl⟩ := readUnsigned?_eq_some_iff.mp h
      exact ⟨hproper, rest, hrest, by simp [text_eq, hsign, signText]⟩
    · obtain ⟨hsign, hproper, rest, hrest, rfl⟩ := readUnsigned?_eq_some_iff.mp h
      exact ⟨hproper, rest, hrest, by simp [text_eq, hsign, signText]⟩
  · rintro ⟨hproper, rest, hrest, rfl⟩
    have hread : readUnsigned? t.sign (t.tag ++ (t.word ++ rest)) = some t :=
      readUnsigned?_eq_some_iff.mpr ⟨rfl, hproper, rest, hrest, rfl⟩
    rw [text_eq, List.append_assoc, List.append_assoc]
    match hsign : t.sign with
    | none =>
      obtain ⟨letters, htag⟩ := hproper.tag.eq_cons
      rw [hsign, htag] at hread
      rw [htag]
      exact hread
    | some .plus =>
      rw [hsign] at hread
      exact hread
    | some .minus =>
      rw [hsign] at hread
      exact hread

/-- Where no token is read, none stands — not even with a shorter word. -/
theorem read?_eq_none_iff {cs : List Char} :
    read? cs = none ↔ ∀ t : Token, t.Proper → ¬ t.text <+: cs := by
  constructor
  · rintro h t hproper ⟨rest, rfl⟩
    let longest : Token := ⟨t.sign, t.tag, t.word ++ rest.takeWhile isWordChar⟩
    have hlongest : longest.Proper := ⟨hproper.tag, fun c hc =>
      (List.mem_append.mp hc).elim (hproper.word c) List.mem_takeWhile_imp⟩
    have hread : read? (t.text ++ rest) = some longest := by
      refine read?_eq_some_iff.mpr ⟨hlongest, _, endsWord_dropWhile rest, ?_⟩
      simp [longest, text_eq, List.takeWhile_append_dropWhile]
    exact Option.some_ne_none _ (hread.symm.trans h)
  · intro h
    rw [Option.eq_none_iff_forall_ne_some]
    intro t ht
    obtain ⟨hproper, rest, -, htext⟩ := read?_eq_some_iff.mp ht
    exact h t hproper ⟨rest, htext.symm⟩

end Token

namespace Piece

/-! ## Left to right -/

/-- The text that pieces are the parts of. -/
def textOf (ps : List Piece) : List Char := ps.flatMap text

@[simp] theorem textOf_nil : textOf [] = [] := rfl

@[simp] theorem textOf_cons (p : Piece) (ps : List Piece) :
    textOf (p :: ps) = p.text ++ textOf ps := rfl

@[simp] theorem textOf_append (ps qs : List Piece) : textOf (ps ++ qs) = textOf ps ++ textOf qs :=
  List.flatMap_append

theorem filter?_token_of_eq_nil {t : Token} (h : t.word = []) : (token t).filter? = none :=
  if_pos (List.isEmpty_iff.mpr h)

theorem filter?_token_of_ne_nil {t : Token} (h : t.word ≠ []) :
    (token t).filter? = some (Filter.make (t.sign != some .minus) (String.ofList t.word) none
      (some (String.ofList t.text))) :=
  if_neg (mt List.isEmpty_iff.mp h)

/-- A filter that is read from a query has no mark. -/
theorem mark_of_filter? : ∀ {p : Piece} {f : Filter}, p.filter? = some f → f.mark = none
  | token t, f, h => by
    by_cases hword : t.word = []
    · exact absurd ((filter?_token_of_eq_nil hword).symm.trans h) (Option.some_ne_none f).symm
    · rw [filter?_token_of_ne_nil hword] at h
      exact Option.some.inj h ▸ rfl

/-- **The pieces of a text, from left to right and without overlap.**  A token is taken where one
stands, with its longest word; a character is taken where no token stands. -/
inductive Scanned : List Char → List Piece → Prop
  | nil : Scanned [] []
  | token {t : Token} {rest : List Char} {ps : List Piece} (hproper : t.Proper)
      (hrest : Token.EndsWord rest) (more : Scanned rest ps) :
      Scanned (t.text ++ rest) (token t :: ps)
  | char {c : Char} {cs : List Char} {ps : List Piece}
      (hnone : ∀ t : Token, t.Proper → ¬ t.text <+: c :: cs) (more : Scanned cs ps) :
      Scanned (c :: cs) (char c :: ps)

/-- Characters that still belong to the last token are passed over. -/
theorem scanAfter_eq_scan_drop : ∀ (pending : Nat) (cs : List Char),
    scanAfter pending cs = scan (cs.drop pending)
  | 0, cs => by rw [List.drop_zero, scan]
  | _ + 1, [] => by rw [List.drop_nil, scan, scanAfter, scanAfter]
  | pending + 1, _ :: cs => by rw [scanAfter, scanAfter_eq_scan_drop pending cs, List.drop_succ_cons]

theorem scan_token {t : Token} {rest : List Char} (hproper : t.Proper)
    (hrest : Token.EndsWord rest) : scan (t.text ++ rest) = token t :: scan rest := by
  have hread : Token.read? (t.text ++ rest) = some t :=
    Token.read?_eq_some_iff.mpr ⟨hproper, rest, hrest, rfl⟩
  rw [hproper.text_eq_cons, List.cons_append] at hread ⊢
  rw [scan, scanAfter, hread]
  simp only [scanAfter_eq_scan_drop, ← List.length_tail, List.drop_left]

theorem scan_char {c : Char} {cs : List Char}
    (hnone : ∀ t : Token, t.Proper → ¬ t.text <+: c :: cs) :
    scan (c :: cs) = char c :: scan cs := by
  rw [scan, scanAfter, Token.read?_eq_none_iff.mpr hnone]
  rfl

theorem Scanned.proper_of_mem {cs : List Char} {ps : List Piece} (h : Scanned cs ps) {t : Token}
    (ht : .token t ∈ ps) : t.Proper := by
  induction h with
  | nil => exact absurd ht List.not_mem_nil
  | token hproper _ _ ih =>
    rcases List.mem_cons.mp ht with heq | ht
    · exact Piece.token.inj heq ▸ hproper
    · exact ih ht
  | char _ _ ih =>
    rcases List.mem_cons.mp ht with heq | ht
    · exact Piece.noConfusion heq
    · exact ih ht

theorem Scanned.textOf_eq {cs : List Char} {ps : List Piece} (h : Scanned cs ps) :
    textOf ps = cs := by
  induction h with
  | nil => rfl
  | token _ _ _ ih => rw [textOf_cons, ih]; rfl
  | char _ _ ih => rw [textOf_cons, ih]; rfl

/-- **Every text has its pieces.** -/
theorem scanned_scan : ∀ cs : List Char, Scanned cs (scan cs)
  | [] => .nil
  | c :: cs => by
    cases hread : Token.read? (c :: cs) with
    | none =>
      have hnone := Token.read?_eq_none_iff.mp hread
      rw [scan_char hnone]
      exact .char hnone (scanned_scan cs)
    | some t =>
      obtain ⟨hproper, rest, hrest, htext⟩ := Token.read?_eq_some_iff.mp hread
      have hshorter : rest.length ≤ cs.length := by
        have hlength := congrArg List.length htext
        have hpos := List.length_pos_iff.mpr hproper.text_ne_nil
        rw [List.length_append, List.length_cons] at hlength
        omega
      rw [htext, scan_token hproper hrest]
      exact .token hproper hrest (scanned_scan rest)
  termination_by cs => cs.length

theorem Scanned.scan_eq {cs : List Char} {ps : List Piece} (h : Scanned cs ps) : scan cs = ps := by
  induction h with
  | nil => rfl
  | token hproper hrest _ ih => rw [scan_token hproper hrest, ih]
  | char hnone _ ih => rw [scan_char hnone, ih]

/-- **The pieces of a text are those that `scan` finds.** -/
theorem scan_eq_iff {cs : List Char} {ps : List Piece} : scan cs = ps ↔ Scanned cs ps :=
  ⟨fun h => h ▸ scanned_scan cs, Scanned.scan_eq⟩

end Piece

end QuerySieve
