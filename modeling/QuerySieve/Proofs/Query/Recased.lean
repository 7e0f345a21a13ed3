import QuerySieve.Proofs.Command.Sift
import QuerySieve.Proofs.Text.Recased

/-!
# Proofs/Query/Recased — a query in another case has the same filters

Reading commutes with writing all plain letters small: tags are read in any case, no letter is a
sign, and none ends a word (`scan_map_toLower`).  So a query and the same in another case are cut
into pieces at the same places, and their filters differ in nothing but how they are written.
-/

namespace QuerySieve

namespace Token

/-- The token with its plain letters small. -/
def toLower (t : Token) : Token := ⟨t.sign, t.tag.map Char.toLower, t.word.map Char.toLower⟩

theorem text_toLower (t : Token) : t.toLower.text = t.text.map Char.toLower := by
  have hsign : (signText t.sign).map Char.toLower = signText t.sign := by
    match t.sign with
    | none | some .plus | some .minus => rfl
  rw [text, text, toLower, List.map_append, List.map_append, hsign]

theorem isTagLetter_toLower (letter c : Char) :
    isTagLetter letter c.toLower = isTagLetter letter c := by
  have hkelvin : (c.toLower == '\u212A') = (c == '\u212A') := by
    rw [Bool.eq_iff_iff, beq_iff_eq, beq_iff_eq]
    exact Text.toLower_eq_iff (by decide)
  rw [isTagLetter, isTagLetter, Text.toLower_toLower, hkelvin]

@[simp] theorem isWordChar_toLower (c : Char) : isWordChar c.toLower = isWordChar c :=
  Text.apply_toLower (by decide) c

theorem readTag?_map_toLower : ∀ letters cs : List Char,
    readTag? letters (cs.map Char.toLower) = (readTag? letters cs).map fun (tag, rest) =>
      (tag.map Char.toLower, rest.map Char.toLower)
  | [], _ => rfl
  | _ :: _, [] => rfl
  | letter :: letters, c :: cs => by
    rw [List.map_cons, readTag?, readTag?, isTagLetter_toLower, readTag?_map_toLower letters cs]
    split
    · rw [Option.map_map, Option.map_map]
      rfl
    · rfl

theorem readUnsigned?_map_toLower (sign : Option Sign) (cs : List Char) :
    readUnsigned? sign (cs.map Char.toLower) = (readUnsigned? sign cs).map toLower := by
  have hword : isWordChar ∘ Char.toLower = isWordChar := funext isWordChar_toLower
  rw [readUnsigned?, readUnsigned?, readTag?_map_toLower, Option.map_map, Option.map_map]
  refine Option.map_congr ?_
  rintro ⟨tag, rest⟩ -
  simp only [Function.comp_apply, List.takeWhile_map, hword, toLower]

theorem read?_cons (c : Char) (cs : List Char) :
    read? (c :: cs) = if c = '+' then readUnsigned? (some .plus) cs
      else if c = '-' then readUnsigned? (some .minus) cs else readUnsigned? none (c :: cs) := by
  unfold read?
  split
  · rename_i hcs
    rw [if_pos (List.cons.inj hcs).1, (List.cons.inj hcs).2]
  · rename_i hcs
    rw [if_neg ((List.cons.inj hcs).1 ▸ by decide), if_pos (List.cons.inj hcs).1,
      (List.cons.inj hcs).2]
  · rename_i hplus hminus
    have hplus : c ≠ '+' := fun h => hplus cs (h ▸ rfl)
    have hminus : c ≠ '-' := fun h => hminus cs (h ▸ rfl)
    rw [if_neg hplus, if_neg hminus]


/-- **A token is read in any case**, and with the same sign. -/
theorem read?_map_toLower : ∀ cs : List Char,
    read? (cs.map Char.toLower) = (read? cs).map toLower
  | [] => rfl
  | c :: cs => by
    have hplus : (c.toLower = '+') = (c = '+') := Text.apply_toLower (f := (· = '+')) (by decide) c
    have hminus : (c.toLower = '-') = (c = '-') := Text.apply_toLower (f := (· = '-')) (by decide) c
    rw [List.map_cons, read?_cons, read?_cons]
    simp only [hplus, hminus]
    split_ifs
    · exact readUnsigned?_map_toLower _ cs
    · exact readUnsigned?_map_toLower _ cs
    · exact readUnsigned?_map_toLower none (c :: cs)

end Token

namespace Piece

/-- The piece with its plain letters small. -/
def toLower : Piece → Piece
  | token t => token t.toLower
  | char c => char c.toLower

theorem scanAfter_map_toLower : ∀ (pending : Nat) (cs : List Char),
    scanAfter pending (cs.map Char.toLower) = (scanAfter pending cs).map toLower
  | _, [] => by rw [List.map_nil, scanAfter, List.map_nil]
  | pending + 1, c :: cs => by
    rw [List.map_cons, scanAfter, scanAfter, scanAfter_map_toLower pending cs]
  | 0, c :: cs => by
    have hread := Token.read?_map_toLower (c :: cs)
    rw [List.map_cons] at hread ⊢
    rw [scanAfter, scanAfter, hread]
    cases Token.read? (c :: cs) with
    | none =>
      simp only [Option.map_none, List.map_cons, scanAfter_map_toLower 0 cs]
      rfl
    | some t =>
      -- the token is as long in small letters, so as many characters belong to it
      simp only [Option.map_some, List.map_cons, t.text_toLower, List.length_map,
        scanAfter_map_toLower _ cs]
      rfl

/-- **Reading commutes with writing plain letters small.** -/
theorem scan_map_toLower (cs : List Char) : scan (cs.map Char.toLower) = (scan cs).map toLower :=
  scanAfter_map_toLower 0 cs

end Piece

namespace Filter

/-- What equality of filters looks at. -/
def sense (f : Filter) : Bool × String := (f.inclusive, f.keyword)

theorem beq_iff_sense_eq {f g : Filter} : (f == g) = true ↔ f.sense = g.sense := by
  rw [beq_iff, sense, sense, Prod.mk.injEq]

theorem any_accepts_eq (fs : List Filter) (text : String) :
    fs.any (·.accepts text) =
      (fs.map sense).any fun (inclusive, keyword) =>
        Text.occursIn keyword.toList text.toList == inclusive := by
  rw [List.any_map]
  rfl

/-- Lists of equal filters accept the same texts. -/
theorem anyAccepts_congr {fs gs : List Filter} (h : fs.map sense = gs.map sense) (text : String) :
    anyAccepts fs text = anyAccepts gs text := by
  have hempty : fs.isEmpty = gs.isEmpty := by
    rw [← List.isEmpty_map (f := sense), h, List.isEmpty_map]
  rw [anyAccepts, anyAccepts, any_accepts_eq, any_accepts_eq, h, hempty]

end Filter

namespace Piece

open QuerySieve.Filter

theorem sense_filter?_toLower (p : Piece) :
    p.toLower.filter?.map sense = p.filter?.map sense := by
  cases p with
  | char c => rfl
  | token t =>
    by_cases hword : t.word = []
    · have hnil : t.toLower.word = [] := by rw [Token.toLower, hword, List.map_nil]
      rw [toLower, filter?_token_of_eq_nil hword, filter?_token_of_eq_nil hnil]
    · have hne : t.toLower.word ≠ [] := mt List.map_eq_nil_iff.mp hword
      have hsmall : Text.lowerString (String.ofList t.toLower.word) =
          Text.lowerString (String.ofList t.word) := by
        rw [Text.lowerString, Text.lowerString, String.toList_ofList, String.toList_ofList,
          Token.toLower, Text.lower_map_toLower]
      rw [toLower, filter?_token_of_ne_nil hword, filter?_token_of_ne_nil hne, Option.map_some,
        Option.map_some, sense, sense, make, make, hsmall]
      rfl

end Piece

namespace Query

open QuerySieve.Filter

/-- **A query in another case has the same filters**, one by one. -/
theorem map_sense_filters_eq {q q' : String} (h : Text.Recased q q') :
    (filters q).map sense = (filters q').map sense := by
  have hsmall : ∀ q : String, (filters q).map sense =
      (Piece.scan (q.toList.map Char.toLower)).filterMap fun p => p.filter?.map sense := by
    intro q
    rw [filters, List.map_filterMap, Piece.scan_map_toLower, List.filterMap_map]
    exact congrArg (List.filterMap · _) (funext fun p => p.sense_filter?_toLower.symm)
  rw [hsmall, hsmall, h.map_toLower_eq]

/-- A result passes the filters of a query if one of them accepts it, or if there are none. -/
theorem passes?_filters (query : String) (r : Result) :
    Pipeline.passes? (filters query) r = some (anyAccepts (filters query) r.haystack) := by
  have hslot : ∀ f ∈ filters query, f.slot? = some .ungrouped := fun f => slot?_of_mem_filters
  have hgroupable : Pipeline.Groupable (filters query) := fun f hf =>
    hslot f hf ▸ Option.some_ne_none _
  rw [Pipeline.passes?_eq_met hgroupable]
  exact congrArg some (Bool.eq_iff_iff.mpr (decide_eq_true_iff.trans (met_iff_anyAccepts hslot)))

end Query

end QuerySieve
