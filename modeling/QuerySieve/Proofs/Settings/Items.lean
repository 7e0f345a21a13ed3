import QuerySieve.Proofs.Text.Blank
import QuerySieve.Proofs.Text.Substring
import QuerySieve.Settings.Source

/-!
# Proofs/Settings/Items — the items of a text are those that its segments hold

A variable holds a list as one text.  Commas cut it into segments in one way (`areSegments_iff`).  A
segment of blanks holds nothing, and any other one holds an item with blanks around it; so segments
hold one list of items (`Holds`), and this is what is read (`itemsOfText_eq_iff`).  Items that have
no blanks around them and no comma inside are therefore read back, however many blanks and segments
of blanks are put in between (`Holds.itemsOfText_intercalate`).
-/

namespace QuerySieve

namespace Text

/-- No segment has a mark in it. -/
theorem notMem_of_mem_splitOn (mark : Char) : ∀ cs : List Char,
    ∀ segment ∈ splitOn mark cs, mark ∉ segment
  | [] => List.forall_mem_singleton.mpr List.not_mem_nil
  | c :: cs => by
    have hrest := notMem_of_mem_splitOn mark cs
    rw [splitOn]
    cases hsplit : splitOn mark cs with
    | nil => exact absurd (splitOn_eq_splitOn mark cs ▸ hsplit) (List.splitOn_ne_nil mark cs)
    | cons segment segments =>
      rw [hsplit] at hrest
      obtain ⟨hsegment, hsegments⟩ := List.forall_mem_cons.mp hrest
      by_cases hc : c = mark
      · simp only [if_pos hc]
        exact List.forall_mem_cons.mpr ⟨List.not_mem_nil, hrest⟩
      · simp only [if_neg hc]
        exact List.forall_mem_cons.mpr
          ⟨List.not_mem_cons_of_ne_of_not_mem (Ne.symm hc) hsegment, hsegments⟩

/-- There is nothing in the text but blanks. -/
def AllBlank (s : String) : Prop := ∀ c ∈ s.toList, isBlank c = true

end Text

namespace Settings

open Text (AllBlank)

variable {s segment : String} {segments items : List String}

/-! ## Segments -/

/-- **The segments of a text**: there is no comma in them, and with commas between them they are the
text. -/
structure AreSegments (segments : List String) (s : String) : Prop where
  ne_nil : segments ≠ []
  comma : ∀ segment ∈ segments, ',' ∉ segment.toList
  joined : String.intercalate "," segments = s

/-- What the commas of a text cut it into. -/
def segmentsOf (s : String) : List String := (Text.splitOn ',' s.toList).map String.ofList

theorem map_toList_segmentsOf (s : String) :
    (segmentsOf s).map String.toList = Text.splitOn ',' s.toList := by
  rw [segmentsOf, List.map_map]
  exact (List.map_congr_left fun cs _ => String.toList_ofList).trans (List.map_id _)

theorem areSegments_segmentsOf (s : String) : AreSegments (segmentsOf s) s where
  ne_nil := by
    rw [segmentsOf, Text.splitOn_eq_splitOn]
    simp
  comma := by
    refine List.forall_mem_map.mpr fun cs hcs => ?_
    rw [String.toList_ofList]
    exact Text.notMem_of_mem_splitOn ',' s.toList cs hcs
  joined := by
    rw [← String.toList_inj, String.toList_intercalate, map_toList_segmentsOf,
      Text.splitOn_eq_splitOn]
    exact List.intercalate_splitOn ','

/-- **Commas cut a text into segments in one way.** -/
theorem areSegments_iff : AreSegments segments s ↔ segments = segmentsOf s := by
  refine ⟨fun h => ?_, fun h => h ▸ areSegments_segmentsOf s⟩
  have hsplit : Text.splitOn ',' s.toList = segments.map String.toList := by
    rw [Text.splitOn_eq_splitOn, ← h.joined, String.toList_intercalate]
    exact List.splitOn_intercalate ',' (List.forall_mem_map.mpr h.comma) (by simpa using h.ne_nil)
  rw [← map_toList_segmentsOf] at hsplit
  exact (List.map_injective_iff.mpr (fun _ _ => String.toList_inj.mp) hsplit).symm

/-! ## Items -/

/-- **The text can be told apart from others between commas**: it is not empty, has no blanks around
it and no comma in it. -/
structure IsItem (s : String) : Prop where
  ne_empty : s ≠ ""
  trimmed : Text.trimString s = s
  comma : ',' ∉ s.toList

theorem IsItem.trim_eq (h : IsItem s) : Text.trim s.toList = s.toList := by
  rw [← Text.toList_trimString, h.trimmed]

/-- No blank stands at either end of an item. -/
theorem IsItem.isBlank_eq_false (h : IsItem s) {c : Char}
    (hc : s.toList.head? = some c ∨ s.toList.getLast? = some c) : Text.isBlank c = false :=
  Text.isBlank_eq_false_of_trim_eq_self h.trim_eq hc

/-- The item that a segment holds, if it holds any. -/
def itemIn? (segment : String) : Option String :=
  if Text.trimString segment = "" then none else some (Text.trimString segment)

theorem itemsOfText_eq_filterMap (s : String) :
    itemsOfText s = (segmentsOf s).filterMap itemIn? := by
  rw [itemsOfText, segmentsOf]
  induction Text.splitOn ',' s.toList with
  | nil => rfl
  | cons cs rest ih =>
    have htrim : Text.trimString (String.ofList cs) = String.ofList (Text.trim cs) := by
      rw [Text.trimString, String.toList_ofList]
    simp only [List.map_cons]
    by_cases hnil : Text.trim cs = []
    · have hnone : itemIn? (String.ofList cs) = none := by simp [itemIn?, htrim, hnil]
      rw [List.filterMap_cons_none hnone, ← ih, hnil, List.filter_cons_of_neg (by simp)]
    · have hsome : itemIn? (String.ofList cs) = some (String.ofList (Text.trim cs)) := by
        simp [itemIn?, htrim, hnil]
      rw [List.filterMap_cons_some hsome, ← ih, List.filter_cons_of_pos (by simpa using hnil),
        List.map_cons]

theorem itemIn?_of_allBlank (h : AllBlank segment) : itemIn? segment = none := by
  have hempty : Text.trimString segment = "" := by
    rw [Text.trimString, Text.trim_eq_nil_iff.mpr h]
  exact if_pos hempty

/-- **Blanks around an item are not part of it.** -/
theorem itemIn?_padded {lead item tail : String} (hlead : AllBlank lead) (hitem : IsItem item)
    (htail : AllBlank tail) : itemIn? (lead ++ item ++ tail) = some item := by
  have htrim : Text.trimString (lead ++ item ++ tail) = item := by
    rw [Text.trimString, String.toList_append, String.toList_append, Text.trim_append _ htail,
      Text.trim_blank_append hlead, hitem.trim_eq, String.ofList_toList]
  rw [itemIn?, htrim, if_neg hitem.ne_empty]

/-- **A segment is blank, or it is an item with blanks around it.** -/
theorem segment_cases (h : ',' ∉ segment.toList) :
    AllBlank segment ∨ ∃ lead item tail, AllBlank lead ∧ IsItem item ∧ AllBlank tail ∧
      segment = lead ++ item ++ tail := by
  obtain ⟨lead, tail, hlead, htail, hsegment⟩ := Text.exists_eq_append_trim segment.toList
  by_cases hnil : Text.trim segment.toList = []
  · exact .inl (Text.trim_eq_nil_iff.mp hnil)
  · refine .inr ⟨String.ofList lead, Text.trimString segment, String.ofList tail, ?_, ?_, ?_, ?_⟩
    · rwa [AllBlank, String.toList_ofList]
    · refine ⟨fun hempty => hnil ?_, Text.trimString_trimString segment, fun hcomma => h ?_⟩
      · rw [← Text.toList_trimString, hempty]
        rfl
      · have hpart : Text.trim segment.toList <:+: segment.toList := Text.trim_infix _
        rw [Text.toList_trimString] at hcomma
        exact hpart.subset hcomma
    · rwa [AllBlank, String.toList_ofList]
    · rw [← String.toList_inj, String.toList_append, String.toList_append, String.toList_ofList,
        String.toList_ofList, Text.toList_trimString, List.append_assoc]
      exact hsegment

/-! ## The items that segments hold -/

/-- **The items that segments hold**, in the order of the segments: one in each segment that is not
blank, with blanks around it. -/
inductive Holds : List String → List String → Prop
  | nil : Holds [] []
  | blank {segment : String} {segments items : List String} (hblank : AllBlank segment)
      (h : Holds segments items) : Holds (segment :: segments) items
  | item {lead item tail : String} {segments items : List String} (hlead : AllBlank lead)
      (hitem : IsItem item) (htail : AllBlank tail) (h : Holds segments items) :
      Holds ((lead ++ item ++ tail) :: segments) (item :: items)

namespace Holds

theorem isItem (h : Holds segments items) : ∀ item ∈ items, IsItem item := by
  induction h with
  | nil => exact List.forall_mem_nil _
  | blank _ _ ih => exact ih
  | item _ hitem _ _ ih => exact List.forall_mem_cons.mpr ⟨hitem, ih⟩

theorem comma (h : Holds segments items) : ∀ segment ∈ segments, ',' ∉ segment.toList := by
  -- a comma is no blank
  have hblank : ∀ {s : String}, AllBlank s → ',' ∉ s.toList :=
    fun hs hcomma => nomatch hs ',' hcomma
  induction h with
  | nil => exact List.forall_mem_nil _
  | blank hsegment _ ih => exact List.forall_mem_cons.mpr ⟨hblank hsegment, ih⟩
  | item hlead hitem htail _ ih =>
    refine List.forall_mem_cons.mpr ⟨?_, ih⟩
    simp [hblank hlead, hitem.comma, hblank htail]

theorem filterMap_eq (h : Holds segments items) : segments.filterMap itemIn? = items := by
  induction h with
  | nil => rfl
  | blank hsegment _ ih => rw [List.filterMap_cons_none (itemIn?_of_allBlank hsegment), ih]
  | item hlead hitem htail _ ih =>
    rw [List.filterMap_cons_some (itemIn?_padded hlead hitem htail), ih]

/-- Items are segments that hold themselves. -/
theorem refl : ∀ {items : List String}, (∀ item ∈ items, IsItem item) → Holds items items
  | [], _ => .nil
  | first :: items, h => by
    obtain ⟨hfirst, hrest⟩ := List.forall_mem_cons.mp h
    have hempty : AllBlank "" := List.forall_mem_nil _
    have hitem := Holds.item hempty hfirst hempty (refl hrest)
    rwa [String.empty_append, String.append_empty] at hitem

end Holds

theorem holds_filterMap : ∀ {segments : List String}, (∀ segment ∈ segments, ',' ∉ segment.toList) →
    Holds segments (segments.filterMap itemIn?)
  | [], _ => .nil
  | segment :: segments, h => by
    obtain ⟨hsegment, hsegments⟩ := List.forall_mem_cons.mp h
    rcases segment_cases hsegment with hblank | ⟨lead, item, tail, hlead, hitem, htail, rfl⟩
    · rw [List.filterMap_cons_none (itemIn?_of_allBlank hblank)]
      exact .blank hblank (holds_filterMap hsegments)
    · rw [List.filterMap_cons_some (itemIn?_padded hlead hitem htail)]
      exact .item hlead hitem htail (holds_filterMap hsegments)

/-! ## Reading -/

/-- **The items of a text are those that its segments hold.** -/
theorem itemsOfText_eq_iff (h : AreSegments segments s) :
    itemsOfText s = items ↔ Holds segments items := by
  rw [itemsOfText_eq_filterMap, ← areSegments_iff.mp h]
  exact ⟨fun heq => heq ▸ holds_filterMap h.comma, Holds.filterMap_eq⟩

theorem holds_itemsOfText (h : AreSegments segments s) : Holds segments (itemsOfText s) :=
  (itemsOfText_eq_iff h).mp rfl

/-- **Items are read back**, whatever blanks stand around them and between further commas. -/
theorem Holds.itemsOfText_intercalate (h : Holds segments items) :
    itemsOfText (String.intercalate "," segments) = items := by
  by_cases hnil : segments = []
  · subst hnil
    cases h
    rfl
  · exact (itemsOfText_eq_iff ⟨hnil, h.comma, rfl⟩).mpr h

/-- **Items with commas between them are read back.** -/
theorem itemsOfText_intercalate {items : List String} (h : ∀ s ∈ items, IsItem s) :
    itemsOfText (String.intercalate "," items) = items :=
  (Holds.refl h).itemsOfText_intercalate

end Settings

end QuerySieve
