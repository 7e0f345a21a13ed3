import QuerySieve.Proofs.Pipeline.Redundant

/-!
# Proofs/Group/Partition — grouping loses, invents and reorders nothing

The groups of a list of filters are told here by the marks alone, without the slots that grouping
goes by (`Group.Partition`): they stand under marks of which no two are equal, each of them the first
that was seen of all that are equal to it, in the order in which these first ones occur; and a group
has the filters of its mark in their order.  One more filter brings its mark behind the others, unless
one that equals it was there already (`Collects.marks_add`), and so it is for a whole list
(`groups?_partition`).
-/

namespace QuerySieve

instance (a b : Option Mark) : Decidable (Mark.Equal a b) := decidable_of_iff' _ Mark.equal_iff

variable {fs : List Filter} {gs : List Group}

namespace Filter

/-- The filters have equal marks. -/
def sameMark (f g : Filter) : Bool := decide (Mark.Equal f.mark g.mark)

/-- A filter at the end is one of the first ones unless it is the same as one before it. -/
theorem firsts_concat (same : Filter → Filter → Bool) (fs : List Filter) (f : Filter) :
    firsts same (fs ++ [f]) = firsts same fs ++ if fs.any (same f) then [] else [f] := by
  induction fs with
  | nil => rfl
  | cons first fs ih =>
    rw [List.cons_append, firsts, ih, firsts, List.cons_append, List.filter_append, List.any_cons]
    cases hfirst : same f first <;> cases fs.any (same f) <;> simp [hfirst]

end Filter

namespace Group

open QuerySieve.Filter (firsts sameMark)

/-- **The groups are the filters, put together by their marks.** -/
structure Partition (fs : List Filter) (gs : List Group) : Prop where
  /-- No two groups stand under equal marks. -/
  apart : (gs.map (·.mark)).Pairwise fun a b => ¬ Mark.Equal a b
  /-- The marks are the first ones of all that are equal, in the order in which these occur. -/
  marks : gs.map (·.mark) = (firsts sameMark fs).map (·.mark)
  /-- No group is empty, and its mark is that of its first filter. -/
  head : ∀ g ∈ gs, g.members.head?.map (·.mark) = some g.mark
  /-- A group has the filters of its mark, in their order. -/
  members : ∀ g ∈ gs, g.members = fs.filter fun f => Mark.Equal f.mark g.mark
  /-- Every filter is in the groups, as often as in the list. -/
  perm : (gs.flatMap (·.members)).Perm fs

/-! ## The marks of the groups -/

theorem Collects.any_sameMark_iff (h : Collects fs gs) {f : Filter} {slot : Slot}
    (hf : f.slot? = some slot) : fs.any (sameMark f) = true ↔ some slot ∈ gs.map slot? := by
  have hne : f.slot? ≠ none := hf ▸ Option.some_ne_none slot
  rw [h.mem_slots_iff, List.any_eq_true, List.mem_map]
  refine exists_congr fun g => and_congr_right fun _ => ?_
  rw [sameMark, decide_eq_true_iff, Filter.equal_mark_iff hne, hf, eq_comm]

/-- **One more filter brings its mark behind the others**, unless an equal one is there. -/
theorem Collects.marks_add (h : Collects fs gs)
    (hmarks : gs.map (·.mark) = (firsts sameMark fs).map (·.mark)) {f : Filter} {slot : Slot}
    (hf : f.slot? = some slot) :
    (Group.add f slot gs).map (·.mark) = (firsts sameMark (fs ++ [f])).map (·.mark) := by
  rw [Filter.firsts_concat, List.map_append, ← hmarks]
  by_cases hmem : some slot ∈ gs.map slot?
  · rw [add_of_mem h.nodup hmem, if_pos ((h.any_sameMark_iff hf).mpr hmem), List.map_map,
      List.map_nil, List.append_nil]
    exact List.map_congr_left fun g _ => mark_receive f slot g
  · rw [add_of_notMem hmem, if_neg (mt (h.any_sameMark_iff hf).mp hmem), List.map_append]
    rfl

/-- All further filters bring their marks in this way. -/
theorem Collects.marks_addAll? {fs' : List Filter} {gs' : List Group} (h : Collects fs gs)
    (hmarks : gs.map (·.mark) = (firsts sameMark fs).map (·.mark))
    (hadd : Group.addAll? gs fs' = some gs') :
    gs'.map (·.mark) = (firsts sameMark (fs ++ fs')).map (·.mark) := by
  induction fs' generalizing fs gs with
  | nil => rwa [List.append_nil, ← Option.some.inj hadd]
  | cons f fs' ih =>
    obtain ⟨slot, hf, hrest⟩ := addAll?_cons_eq_some_iff.mp hadd
    rw [List.append_cons]
    exact ih (h.add hf) (h.marks_add hmarks hf) hrest

/-! ## Groups told by their marks -/

theorem Collects.apart (h : Collects fs gs) :
    (gs.map (·.mark)).Pairwise fun a b => ¬ Mark.Equal a b := by
  have hslots : gs.Pairwise fun a b => a.slot? ≠ b.slot? := List.pairwise_map.mp h.nodup
  exact List.pairwise_map.mpr (hslots.imp fun hne heq => hne (Mark.equal_iff.mp heq).1)

theorem Collects.members_eq (h : Collects fs gs) (hslot : Pipeline.Groupable fs) {g : Group}
    (hg : g ∈ gs) : g.members = fs.filter fun f => Mark.Equal f.mark g.mark := by
  rw [h.members g hg]
  refine List.filter_congr fun f hf => decide_eq_decide.mpr ?_
  exact (Mark.equal_iff.trans (and_iff_left (hslot f hf))).symm

/-- **Grouping loses, invents and reorders nothing.** Filters of which none is marked by a list have
groups, and these are the filters, put together by their marks. -/
theorem groups?_partition (h : Pipeline.Groupable fs) :
    ∃ gs, groups? fs = some gs ∧ Partition fs gs := by
  obtain ⟨gs, hgroups, hcollects⟩ := h.exists_groups
  refine ⟨gs, hgroups, ?_⟩
  constructor
  case apart => exact hcollects.apart
  case marks => exact collects_nil.marks_addAll? rfl hgroups
  case head => exact hcollects.mark
  case members => exact fun g hg => hcollects.members_eq h hg
  case perm => exact perm_groups? hgroups

/-- A truth value comes to the number that was seen before it, and a feature not to its name. -/
theorem groups?_partition_hamlet :
    let act : Filter := .make true "act" (some (.int 1)) none
    let scene : Filter := .make true "scene" none none
    let ghost : Filter := .make false "ghost" (some (.feature .fileName)) none
    let king : Filter := .make true "king" (some (.bool true)) none
    let queen : Filter := .make true "queen" (some (.text "file_name")) none
    let fs := [act, scene, ghost, king, queen, scene]
    let gs : List Group := [⟨some (.int 1), [act, king]⟩, ⟨none, [scene, scene]⟩,
      ⟨some (.feature .fileName), [ghost]⟩, ⟨some (.text "file_name"), [queen]⟩]
    Pipeline.Groupable fs ∧ groups? fs = some gs ∧ Partition fs gs := by
  intro act scene ghost king queen fs gs
  have hgroupable : ∀ f ∈ fs, f.slot? ≠ none := by decide +kernel
  have hgroups : groups? fs = some gs := rfl
  obtain ⟨gs', hgroups', hpartition⟩ := groups?_partition hgroupable
  obtain rfl : gs = gs' := Option.some.inj (hgroups.symm.trans hgroups')
  exact ⟨hgroupable, hgroups, hpartition⟩

end Group

end QuerySieve
