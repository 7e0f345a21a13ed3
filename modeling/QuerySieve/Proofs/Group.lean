import Mathlib.Data.List.Nodup
import QuerySieve.Group

/-!
# Proofs/Group — what grouping makes of a list of filters

`Collects fs gs` says that `gs` are the groups of `fs`: each slot once, in the order of first
occurrence, with all filters of the slot in their order.  One more filter keeps it
(`Collects.add`), and so grouping a whole list establishes it (`collects_groups?`).  That every
group accepts a text then says of the list alone that every filter has one with its slot that
accepts the text (`Filter.Met`).
-/

namespace QuerySieve

/-- The slot that a filter is put under. -/
def Filter.slot? (f : Filter) : Option Slot := Mark.slot? f.mark

namespace Group

/-! ## One more filter -/

/-- The group after a filter has come under a slot. -/
def receive (f : Filter) (slot : Slot) (g : Group) : Group :=
  if g.slot? = some slot then ⟨g.mark, g.members ++ [f]⟩ else g

@[simp] theorem mark_receive (f : Filter) (slot : Slot) (g : Group) :
    (receive f slot g).mark = g.mark := by
  rw [receive]
  split <;> rfl

@[simp] theorem slot?_receive (f : Filter) (slot : Slot) (g : Group) :
    (receive f slot g).slot? = g.slot? :=
  congrArg Mark.slot? (mark_receive f slot g)

theorem receive_of_ne {f : Filter} {slot : Slot} {g : Group} (h : g.slot? ≠ some slot) :
    receive f slot g = g := if_neg h

/-- A filter with a slot of its own comes into a new group at the end. -/
theorem add_of_notMem {f : Filter} {slot : Slot} : ∀ {gs : List Group}, some slot ∉ gs.map slot? →
    add f slot gs = gs ++ [⟨f.mark, [f]⟩]
  | [], _ => rfl
  | g :: gs, h => by
    rw [List.map_cons, List.mem_cons, not_or] at h
    rw [add, if_neg (Ne.symm h.1), add_of_notMem h.2, List.cons_append]

theorem map_receive_of_notMem {f : Filter} {slot : Slot} {gs : List Group}
    (h : some slot ∉ gs.map slot?) : gs.map (receive f slot) = gs := by
  refine (List.map_congr_left fun g hg => ?_).trans (List.map_id gs)
  exact receive_of_ne fun hslot => h (hslot ▸ List.mem_map_of_mem hg)

/-- A filter whose slot has a group comes to the end of it. -/
theorem add_of_mem {f : Filter} {slot : Slot} : ∀ {gs : List Group}, (gs.map slot?).Nodup →
    some slot ∈ gs.map slot? → add f slot gs = gs.map (receive f slot)
  | g :: gs, hnodup, hmem => by
    rw [List.map_cons, List.nodup_cons] at hnodup
    by_cases hslot : g.slot? = some slot
    · rw [add, if_pos hslot, List.map_cons, receive, if_pos hslot,
        map_receive_of_notMem (hslot ▸ hnodup.1)]
    · have hlater : some slot ∈ gs.map slot? :=
        (List.mem_cons.mp hmem).resolve_left (Ne.symm hslot)
      rw [add, if_neg hslot, List.map_cons, receive_of_ne hslot, add_of_mem hnodup.2 hlater]

/-! ## The groups of a list -/

/-- **The groups collect the filters.** -/
structure Collects (fs : List Filter) (gs : List Group) : Prop where
  /-- Every slot has its place where it first occurs. -/
  slots : gs.map slot? = (fs.map Filter.slot?).eraseDups
  nodup : (gs.map slot?).Nodup
  members : ∀ g ∈ gs, g.members = fs.filter fun f => f.slot? = g.slot?
  /-- A group has the mark of its first filter. -/
  mark : ∀ g ∈ gs, g.members.head?.map (·.mark) = some g.mark

theorem collects_nil : Collects [] [] := ⟨rfl, List.nodup_nil, by simp, by simp⟩

theorem Collects.mem_slots_iff {fs : List Filter} {gs : List Group} (h : Collects fs gs)
    {slot : Option Slot} : slot ∈ gs.map slot? ↔ slot ∈ fs.map Filter.slot? := by
  rw [h.slots, List.mem_eraseDups]

/-- No group is empty. -/
theorem Collects.exists_mem {fs : List Filter} {gs : List Group} (h : Collects fs gs) {g : Group}
    (hg : g ∈ gs) : ∃ f ∈ g.members, f.mark = g.mark := by
  obtain ⟨f, hf, hmark⟩ := Option.map_eq_some_iff.mp (h.mark g hg)
  exact ⟨f, List.mem_of_head? hf, hmark⟩

theorem eraseDups_append_of_mem {slots : List (Option Slot)} {slot : Option Slot}
    (h : slot ∈ slots) : (slots ++ [slot]).eraseDups = slots.eraseDups := by
  have hgone : [slot].removeAll slots = [] := by simpa [List.removeAll] using h
  rw [List.eraseDups_append, hgone, List.eraseDups_nil, List.append_nil]

theorem eraseDups_append_of_notMem {slots : List (Option Slot)} {slot : Option Slot}
    (h : slot ∉ slots) : (slots ++ [slot]).eraseDups = slots.eraseDups ++ [slot] := by
  have hkept : [slot].removeAll slots = [slot] := by simpa [List.removeAll] using h
  rw [List.eraseDups_append, hkept, List.eraseDups_cons, List.filter_nil, List.eraseDups_nil]

/-- A filter whose slot has a group is collected in it. -/
theorem Collects.map_receive {fs : List Filter} {gs : List Group} (h : Collects fs gs) {f : Filter}
    {slot : Slot} (hf : f.slot? = some slot) (hmem : some slot ∈ gs.map slot?) :
    Collects (fs ++ [f]) (gs.map (receive f slot)) := by
  have hslots : (gs.map (receive f slot)).map slot? = gs.map slot? := by
    rw [List.map_map]
    exact List.map_congr_left fun g _ => slot?_receive f slot g
  constructor
  case slots =>
    rw [hslots, h.slots, List.map_append, List.map_singleton, hf,
      eraseDups_append_of_mem (h.mem_slots_iff.mp hmem)]
  case nodup => exact hslots ▸ h.nodup
  case members =>
    rw [List.forall_mem_map]
    intro g hg
    rw [slot?_receive, List.filter_append, ← h.members g hg, receive]
    by_cases hslot : g.slot? = some slot
    · rw [if_pos hslot, List.filter_cons_of_pos (by simp [hf, hslot]), List.filter_nil]
    · rw [if_neg hslot, List.filter_cons_of_neg (by simpa [hf] using Ne.symm hslot),
        List.filter_nil, List.append_nil]
  case mark =>
    rw [List.forall_mem_map]
    intro g hg
    rw [mark_receive, ← h.mark g hg, receive]
    split
    · obtain ⟨first, hfirst, -⟩ := Option.map_eq_some_iff.mp (h.mark g hg)
      rw [List.head?_append, hfirst, Option.some_or]
    · rfl

/-- A filter with a slot of its own is collected in a new group. -/
theorem Collects.append_new {fs : List Filter} {gs : List Group} (h : Collects fs gs) {f : Filter}
    (hnew : f.slot? ∉ gs.map slot?) : Collects (fs ++ [f]) (gs ++ [⟨f.mark, [f]⟩]) := by
  have hslots : (gs ++ [(⟨f.mark, [f]⟩ : Group)]).map slot? = gs.map slot? ++ [f.slot?] :=
    List.map_append
  constructor
  case slots =>
    rw [hslots, h.slots, List.map_append, List.map_singleton,
      eraseDups_append_of_notMem (mt h.mem_slots_iff.mpr hnew)]
  case nodup =>
    rw [hslots, ← List.concat_eq_append, List.nodup_concat]
    exact ⟨hnew, h.nodup⟩
  case members =>
    intro g hg
    rw [List.filter_append]
    rcases List.mem_append.mp hg with hg | hg
    · have hne : f.slot? ≠ g.slot? := fun heq => hnew (heq ▸ List.mem_map_of_mem hg)
      rw [h.members g hg, List.filter_cons_of_neg (by simpa using hne), List.filter_nil,
        List.append_nil]
    · obtain rfl := List.mem_singleton.mp hg
      have hnone : fs.filter (fun x => x.slot? = f.slot?) = [] := by
        refine List.filter_eq_nil_iff.mpr fun x hx heq => hnew (h.mem_slots_iff.mpr ?_)
        exact of_decide_eq_true heq ▸ List.mem_map_of_mem hx
      have hself : [f].filter (fun x => x.slot? = f.slot?) = [f] :=
        List.filter_cons_of_pos (decide_eq_true rfl)
      exact (congrArg₂ (· ++ ·) hnone hself).symm
  case mark =>
    intro g hg
    rcases List.mem_append.mp hg with hg | hg
    · exact h.mark g hg
    · rw [List.mem_singleton.mp hg]
      rfl

/-- **One more filter is collected.** -/
theorem Collects.add {fs : List Filter} {gs : List Group} (h : Collects fs gs) {f : Filter}
    {slot : Slot} (hf : f.slot? = some slot) : Collects (fs ++ [f]) (add f slot gs) := by
  by_cases hmem : some slot ∈ gs.map slot?
  · rw [add_of_mem h.nodup hmem]
    exact h.map_receive hf hmem
  · rw [add_of_notMem hmem]
    exact h.append_new (hf ▸ hmem)

/-- A list is grouped filter by filter, each under its slot. -/
theorem addAll?_cons_eq_some_iff {f : Filter} {fs : List Filter} {gs gs' : List Group} :
    addAll? gs (f :: fs) = some gs' ↔
      ∃ slot, f.slot? = some slot ∧ addAll? (add f slot gs) fs = some gs' := by
  rw [addAll?, Filter.slot?]
  cases Mark.slot? f.mark with
  | none => simp
  | some slot => simp

/-- All further filters are collected. -/
theorem Collects.addAll? {fs fs' : List Filter} {gs gs' : List Group} (h : Collects fs gs)
    (hadd : addAll? gs fs' = some gs') : Collects (fs ++ fs') gs' := by
  induction fs' generalizing fs gs with
  | nil => rwa [List.append_nil, ← Option.some.inj hadd]
  | cons f fs' ih =>
    obtain ⟨slot, hf, hrest⟩ := addAll?_cons_eq_some_iff.mp hadd
    have hmore := ih (h.add hf) hrest
    rwa [List.append_assoc] at hmore

/-- **Grouping collects.** -/
theorem collects_groups? {fs : List Filter} {gs : List Group} (h : groups? fs = some gs) :
    Collects fs gs := collects_nil.addAll? h

theorem addAll?_eq_none_iff {fs : List Filter} {gs : List Group} :
    addAll? gs fs = none ↔ ∃ f ∈ fs, f.slot? = none := by
  induction fs generalizing gs with
  | nil => simp [addAll?]
  | cons f fs ih =>
    rw [List.exists_mem_cons_iff, Filter.slot?, addAll?]
    cases Mark.slot? f.mark with
    | none => simp
    | some slot => simp [ih]

/-- **Filters can be grouped unless one of them has no slot.** -/
theorem groups?_eq_none_iff {fs : List Filter} :
    groups? fs = none ↔ ∃ f ∈ fs, f.slot? = none := addAll?_eq_none_iff

end Group

/-! ## Nothing gets lost -/

namespace Group

/-- One more filter comes to those that are in the groups. -/
theorem perm_add (f : Filter) (slot : Slot) : ∀ gs : List Group,
    ((add f slot gs).flatMap (·.members)).Perm (f :: gs.flatMap (·.members))
  | [] => .refl _
  | g :: gs => by
    rw [add]
    split
    · rw [List.flatMap_cons, List.flatMap_cons, List.append_assoc, List.singleton_append]
      exact List.perm_middle
    · rw [List.flatMap_cons, List.flatMap_cons]
      exact ((perm_add f slot gs).append_left g.members).trans List.perm_middle

theorem perm_addAll? {fs : List Filter} {gs gs' : List Group} (h : addAll? gs fs = some gs') :
    (gs'.flatMap (·.members)).Perm (fs ++ gs.flatMap (·.members)) := by
  induction fs generalizing gs with
  | nil => exact Option.some.inj h ▸ .refl _
  | cons f fs ih =>
    obtain ⟨slot, -, hrest⟩ := addAll?_cons_eq_some_iff.mp h
    have hmoved : (fs ++ (add f slot gs).flatMap (·.members)).Perm
        (fs ++ f :: gs.flatMap (·.members)) := (perm_add f slot gs).append_left fs
    exact (ih hrest).trans (hmoved.trans List.perm_middle)

/-- **The groups have the filters of the list**, each as often as it occurs there. -/
theorem perm_groups? {fs : List Filter} {gs : List Group} (h : groups? fs = some gs) :
    (gs.flatMap (·.members)).Perm fs := List.append_nil fs ▸ perm_addAll? h

end Group

/-! ## What the groups of a list accept -/

namespace Filter

/-- **Every requirement of the filters is met**: each has one with its slot that accepts the text.
-/
def Met (fs : List Filter) (text : String) : Prop :=
  ∀ f ∈ fs, ∃ g ∈ fs, g.slot? = f.slot? ∧ g.accepts text = true

instance (fs : List Filter) (text : String) : Decidable (Met fs text) :=
  inferInstanceAs (Decidable (∀ f ∈ fs, ∃ g ∈ fs, g.slot? = f.slot? ∧ g.accepts text = true))

/-- One of the filters accepts the text, unless there are none. -/
def anyAccepts (fs : List Filter) (text : String) : Bool :=
  fs.isEmpty || fs.any (·.accepts text)

theorem anyAccepts_iff {fs : List Filter} {text : String} :
    anyAccepts fs text = true ↔ ∀ f ∈ fs, ∃ g ∈ fs, g.accepts text = true := by
  rw [anyAccepts, Bool.or_eq_true, List.any_eq_true]
  constructor
  · rintro (hnil | hsome) f hf
    · exact absurd hf (by simp [List.isEmpty_iff.mp hnil])
    · exact hsome
  · intro h
    cases fs with
    | nil => exact Or.inl rfl
    | cons f fs => exact Or.inr (h f List.mem_cons_self)

/-- Filters of one slot are a single requirement. -/
theorem met_iff_anyAccepts {fs : List Filter} {text : String} {slot : Option Slot}
    (h : ∀ f ∈ fs, f.slot? = slot) : Met fs text ↔ anyAccepts fs text = true := by
  rw [anyAccepts_iff]
  refine forall₂_congr fun f hf => exists_congr fun g => and_congr_right fun hg => ?_
  rw [h f hf, h g hg, eq_self, true_and]

/-- **Filters without a common slot are separate requirements.** -/
theorem met_append_iff {fs gs : List Filter} {text : String}
    (h : ∀ f ∈ fs, ∀ g ∈ gs, f.slot? ≠ g.slot?) :
    Met (fs ++ gs) text ↔ Met fs text ∧ Met gs text := by
  constructor
  · intro hmet
    refine ⟨fun f hf => ?_, fun g hg => ?_⟩
    · obtain ⟨x, hx, hslot, haccepts⟩ := hmet f (List.mem_append_left gs hf)
      rcases List.mem_append.mp hx with hx | hx
      · exact ⟨x, hx, hslot, haccepts⟩
      · exact absurd hslot.symm (h f hf x hx)
    · obtain ⟨x, hx, hslot, haccepts⟩ := hmet g (List.mem_append_right fs hg)
      rcases List.mem_append.mp hx with hx | hx
      · exact absurd hslot (h x hx g hg)
      · exact ⟨x, hx, hslot, haccepts⟩
  · rintro ⟨hfs, hgs⟩ x hx
    rcases List.mem_append.mp hx with hx | hx
    · obtain ⟨g, hg, hslot⟩ := hfs x hx
      exact ⟨g, List.mem_append_left gs hg, hslot⟩
    · obtain ⟨g, hg, hslot⟩ := hgs x hx
      exact ⟨g, List.mem_append_right fs hg, hslot⟩

end Filter

/-- **All groups accept a text exactly if every requirement of the filters is met.** -/
theorem Group.Collects.all_accepts_iff {fs : List Filter} {gs : List Group} (h : Collects fs gs)
    {text : String} : gs.all (·.accepts text) = true ↔ Filter.Met fs text := by
  rw [List.all_eq_true]
  constructor
  · intro hall f hf
    obtain ⟨g, hg, hslot⟩ := List.mem_map.mp (h.mem_slots_iff.mpr (List.mem_map_of_mem hf))
    obtain ⟨x, hx, haccepts⟩ := List.any_eq_true.mp (hall g hg)
    rw [h.members g hg, List.mem_filter, decide_eq_true_eq] at hx
    exact ⟨x, hx.1, hx.2.trans hslot, haccepts⟩
  · intro hmet g hg
    obtain ⟨f, hf, -⟩ := h.exists_mem hg
    rw [h.members g hg, List.mem_filter, decide_eq_true_eq] at hf
    obtain ⟨x, hx, hslot, haccepts⟩ := hmet f hf.1
    refine List.any_eq_true.mpr ⟨x, ?_, haccepts⟩
    rw [h.members g hg, List.mem_filter, decide_eq_true_eq]
    exact ⟨hx, hslot.trans hf.2⟩

end QuerySieve
