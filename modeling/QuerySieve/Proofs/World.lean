import QuerySieve.World

/-!
# Proofs/World — what a place leads to, and what stands there

Whether there is something at a place can be told unless the place is too long, and where a file can
be read there is something.  A text that was written to a file is read from it again, as long as its
lines end in the plain way.
-/

namespace QuerySieve

/-! ## Texts in files -/

namespace FileTree

theorem plainLineEnds_eq_self {cs : List Char} (h : '\r' ∉ cs) : plainLineEnds cs = cs := by
  induction cs with
  | nil => rfl
  | cons c cs ih =>
    obtain ⟨hc, hcs⟩ := not_or.mp (mt List.mem_cons.mpr h)
    rw [plainLineEnds, ih hcs]
    · rintro cs' rfl
      exact fun _ => hc rfl
    · rintro rfl
      exact hc rfl

/-- **A text is what its bytes are read as.** -/
theorem decode?_toUTF8 {s : String} (h : '\r' ∉ s.toList) : decode? s.toUTF8 = some s := by
  have hbytes : String.fromUTF8? s.toUTF8 = some s := dif_pos s.isValidUTF8
  rw [decode?, hbytes, Option.map_some, plainLineEnds_eq_self h, String.ofList_toList]

end FileTree

/-! ## Places -/

namespace World

variable {w : World} {p : Place}

theorem holds_eq_error_iff {fault : PathFault} :
    w.holds p = .error fault ↔ fault = .tooLong ∧ w.path p = .error .tooLong := by
  rw [holds]
  cases w.path p with
  | ok path => exact iff_of_false nofun fun h => nomatch h.2
  | error e => cases e <;> simp [eq_comm]

theorem path_ne_tooLong_of_holds {there : Bool} (h : w.holds p = .ok there) :
    w.path p ≠ .error .tooLong := fun hpath =>
  nomatch h.symm.trans (holds_eq_error_iff.mpr ⟨rfl, hpath⟩)

/-- Where a file can be read there is something. -/
theorem holds_of_read {content : ByteArray} (h : w.read p = .ok content) :
    w.holds p = .ok true := by
  rw [read] at h
  rw [holds]
  cases hpath : w.path p with
  | error fault => rw [hpath] at h; exact nomatch h
  | ok path =>
    have hfile : w.tree.file path = .ok content := by rwa [hpath] at h
    have hnode : (w.tree.node? path).isSome = true := by
      rw [FileTree.file] at hfile
      cases hnode : w.tree.node? path with
      | none => rw [hnode] at hfile; exact nomatch hfile
      | some node => rfl
    exact congrArg Except.ok hnode

theorem holdsFile_eq_true_iff : w.holdsFile p = true ↔ ∃ content, w.read p = .ok content := by
  rw [holdsFile]
  cases w.read p with
  | ok content => exact iff_of_true rfl ⟨content, rfl⟩
  | error fault => exact iff_of_false nofun nofun

end World

end QuerySieve
