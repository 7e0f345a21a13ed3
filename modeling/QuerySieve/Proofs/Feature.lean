import QuerySieve.Feature

/-!
# Proofs/Feature — equal marks are those under one slot

Which marks are equal is told here by what they are (`Mark.Equal`), with the absent mark among them
and a truth value next to the number that it stands for; a value of a caller's own comes with the
slot of its equals.  A slot is the normal form of this: marks are equal exactly if they have the same
slot (`equal_iff`), and only lists and values that cannot be compared are without one
(`slot?_eq_none_iff`).
-/

namespace QuerySieve

namespace Mark

/-- The number that a mark stands for: for a truth value, 1 or 0. -/
def number? : Mark → Option Int
  | int n => some n
  | bool true => some 1
  | bool false => some 0
  | _ => none

/-- **Equal marks.**  Nothing is said of marks that cannot be compared. -/
inductive Equal : Option Mark → Option Mark → Prop
  | absent : Equal none none
  | feature (f : Feature) : Equal (some (feature f)) (some (feature f))
  | text (s : String) : Equal (some (text s)) (some (text s))
  | number {a b : Mark} {n : Int} (ha : a.number? = some n) (hb : b.number? = some n) :
    Equal (some a) (some b)
  | otherLeft {m : Option Mark} {slot : Slot} (label : Option Data) (h : slot? m = some slot) :
    Equal (some (other (some slot) label)) m
  | otherRight {m : Option Mark} {slot : Slot} (label : Option Data) (h : slot? m = some slot) :
    Equal m (some (other (some slot) label))

theorem slot?_of_number? {a : Mark} {n : Int} (h : a.number? = some n) :
    slot? (some a) = some (.int n) := by
  cases a with
  | int m => exact congrArg (some <| Slot.int ·) (Option.some.inj h)
  | bool b => cases b <;> exact congrArg (some <| Slot.int ·) (Option.some.inj h)
  | feature f => exact nomatch h
  | text s => exact nomatch h
  | list items => exact nomatch h
  | other slot label => exact nomatch h

/-- The marks under a slot. -/
theorem eq_of_slot? {m : Option Mark} {slot : Slot} (h : slot? m = some slot) :
    (∃ label, m = some (.other (some slot) label)) ∨
    match slot with
    | .ungrouped => m = none
    | .feature f => m = some (.feature f)
    | .text s => m = some (.text s)
    | .int n => ∃ a, m = some a ∧ a.number? = some n
    | .other _ => False := by
  cases m with
  | none => cases h; exact .inr rfl
  | some a =>
    cases a with
    | feature f => cases h; exact .inr rfl
    | text s => cases h; exact .inr rfl
    | int n => cases h; exact .inr ⟨_, rfl, rfl⟩
    | bool b => cases b <;> cases h <;> exact .inr ⟨_, rfl, rfl⟩
    | list items => exact nomatch h
    | other slot' label =>
      obtain rfl : slot' = some slot := h
      exact .inl ⟨label, rfl⟩

theorem slot?_eq_none_iff {m : Option Mark} : slot? m = none ↔
    (∃ items, m = some (list items)) ∨ ∃ label, m = some (other none label) := by
  constructor
  · intro h
    cases m with
    | none => exact nomatch h
    | some a =>
      cases a with
      | list items => exact .inl ⟨items, rfl⟩
      | other slot label =>
        obtain rfl : slot = none := h
        exact .inr ⟨label, rfl⟩
      | _ => exact nomatch h
  · rintro (⟨items, rfl⟩ | ⟨label, rfl⟩)
    · rfl
    · rfl

/-- **Marks are equal exactly if they have a slot in common.** -/
theorem equal_iff {a b : Option Mark} : Equal a b ↔ slot? a = slot? b ∧ slot? a ≠ none := by
  constructor
  · rintro (_ | f | s | ⟨ha, hb⟩ | ⟨label, h⟩ | ⟨label, h⟩)
    · exact ⟨rfl, nofun⟩
    · exact ⟨rfl, nofun⟩
    · exact ⟨rfl, nofun⟩
    · exact ⟨(slot?_of_number? ha).trans (slot?_of_number? hb).symm,
        slot?_of_number? ha ▸ Option.some_ne_none _⟩
    · exact ⟨h.symm, Option.some_ne_none _⟩
    · exact ⟨h, h ▸ Option.some_ne_none _⟩
  · rintro ⟨hsame, hne⟩
    obtain ⟨slot, ha⟩ := Option.ne_none_iff_exists'.mp hne
    have hb := hsame.symm.trans ha
    rcases eq_of_slot? ha with ⟨label, rfl⟩ | hma
    · exact .otherLeft label hb
    rcases eq_of_slot? hb with ⟨label, rfl⟩ | hmb
    · exact .otherRight label ha
    cases slot with
    | ungrouped => exact hma ▸ hmb ▸ .absent
    | feature f => exact hma ▸ hmb ▸ .feature f
    | text s => exact hma ▸ hmb ▸ .text s
    | int n =>
      obtain ⟨x, rfl, hx⟩ := hma
      obtain ⟨y, rfl, hy⟩ := hmb
      exact .number hx hy
    | other n => exact hma.elim

/-- A truth value equals the number that it stands for, and a feature is not its own name. -/
example : Equal (some (bool true)) (some (int 1)) ∧
    ¬ Equal (some (feature .fileName)) (some (text Feature.fileName.name)) :=
  ⟨.number rfl rfl, nofun⟩

end Mark

end QuerySieve
