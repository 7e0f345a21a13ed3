import QuerySieve.Failure
import QuerySieve.Json.Reader

/-!
# Proofs/Failure — operations that end with a report, or by known breakdowns

An operation either gives a value, or tells the user what failed, or breaks down.  Which breakdowns
are possible is told together with what its reports are about (`EndsIn`), and both are found step by
step: the breakdowns of two steps in a row are those of the first, and those of the second on what
the first gives (`EndsIn.bind`).  Where the steps go through a list, they come to an item only if all
items before it are passed (`Reached`).
-/

namespace QuerySieve

variable {α β : Type}

/-- **The operation gives a value, or a report on the area, or breaks down in just the ways that are
listed.** -/
structure EndsIn (area : Area) (breaks : Breakdown → Prop) (result : Except Failure α) : Prop where
  breakdown_iff : ∀ b, result = .error (.breakdown b) ↔ breaks b
  told : ∀ f, result = .error f →
    (∃ r : Report, f = .report r ∧ r.area = area) ∨ ∃ b, f = .breakdown b

namespace EndsIn

variable {area : Area} {breaks breaks' : Breakdown → Prop} {result : Except Failure α}

theorem ok (a : α) : EndsIn area (fun _ => False) (.ok a : Except Failure α) where
  breakdown_iff _ := iff_of_false nofun id
  told _ h := nomatch h

theorem report {r : Report} (h : r.area = area) :
    EndsIn area (fun _ => False) (.error (.report r) : Except Failure α) where
  breakdown_iff _ := iff_of_false nofun id
  told _ hf := .inl ⟨r, (Except.error.inj hf).symm, h⟩

theorem breakdown (b : Breakdown) :
    EndsIn area (· = b) (.error (.breakdown b) : Except Failure α) where
  breakdown_iff _ := by rw [Except.error.injEq, Failure.breakdown.injEq, eq_comm]
  told _ hf := .inr ⟨b, (Except.error.inj hf).symm⟩

theorem congr (h : EndsIn area breaks result) (hbreaks : ∀ b, breaks b ↔ breaks' b) :
    EndsIn area breaks' result where
  breakdown_iff b := (h.breakdown_iff b).trans (hbreaks b)
  told := h.told

/-- A failure stays the same failure when a value of another kind was wanted. -/
theorem error {e : Failure} (h : EndsIn area breaks (.error e : Except Failure α)) :
    EndsIn area breaks (.error e : Except Failure β) where
  breakdown_iff b := by
    rw [← h.breakdown_iff b, Except.error.injEq, Except.error.injEq]
  told f hf := h.told f (congrArg _ (Except.error.inj hf))

/-- **One step after the other.** The second one can only break down on what the first one gives. -/
theorem bind {f : α → Except Failure β} (h : EndsIn area breaks result)
    (breaks' : α → Breakdown → Prop) (h' : ∀ a, result = .ok a → EndsIn area (breaks' a) (f a)) :
    EndsIn area (fun b => breaks b ∨ ∃ a, result = .ok a ∧ breaks' a b) (result >>= f) := by
  cases result with
  | error e =>
    refine h.error.congr fun b => ?_
    have hnone : ¬ ∃ a, (.error e : Except Failure α) = .ok a ∧ breaks' a b := nofun
    rw [or_iff_left hnone]
  | ok a =>
    have hfirst : ∀ b, ¬ breaks b := fun b hb => nomatch (h.breakdown_iff b).mpr hb
    refine (h' a rfl).congr fun b => ?_
    rw [or_iff_right (hfirst b)]
    exact ⟨fun hb => ⟨a, rfl, hb⟩, fun ⟨_, ha, hb⟩ => Except.ok.inj ha ▸ hb⟩

/-- **An operation that never breaks down gives a value or a report**, and no other one does. -/
theorem ok_or_report_iff (h : EndsIn area breaks result) :
    ((∃ a, result = .ok a) ∨ ∃ r, result = .error (.report r) ∧ r.area = area) ↔
      ∀ b, ¬ breaks b := by
  constructor
  · rintro hends b hb
    have hbreak := (h.breakdown_iff b).mpr hb
    rcases hends with ⟨a, ha⟩ | ⟨r, hr, -⟩
    · exact nomatch hbreak.symm.trans ha
    · exact nomatch hbreak.symm.trans hr
  · intro hbreaks
    cases result with
    | ok a => exact .inl ⟨a, rfl⟩
    | error f =>
      rcases h.told f rfl with ⟨r, rfl, hr⟩ | ⟨b, rfl⟩
      · exact .inr ⟨r, rfl, hr⟩
      · exact absurd ((h.breakdown_iff b).mp rfl) (hbreaks b)

end EndsIn

/-- **Whatever the operation reports** is like this. -/
structure ReportsOnly (P : Report → Prop) (result : Except Failure α) : Prop where
  told : ∀ r, result = .error (.report r) → P r

namespace ReportsOnly

variable {P : Report → Prop} {result : Except Failure α}

theorem ok (a : α) : ReportsOnly P (.ok a : Except Failure α) where
  told _ h := nomatch h

theorem breakdown (b : Breakdown) : ReportsOnly P (.error (.breakdown b) : Except Failure α) where
  told _ h := nomatch h

/-- Two steps in a row report what one of them does. -/
theorem bind {f : α → Except Failure β} (h : ReportsOnly P result)
    (hnext : ∀ a, ReportsOnly P (f a)) : ReportsOnly P (result >>= f) where
  told r hr := by
    cases result with
    | error e => exact h.told r (congrArg _ (Except.error.inj hr))
    | ok a => exact (hnext a).told r hr

end ReportsOnly

/-- **An item of a list that is reached**: all items before it are passed. -/
inductive Reached (passed : α → Prop) : List α → α → Prop
  | here (a : α) (as : List α) : Reached passed (a :: as) a
  | further {a b : α} {as : List α} (hpassed : passed b) (h : Reached passed as a) :
      Reached passed (b :: as) a

theorem not_reached_nil {passed : α → Prop} {a : α} : ¬ Reached passed [] a := nofun

theorem reached_cons_iff {passed : α → Prop} {a b : α} {as : List α} :
    Reached passed (b :: as) a ↔ a = b ∨ passed b ∧ Reached passed as a := by
  constructor
  · rintro (_ | ⟨hpassed, h⟩)
    · exact .inl rfl
    · exact .inr ⟨hpassed, h⟩
  · rintro (rfl | ⟨hpassed, h⟩)
    · exact .here a as
    · exact .further hpassed h

section Report

variable (area : Area) (code : Code) (lead : String) (subject : Option Subject)
  (circumstances : Circumstances) (cause : Option Cause) (suggestions : List Suggestion)

/-- **A report is what it was made from**, but for the suggestion that its code brings along — whether
or not it was given the same one already. -/
theorem Report.make_eq : make area code lead subject circumstances cause suggestions =
    ⟨area, code, lead, false, circumstances.noting area subject, cause,
      (area.advice? code subject).elim suggestions fun s =>
        Suggestion.sort (suggestions ++ [s])⟩ := by
  rw [make, advised]
  cases area.advice? code subject <;> rfl

theorem Report.area_make :
    (make area code lead subject circumstances cause suggestions).area = area := by
  rw [make_eq]

end Report

/-- The breakdown that a fault of the object notation leads to, unless it is reported. -/
def Json.Fault.breakdown? : Json.Fault → Option Breakdown
  | .malformed => none
  | .tooLong => some .tooManyDigits
  | .tooDeep => some .tooDeep

/-- A text in the object notation that breaks its rules is reported; what there is no room for is
not. -/
theorem endsIn_json {area : Area} {reported : Failure}
    (h : EndsIn area (fun _ => False) (.error reported : Except Failure Data))
    (reading : Except Json.Fault Data) :
    EndsIn area (fun b => ∃ fault, reading = .error fault ∧ fault.breakdown? = some b)
      (match reading with
        | .ok d => .ok d
        | .error .malformed => .error reported
        | .error .tooLong => .error (.breakdown .tooManyDigits)
        | .error .tooDeep => .error (.breakdown .tooDeep)) := by
  cases reading with
  | ok d => exact (EndsIn.ok d).congr fun b => iff_of_false id nofun
  | error fault =>
    simp only [Except.error.injEq, exists_eq_left']
    cases fault with
    | malformed => exact h.congr fun b => iff_of_false id nofun
    | _ =>
      refine (EndsIn.breakdown _).congr fun b => ?_
      rw [Json.Fault.breakdown?, Option.some_inj, eq_comm]

end QuerySieve
