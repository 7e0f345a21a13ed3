import QuerySieve.Data.Merge
import QuerySieve.Proofs.Data.Fields

/-!
# Proofs/Data/Merge — what stands where one record was laid over another

The record on top decides under every key that it has; where both have a record there, the two are
laid over each other in turn (`get?_override`).  What the record on top does not know stays as it
was, in its order.
-/

namespace QuerySieve

namespace Data

variable {names : List String}

/-- The value, a record without its fields. -/
def emptied : Data → Data
  | .record _ => .record []
  | d => d

/-- The value, a record without the fields under some names. -/
def beside (names : List String) : Data → Data
  | .record fields => .record (Fields.beside names fields)
  | d => d

theorem emptied_override (base top : Data) : (base.override top).emptied = top.emptied := by
  cases top with
  | record top => cases base <;> rfl
  | _ => rfl

theorem beside_eq_record {d : Data} {others : Fields} (h : d.beside names = .record others) :
    ∃ fields : Fields, d = .record fields ∧ fields.beside names = others := by
  cases d with
  | record fields => exact ⟨fields, rfl, Data.record.inj h⟩
  | _ => exact Data.noConfusion h

end Data

namespace Fields

variable {base top : Fields} {names : List String} {name : String}

/-- **The record on top decides under every key that it has.** -/
theorem get?_override (h : top.Distinct) (key : Key) :
    (Fields.override base top).get? key =
      match top.get? key with
      | some value => some (((base.get? key).map (·.override value)).getD value)
      | none => base.get? key := by
  -- a second field under the same key would be laid over the first one, not over `base`
  induction top generalizing base with
  | nil => rfl
  | cons field rest ih =>
    obtain ⟨k, value⟩ := field
    obtain ⟨hk, hrest⟩ := List.nodup_cons.mp h
    rw [Fields.override, ih hrest, get?_put, get?]
    by_cases hsame : k.same key = true
    · have hcanonical : k.canonical = key.canonical := Key.same_iff.mp hsame
      have hnone : get? rest key = none := get?_eq_none (hcanonical ▸ hk)
      rw [hnone, if_pos hsame, if_pos hsame, get?_congr hsame]
      cases base.get? key <;> rfl
    · rw [if_neg hsame, if_neg hsame]

/-- Fields under keys that are new to the record beneath come to its end. -/
theorem override_eq_append (h : (base ++ top).Distinct) :
    Fields.override base top = base ++ top := by
  induction top generalizing base with
  | nil => exact (List.append_nil base).symm
  | cons field rest ih =>
    obtain ⟨key, value⟩ := field
    have hnew : key.canonical ∉ base.map fun f => f.1.canonical := by
      rw [Distinct, List.map_append] at h
      exact fun hmem => List.disjoint_of_nodup_append h hmem List.mem_cons_self
    rw [List.append_cons] at h
    rw [Fields.override, get?_eq_none hnew, put_of_notMem hnew, ih h, ← List.append_cons]

theorem override_nil_left (h : top.Distinct) : Fields.override [] top = top :=
  override_eq_append h

/-- What is laid over fields that it would not change leaves them as they are. -/
theorem override_eq_self
    (h : ∀ field ∈ top, ∃ old, base.get? field.1 = some old ∧ old.override field.2 = old) :
    Fields.override base top = base := by
  induction top with
  | nil => rfl
  | cons field rest ih =>
    obtain ⟨⟨old, hold, hsame⟩, hrest⟩ := List.forall_mem_cons.mp h
    rw [Fields.override, hold]
    dsimp only
    rw [hsame, put_eq_self hold, ih hrest]

theorem named?_override (h : top.Distinct) (name : String) :
    (Fields.override base top).named? name =
      match top.named? name with
      | some value => some (((base.named? name).map (·.override value)).getD value)
      | none => base.named? name := get?_override h (.name name)

/-- But for what records hold, a value on top stands in the place of the one beneath. -/
theorem map_emptied_named?_override (h : top.Distinct) (name : String) :
    ((Fields.override base top).named? name).map Data.emptied =
      ((top.named? name).map Data.emptied).or ((base.named? name).map Data.emptied) := by
  rw [named?_override h]
  cases top.named? name with
  | none => rfl
  | some value =>
    cases base.named? name with
    | none => rfl
    | some old => exact congrArg some (Data.emptied_override old value)

/-- **A record on top of a record** is laid over it; on top of anything else it stands alone. -/
theorem named?_override_record (base : Fields) (h : top.Distinct) {inner : Fields}
    (hinner : top.named? name = some (.record inner)) :
    ∃ merged, (Fields.override base top).named? name = some (.record merged) ∧
        (merged = Fields.override (base.inside name) inner ∨
          base.inside name = [] ∧ merged = inner) := by
  rw [named?_override h, hinner, inside]
  cases base.named? name with
  | none => exact ⟨inner, rfl, .inr ⟨rfl, rfl⟩⟩
  | some old =>
    cases old with
    | record fields => exact ⟨_, rfl, .inl rfl⟩
    | _ => exact ⟨inner, rfl, .inr ⟨rfl, rfl⟩⟩

/-- A record on top that has known fields only leaves those beside them alone. -/
theorem beside_override (h : top.beside names = []) :
    (Fields.override base top).beside names = base.beside names := by
  induction top generalizing base with
  | nil => rfl
  | cons field rest ih =>
    obtain ⟨key, value⟩ := field
    by_cases hkey : key.isAmong names = true
    · obtain ⟨known, hknown, rfl⟩ := Key.isAmong_iff.mp hkey
      rw [beside_cons_name hknown] at h
      rw [Fields.override, ih h, beside_put hknown]
    · rw [beside_cons_of_not hkey] at h
      exact absurd h (List.cons_ne_nil _ _)

end Fields

end QuerySieve
