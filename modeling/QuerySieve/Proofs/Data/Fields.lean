import QuerySieve.Data.Basic
import Mathlib.Data.List.Nodup

/-!
# Proofs/Data/Fields — what a record has under a name, and what it has beside some names

A record is looked at in two ways: under a name that is known there is a value or none (`named?`),
and the fields under all other keys are taken as they are, in their order (`Fields.beside`).  Setting
a field under a known name changes what is found under it and leaves both the other names and the
other fields alone.
-/

namespace QuerySieve

/-- **The key is one of some names.** -/
def Key.isAmong (names : List String) : Key → Bool
  | .name s => names.contains s
  | _ => false

theorem Key.isAmong_iff {names : List String} {key : Key} :
    key.isAmong names = true ↔ ∃ name ∈ names, key = .name name := by
  cases key with
  | name s => simp [isAmong]
  | _ => simp [isAmong]

namespace Fields

variable {fields : Fields} {names : List String} {name : String}

/-! ## Fields found by name -/

/-- Only a name is one with a name. -/
theorem eq_name_of_same {key : Key} {name : String} (h : key.same (.name name) = true) :
    key = .name name := by
  have hcanonical : key.canonical = .inl (.name name) := Key.same_iff.mp h
  cases key with
  | name s => exact Sum.inl.inj hcanonical
  | float x =>
    cases x with
    | finite negative m q =>
      have hnumber := Sum.inl.inj hcanonical
      split at hnumber <;> cases hnumber
    | _ => cases Sum.inl.inj hcanonical
  | moment m =>
    rw [Key.canonical] at hcanonical
    cases hinstant : m.instant? with
    | none => rw [hinstant] at hcanonical; cases Sum.inl.inj hcanonical
    | some instant => rw [hinstant] at hcanonical; cases hcanonical
  | _ => cases Sum.inl.inj hcanonical

theorem same_name_iff {key : Key} : key.same (.name name) = true ↔ key = .name name := by
  refine ⟨eq_name_of_same, ?_⟩
  rintro rfl
  exact Key.same_iff.mpr rfl

@[simp] theorem named?_nil : named? [] name = none := rfl

theorem named?_cons {key : Key} {value : Data} :
    named? ((key, value) :: fields) name =
      if key = .name name then some value else fields.named? name := by
  rw [named?, get?]
  simp only [same_name_iff]
  rfl

/-- A name that was set is found, and no other one changes. -/
theorem named?_put {value : Data} {other : String} :
    (fields.put (.name name) value).named? other =
      if name = other then some value else fields.named? other := by
  rw [named?, get?_put]
  simp only [same_name_iff, Key.name.injEq]
  rfl

/-- Fields whose keys are changed are found under a name just as those were that now have it. -/
theorem named?_map_key {g : Key → Key} {other : String}
    (h : ∀ field ∈ fields, g field.1 = .name other ↔ field.1 = .name name) :
    named? (fields.map fun field => (g field.1, field.2)) other = fields.named? name := by
  induction fields with
  | nil => rfl
  | cons field fields ih =>
    obtain ⟨hfield, hfields⟩ := List.forall_mem_cons.mp h
    rw [List.map_cons, named?_cons, named?_cons, ih hfields]
    exact if_congr hfield rfl rfl

/-- The fields of the record under a name; none if something else stands there, or nothing. -/
def inside (fields : Fields) (name : String) : Fields :=
  match fields.named? name with
  | some (.record inner) => inner
  | _ => []

theorem inside_eq {inner : Fields} (h : fields.named? name = some (.record inner)) :
    fields.inside name = inner := by
  rw [inside, h]

theorem inside_congr {fields' : Fields} (h : fields.named? name = fields'.named? name) :
    fields.inside name = fields'.inside name := by
  rw [inside, inside, h]

/-! ## The fields beside some names -/

/-- **The fields of a record beside some names**, in their order. -/
def beside (names : List String) (fields : Fields) : Fields :=
  fields.filter fun f => !f.1.isAmong names

theorem beside_cons_name (h : name ∈ names) (value : Data) :
    beside names ((.name name, value) :: fields) = fields.beside names :=
  List.filter_cons_of_neg (by simpa [Key.isAmong] using h)

theorem beside_cons_of_not {field : Key × Data} (h : ¬ field.1.isAmong names = true) :
    beside names (field :: fields) = field :: fields.beside names :=
  List.filter_cons_of_pos (by simpa using h)

theorem named?_beside (h : name ∉ names) :
    (fields.beside names).named? name = fields.named? name := by
  induction fields with
  | nil => rfl
  | cons field rest ih =>
    obtain ⟨key, value⟩ := field
    rw [named?_cons]
    by_cases hkey : key.isAmong names = true
    · obtain ⟨known, hknown, rfl⟩ := Key.isAmong_iff.mp hkey
      have hne : Key.name known ≠ .name name := fun heq => h (Key.name.inj heq ▸ hknown)
      rw [if_neg hne, beside_cons_name hknown, ih]
    · rw [beside_cons_of_not hkey, named?_cons, ih]

/-- **Setting a known field leaves the fields beside the known ones alone.** -/
theorem beside_put (h : name ∈ names) (value : Data) :
    (fields.put (.name name) value).beside names = fields.beside names := by
  induction fields with
  | nil => exact beside_cons_name h value
  | cons field rest ih =>
    obtain ⟨key, old⟩ := field
    rw [put]
    by_cases hsame : key.same (.name name) = true
    · obtain rfl := eq_name_of_same hsame
      rw [if_pos hsame, beside_cons_name h, beside_cons_name h]
    · rw [if_neg hsame]
      by_cases hkey : key.isAmong names = true
      · obtain ⟨known, hknown, rfl⟩ := Key.isAmong_iff.mp hkey
        rw [beside_cons_name hknown, beside_cons_name hknown, ih]
      · rw [beside_cons_of_not hkey, beside_cons_of_not hkey, ih]

/-- All keys are names if those beside some names are. -/
theorem all_isName_beside :
    (fields.beside names).all (fun f => f.1.isName) = fields.all fun f => f.1.isName := by
  induction fields with
  | nil => rfl
  | cons field rest ih =>
    obtain ⟨key, value⟩ := field
    rw [List.all_cons, ← ih]
    by_cases hkey : key.isAmong names = true
    · obtain ⟨known, hknown, rfl⟩ := Key.isAmong_iff.mp hkey
      rw [beside_cons_name hknown, Key.isName, Bool.true_and]
    · rw [beside_cons_of_not hkey, List.all_cons]

theorem all_isName_congr {fields' : Fields} (h : fields.beside names = fields'.beside names) :
    (fields.all fun f => f.1.isName) = fields'.all fun f => f.1.isName := by
  rw [← all_isName_beside, h, all_isName_beside]

/-! ## Records without a key twice -/

/-- **No key stands in the record twice.** -/
def Distinct (fields : Fields) : Prop := (fields.map fun f => f.1.canonical).Nodup

instance (fields : Fields) : Decidable fields.Distinct := inferInstanceAs (Decidable (List.Nodup _))

theorem distinct_nil : Distinct [] := List.nodup_nil

theorem mem_canonical_put {key : Key} {value : Data} {c : Key ⊕ Int} :
    c ∈ (fields.put key value).map (fun f => f.1.canonical) →
      c = key.canonical ∨ c ∈ fields.map fun f => f.1.canonical := by
  induction fields with
  | nil => exact fun h => .inl (List.mem_singleton.mp h)
  | cons field rest ih =>
    obtain ⟨k, old⟩ := field
    rw [put]
    split
    · exact .inr
    · intro h
      rcases List.mem_cons.mp h with h | h
      · exact .inr (h ▸ List.mem_cons_self)
      · exact (ih h).imp_right (List.mem_cons_of_mem _)

theorem Distinct.put (h : fields.Distinct) (key : Key) (value : Data) :
    (fields.put key value).Distinct := by
  induction fields with
  | nil => exact List.nodup_singleton _
  | cons field rest ih =>
    obtain ⟨k, old⟩ := field
    obtain ⟨hk, hrest⟩ := List.nodup_cons.mp h
    rw [Fields.put]
    by_cases hsame : k.same key = true
    · rw [if_pos hsame]
      exact List.nodup_cons.mpr ⟨hk, hrest⟩
    · rw [if_neg hsame]
      refine List.nodup_cons.mpr ⟨fun hmem => ?_, ih hrest⟩
      exact (mem_canonical_put hmem).elim (fun heq => hsame (Key.same_iff.mpr heq)) hk

/-- Two keys that are one find the same. -/
theorem get?_congr {key key' : Key} (h : key.same key' = true) :
    fields.get? key = fields.get? key' := by
  have hcanonical : key.canonical = key'.canonical := Key.same_iff.mp h
  induction fields with
  | nil => rfl
  | cons field rest ih =>
    simp only [get?, ih, Key.same_iff, hcanonical]

/-- A key is not found among fields that stand under other keys. -/
theorem get?_eq_none {key : Key} (h : key.canonical ∉ fields.map fun f => f.1.canonical) :
    fields.get? key = none := by
  induction fields with
  | nil => rfl
  | cons field rest ih =>
    obtain ⟨k, old⟩ := field
    obtain ⟨hk, hrest⟩ := not_or.mp (mt List.mem_cons.mpr h)
    have hsame : ¬ k.same key = true := fun hsame => hk (Key.same_iff.mp hsame).symm
    rw [get?, if_neg hsame, ih hrest]

/-- Every field of such a record is found under its key. -/
theorem Distinct.get?_of_mem (h : fields.Distinct) {field : Key × Data} (hmem : field ∈ fields) :
    fields.get? field.1 = some field.2 := by
  induction fields with
  | nil => exact absurd hmem List.not_mem_nil
  | cons first rest ih =>
    obtain ⟨hfirst, hrest⟩ := List.nodup_cons.mp h
    rw [get?]
    rcases List.mem_cons.mp hmem with rfl | hmem
    · exact if_pos (Key.same_iff.mpr rfl)
    · have hsame : ¬ first.1.same field.1 = true := fun hsame =>
        hfirst (List.mem_map.mpr ⟨field, hmem, (Key.same_iff.mp hsame).symm⟩)
      rw [if_neg hsame, ih hrest hmem]

/-- What is found under a key is the value of a field. -/
theorem exists_mem_of_get? {key : Key} {value : Data} (h : fields.get? key = some value) :
    ∃ field ∈ fields, field.2 = value := by
  induction fields with
  | nil => exact nomatch h
  | cons field rest ih =>
    obtain ⟨k, v⟩ := field
    rw [get?] at h
    by_cases hsame : k.same key = true
    · rw [if_pos hsame] at h
      exact ⟨_, List.mem_cons_self, Option.some.inj h⟩
    · rw [if_neg hsame] at h
      obtain ⟨field, hfield, hvalue⟩ := ih h
      exact ⟨field, List.mem_cons_of_mem _ hfield, hvalue⟩

/-- To set what is there already changes nothing. -/
theorem put_eq_self {key : Key} {value : Data} (h : fields.get? key = some value) :
    fields.put key value = fields := by
  induction fields with
  | nil => exact nomatch h
  | cons field rest ih =>
    obtain ⟨k, old⟩ := field
    rw [get?] at h
    rw [put]
    by_cases hsame : k.same key = true
    · rw [if_pos hsame] at h ⊢
      rw [Option.some.inj h]
    · rw [if_neg hsame] at h ⊢
      rw [ih h]

/-- A field under a new key comes to the end. -/
theorem put_of_notMem {key : Key} (h : key.canonical ∉ fields.map fun f => f.1.canonical)
    (value : Data) : fields.put key value = fields ++ [(key, value)] := by
  induction fields with
  | nil => rfl
  | cons field rest ih =>
    obtain ⟨k, old⟩ := field
    obtain ⟨hk, hrest⟩ := not_or.mp (mt List.mem_cons.mpr h)
    have hsame : ¬ k.same key = true := fun hsame => hk (Key.same_iff.mp hsame).symm
    rw [put, if_neg hsame, ih hrest, List.cons_append]

/-- A name is not found among fields that stand under other keys. -/
theorem named?_eq_none (h : ∀ field ∈ fields, field.1 ≠ .name name) :
    fields.named? name = none := by
  refine get?_eq_none fun hmem => ?_
  obtain ⟨field, hfield, hcanonical⟩ := List.mem_map.mp hmem
  exact h field hfield (eq_name_of_same (Key.same_iff.mpr hcanonical))

end Fields

end QuerySieve
