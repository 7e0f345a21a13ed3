import QuerySieve.Proofs.Data.Merge

/-!
# Proofs/Data/Path — what stands at a path where one record was laid over another

A path of keys leads from a record into the records inside of it (`Data.at?`).  Where one record is
laid over another, the path tells which of them is seen: the one on top wherever it has a value that
is no record, at the path or on the way to it; both of them, laid over each other, where it has a
record; and the one beneath everywhere else (`override_pathwise`).

The records that are laid over others have no key twice, at any depth (`Data.Orderly`).  Of those
beneath nothing is asked.
-/

namespace QuerySieve

namespace Data

/-! ## Paths -/

/-- **What stands at a path**; nothing where the path leads through a value that is no record. -/
def at? : Data → List Key → Option Data
  | d, [] => some d
  | .record fields, key :: path => (Fields.get? fields key).bind fun d => d.at? path
  | _, _ :: _ => none

/-- The value is a record. -/
def isRecord : Data → Bool
  | .record _ => true
  | _ => false

/-- The fields of a value; none if it is no record. -/
def fields : Data → Fields
  | .record fields => fields
  | _ => []

/-- **No record in the value has a key twice**, wherever a path leads. -/
def Orderly (d : Data) : Prop :=
  ∀ path fields, d.at? path = some (.record fields) → Fields.Distinct fields

/-- The fields of the record at a path; none if there is no record. -/
def fieldsAt (d : Data) (path : List Key) : Fields := ((d.at? path).getD .null).fields

variable {top d : Data} {path : List Key}

@[simp] theorem at?_nil (d : Data) : d.at? [] = some d := by cases d <;> rfl

theorem at?_cons (d : Data) (key : Key) (path : List Key) :
    d.at? (key :: path) = (d.fields.get? key).bind fun d => d.at? path := by
  cases d <;> rfl

theorem at?_append (d : Data) (front rest : List Key) :
    d.at? (front ++ rest) = (d.at? front).bind fun d => d.at? rest := by
  induction front generalizing d with
  | nil => rw [at?_nil, List.nil_append, Option.bind_some]
  | cons key front ih =>
    rw [List.cons_append, at?_cons, at?_cons, Option.bind_assoc]
    exact congrArg _ (funext fun d => ih d)

theorem fields_eq_nil (h : d.isRecord = false) : d.fields = [] := by
  cases d with
  | record fields => exact nomatch h
  | _ => rfl

theorem isRecord_iff : d.isRecord = true ↔ ∃ fields : Fields, d = .record fields := by
  cases d with
  | record fields => exact iff_of_true rfl ⟨fields, rfl⟩
  | _ => exact iff_of_false nofun nofun

/-- Only a record has something under a key. -/
theorem at?_cons_eq_some {key : Key} {found : Data} (h : d.at? (key :: path) = some found) :
    ∃ (fields : Fields) (value : Data), d = .record fields ∧ fields.get? key = some value ∧
      value.at? path = some found := by
  cases d with
  | record fields =>
    obtain ⟨value, hvalue, hfound⟩ := Option.bind_eq_some_iff.mp h
    exact ⟨fields, value, rfl, hvalue, hfound⟩
  | _ => exact nomatch h

/-- Nothing stands behind a value that is no record. -/
theorem at?_eq_none_of_prefix {front : List Key} (hvalue : d.at? front = some top)
    (hrecord : top.isRecord = false) (hfront : front <+: path) (hne : front ≠ path) :
    d.at? path = none := by
  obtain ⟨rest, rfl⟩ := hfront
  rw [at?_append, hvalue, Option.bind_some]
  cases rest with
  | nil => exact absurd (List.append_nil front).symm hne
  | cons key rest => rw [at?_cons, fields_eq_nil hrecord]; rfl

/-! ## Records without a key twice -/

theorem Orderly.distinct {fields : Fields} (h : (Data.record fields).Orderly) : fields.Distinct :=
  h [] fields (at?_nil _)

theorem Orderly.get? {fields : Fields} (h : (Data.record fields).Orderly) {key : Key}
    {value : Data} (hvalue : fields.get? key = some value) : value.Orderly := by
  intro path inner hinner
  refine h (key :: path) inner ?_
  rw [at?_cons, Data.fields, hvalue, Option.bind_some, hinner]

theorem orderly_of_isRecord_eq_false (h : d.isRecord = false) : d.Orderly := by
  intro path fields hfields
  cases path with
  | nil =>
    rw [at?_nil, Option.some_inj] at hfields
    rw [hfields] at h
    exact nomatch h
  | cons key path =>
    obtain ⟨fields, value, rfl, -⟩ := at?_cons_eq_some hfields
    exact nomatch h

/-- A record is orderly if it has no key twice and all its values are. -/
theorem orderly_record {fields : Fields} (h : fields.Distinct)
    (hvalues : ∀ field ∈ fields, field.2.Orderly) : (Data.record fields).Orderly := by
  intro path inner hinner
  cases path with
  | nil =>
    rw [at?_nil, Option.some_inj] at hinner
    exact Data.record.inj hinner ▸ h
  | cons key path =>
    obtain ⟨_, value, hrecord, hvalue, hfound⟩ := at?_cons_eq_some hinner
    obtain rfl := Data.record.inj hrecord
    obtain ⟨field, hfield, rfl⟩ := Fields.exists_mem_of_get? hvalue
    exact hvalues field hfield path inner hfound

/-! ## One value laid over another -/

theorem override_of_isRecord_eq_false (base : Data) (h : top.isRecord = false) :
    base.override top = top := by
  cases top with
  | record fields => exact nomatch h
  | _ => rfl

@[simp] theorem null_override (top : Data) : Data.null.override top = top := by
  cases top <;> rfl

/-- A record is laid over the fields of the value beneath, of which there may be none. -/
theorem override_record (base : Data) {fields : Fields} (h : fields.Distinct) :
    base.override (.record fields) = .record (Fields.override base.fields fields) := by
  cases base with
  | record beneath => rfl
  | _ => exact congrArg Data.record (Fields.override_nil_left h).symm

/-- What is found under a key where a record was laid over a value. -/
theorem get?_override (base : Data) {fields : Fields} (h : fields.Distinct) (key : Key) :
    (base.override (.record fields)).fields.get? key =
      match fields.get? key with
      | some value => some (((base.fields.get? key).getD .null).override value)
      | none => base.fields.get? key := by
  rw [override_record base h, Data.fields, Fields.get?_override h]
  cases fields.get? key with
  | none => rfl
  | some value => cases base.fields.get? key <;> simp

/-! ## Path by path -/

/-- **A value of `top` that is no record hides what is beneath**, and all that would be behind it. -/
theorem at?_override_of_prefix (base : Data) {front : List Key} {value : Data} (h : top.Orderly)
    (hfront : front <+: path) (hvalue : top.at? front = some value)
    (hrecord : value.isRecord = false) : (base.override top).at? path = top.at? path := by
  induction front generalizing base top path with
  | nil =>
    rw [at?_nil, Option.some_inj] at hvalue
    rw [override_of_isRecord_eq_false base (hvalue ▸ hrecord)]
  | cons key front ih =>
    obtain ⟨rest, rfl⟩ := hfront
    obtain ⟨fields, inner, rfl, hinner, hfound⟩ := at?_cons_eq_some hvalue
    rw [List.cons_append, at?_cons, at?_cons, get?_override base h.distinct, Data.fields, hinner]
    exact ih _ (h.get? hinner) (List.prefix_append front rest) hfound

/-- **A record of `top` is laid over what is beneath at the same path.** -/
theorem at?_override_of_record (base : Data) {inner : Fields} (h : top.Orderly)
    (hinner : top.at? path = some (.record inner)) :
    (base.override top).at? path =
      some (.record (Fields.override (base.fieldsAt path) inner)) := by
  induction path generalizing base top with
  | nil =>
    rw [at?_nil, Option.some_inj] at hinner
    subst hinner
    rw [at?_nil, override_record base h.distinct, fieldsAt, at?_nil, Option.getD_some]
  | cons key path ih =>
    obtain ⟨fields, value, rfl, hvalue, hfound⟩ := at?_cons_eq_some hinner
    rw [at?_cons, get?_override base h.distinct, hvalue]
    refine (ih _ (h.get? hvalue) hfound).trans ?_
    rw [fieldsAt, fieldsAt, at?_cons]
    cases base.fields.get? key with
    | some old => rfl
    | none => cases path <;> rfl

/-- **Where `top` has nothing, and nothing in the way, there is what is beneath.** -/
theorem at?_override_of_none (base : Data) (h : top.Orderly) (hnone : top.at? path = none)
    (hopen : ∀ front value, front <+: path → top.at? front = some value → value.isRecord = true) :
    (base.override top).at? path = base.at? path := by
  induction path generalizing base top with
  | nil => exact nomatch (at?_nil top).symm.trans hnone
  | cons key path ih =>
    obtain ⟨fields, rfl⟩ : ∃ fields : Fields, top = .record fields :=
      isRecord_iff.mp (hopen [] top List.nil_prefix (at?_nil top))
    rw [at?_cons, Data.fields] at hnone
    rw [at?_cons, at?_cons, get?_override base h.distinct]
    cases hvalue : fields.get? key with
    | none => rfl
    | some value =>
      rw [hvalue, Option.bind_some] at hnone
      refine (ih _ (h.get? hvalue) hnone fun front inner hfront hinner => ?_).trans ?_
      · refine hopen (key :: front) inner (List.cons_prefix_cons.mpr ⟨rfl, hfront⟩) ?_
        rw [at?_cons, Data.fields, hvalue, Option.bind_some, hinner]
      · cases base.fields.get? key with
        | some old => rfl
        | none =>
          -- `top` has a value here, so the path goes on, and nothing is beneath either
          cases path with
          | nil => exact nomatch (at?_nil value).symm.trans hnone
          | cons key path => rfl

/-! ## Laying the same over it again -/

/-- **Laying a value over another twice is laying it once.** -/
theorem override_override (base : Data) : ∀ top : Data, top.Orderly →
    (base.override top).override top = base.override top
  | .record fields, h => by
    rw [override_record base h.distinct]
    refine congrArg Data.record (Fields.override_eq_self fun field hfield => ?_)
    have hvalue : Fields.get? fields field.1 = some field.2 := h.distinct.get?_of_mem hfield
    have hseen := get?_override base h.distinct field.1
    rw [override_record base h.distinct, Data.fields, hvalue] at hseen
    exact ⟨_, hseen, override_override _ field.2 (h.get? hvalue)⟩
  | .null, _ | .bool _, _ | .int _, _ | .float _, _ | .text _, _ | .date _ _ _, _ | .moment _, _
  | .bytes _, _ | .list _, _ => rfl
termination_by top => sizeOf top
decreasing_by
  have hmem := List.sizeOf_lt_of_mem hfield
  obtain ⟨key, value⟩ := field
  rw [Prod.mk.sizeOf_spec] at hmem
  rw [record.sizeOf_spec]
  dsimp only
  omega

end Data

namespace Fields

/-- What stands at a path in a record. -/
def at? (fields : Fields) (path : List Key) : Option Data := (Data.record fields).at? path

/-- **A record is laid over another path by path.** A value on top that is no record hides what is
beneath, and there is nothing behind it. Elsewhere a record on top is laid over the one at the same
path, or over nothing; and where there is none, there is what is beneath. So it changes nothing to lay
the same record over it again, or one without fields over another, or it over one without fields. -/
theorem override_pathwise (base : Fields) {top : Fields} (h : (Data.record top).Orderly) :
    (∀ path,
      (∀ front value, front ≠ [] → front <+: path → top.at? front = some value →
        value.isRecord = false →
          (override base top).at? path = top.at? path ∧
          (front ≠ path → (override base top).at? path = none)) ∧
      ((∀ front value, front ≠ [] → front <+: path → top.at? front = some value →
        value.isRecord = true) →
          (∀ inner, top.at? path = some (.record inner) → (override base top).at? path =
            some (.record (override ((Data.record base).fieldsAt path) inner))) ∧
          ((∀ inner, top.at? path ≠ some (.record inner)) →
            (override base top).at? path = base.at? path))) ∧
    override (override base top) top = override base top ∧
    override base [] = base ∧ override [] top = top := by
  refine ⟨fun path => ⟨fun front value _ hfront hvalue hrecord => ?_, fun hopen => ⟨?_, ?_⟩⟩,
    ?_, rfl, override_nil_left h.distinct⟩
  · have hhidden : (override base top).at? path = top.at? path :=
      Data.at?_override_of_prefix (.record base) h hfront hvalue hrecord
    exact ⟨hhidden, fun hne =>
      hhidden.trans (Data.at?_eq_none_of_prefix hvalue hrecord hfront hne)⟩
  · intro inner hinner
    exact Data.at?_override_of_record (.record base) h hinner
  · intro hnone
    have hopen' : ∀ front value, front <+: path → (Data.record top).at? front = some value →
        value.isRecord = true := by
      intro front value hfront hvalue
      cases front with
      | nil => exact Option.some.inj hvalue ▸ rfl
      | cons key front => exact hopen _ value (List.cons_ne_nil key front) hfront hvalue
    refine Data.at?_override_of_none (.record base) h ?_ hopen'
    cases hvalue : (Data.record top).at? path with
    | none => rfl
    | some value =>
      obtain ⟨inner, rfl⟩ := Data.isRecord_iff.mp (hopen' path value List.prefix_rfl hvalue)
      exact absurd hvalue (hnone inner)
  · exact Data.record.inj (Data.override_override (.record base) (.record top) h)

/-- A truth value on top hides a record, a record on top hides a text, and what stands beside them is
seen through the records on top; a record under a truth value is seen under the number as well. -/
theorem override_pathwise_pdf :
    let base : Fields := [(.name "filters", .ofFields [("feature", .text "file_name"),
      ("include_keywords", .ofTexts ["pdf"])]), (.name "debug", .ofFields [("since", .int 3)]),
      (.int 1, .text "one")]
    let top : Fields := [(.name "debug", .bool true), (.bool true, .ofFields [("of", .int 2)]),
      (.name "filters", .ofFields [("feature", .ofFields [("name", .text "x")])])]
    let merged := override base top
    (Data.record top).Orderly ∧
      (top.at? [.name "debug"] = some (.bool true) ∧
        base.at? [.name "debug", .name "since"] = some (.int 3) ∧
        merged.at? [.name "debug", .name "since"] = none) ∧
      merged.at? [.name "filters", .name "feature"] = some (.ofFields [("name", .text "x")]) ∧
      merged.at? [.int 1] = some (.ofFields [("of", .int 2)]) ∧
      (merged.at? [.name "filters", .name "include_keywords"] =
          base.at? [.name "filters", .name "include_keywords"] ∧
        base.at? [.name "filters", .name "include_keywords"] = some (.ofTexts ["pdf"])) ∧
      override merged top = merged ∧ override base [] = base ∧ override [] top = top := by
  intro base top merged
  have hbool : (Data.bool true).Orderly := Data.orderly_of_isRecord_eq_false rfl
  have htext : (Data.text "x").Orderly := Data.orderly_of_isRecord_eq_false rfl
  have hint : (Data.int 2).Orderly := Data.orderly_of_isRecord_eq_false rfl
  have hone : ∀ (name : String) (value : Data), value.Orderly →
      (Data.record [(.name name, value)]).Orderly := fun name value hvalue =>
    Data.orderly_record (List.nodup_singleton _) (List.forall_mem_singleton.mpr hvalue)
  have horderly : (Data.record top).Orderly := by
    refine Data.orderly_record (by decide : Distinct top) ?_
    simp only [top, List.forall_mem_cons, List.not_mem_nil, false_implies, implies_true, and_true]
    exact ⟨hbool, hone _ _ hint, hone _ _ (hone _ _ htext)⟩
  obtain ⟨hpaths, hagain, hbase, htop⟩ := override_pathwise base horderly
  have hhidden := (hpaths [.name "debug", .name "since"]).1 [.name "debug"] (.bool true)
    (List.cons_ne_nil _ _) ⟨[.name "since"], rfl⟩ rfl rfl
  have hnumber : ∀ front value, front ≠ [] → front <+: [.int 1] → top.at? front = some value →
      value.isRecord = true := by
    intro front value hne hfront hvalue
    rcases List.prefix_cons_iff.mp hfront with rfl | ⟨_, rfl, hrest⟩
    · exact absurd rfl hne
    · obtain rfl := List.prefix_nil.mp hrest
      exact Option.some.inj hvalue ▸ rfl
  have hfilters : ∀ last, (∀ value, top.at? [.name "filters", last] = some value →
      value.isRecord = true) → ∀ front value, front ≠ [] → front <+: [.name "filters", last] →
        top.at? front = some value → value.isRecord = true := by
    intro last hlast front value hne hfront hvalue
    rcases List.prefix_cons_iff.mp hfront with rfl | ⟨_, rfl, hrest⟩
    · exact absurd rfl hne
    rcases List.prefix_cons_iff.mp hrest with rfl | ⟨_, rfl, hend⟩
    · exact Option.some.inj hvalue ▸ rfl
    · obtain rfl := List.prefix_nil.mp hend
      exact hlast value hvalue
  have hfeature := hfilters (.name "feature") fun value hvalue => Option.some.inj hvalue ▸ rfl
  have hkeywords := hfilters (.name "include_keywords") nofun
  exact ⟨horderly, ⟨rfl, rfl, hhidden.2 (by decide)⟩, ((hpaths _).2 hfeature).1 _ rfl,
    ((hpaths _).2 hnumber).1 _ rfl, ⟨((hpaths _).2 hkeywords).2 nofun, rfl⟩, hagain, hbase, htop⟩

end Fields

end QuerySieve
