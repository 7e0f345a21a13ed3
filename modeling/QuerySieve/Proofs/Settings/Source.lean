import QuerySieve.Proofs.Data.Merge
import QuerySieve.Settings.Record
import QuerySieve.Settings.Source

/-!
# Proofs/Settings/Source — what variables and arguments say, and the record that then counts

Of each setting the arguments say one value or none, and so do the variables (`Settings.said?`).
The record that counts (`Settings.Ranked`) has what is said in its place, and beside that what the
file has.  Putting in one more value leads from such a record to another one, so putting in all that
is said leads to one from the file (`Ranked.puts`); and what the variables say, or the arguments, is
such a record over no file at all.
-/

namespace QuerySieve

namespace Setting

variable {s s' : Setting} {fields : Fields} {name : String}

/-! ## The places of settings -/

theorem inner?_cases (s : Setting) : s.inner? = none ∨ s.inner? = some "filters" := by
  cases s <;> simp [inner?]

theorem field_injective (h : s.field = s'.field) : s = s' := by
  revert h
  cases s <;> cases s' <;> simp [field]

theorem field_ne_filters (s : Setting) : s.field ≠ "filters" := by
  cases s <;> simp [field]

/-- The names that variables and arguments can speak of, from outside. -/
def outerNames : List String := ["filters", "verbose", "debug", "log_level"]

theorem filters_mem_outerNames : "filters" ∈ outerNames := List.mem_cons_self

theorem field_mem_outerNames (h : s.inner? = none) : s.field ∈ outerNames := by
  cases s <;> simp_all [inner?, field, outerNames]

theorem field_mem_names (h : s.inner? = some "filters") : s.field ∈ FilterSettings.names := by
  cases s <;> simp_all [inner?, field, FilterSettings.names]

theorem put_of_outer (h : s.inner? = none) (value : Data) :
    s.put fields value = Fields.put fields (.name s.field) value := by
  rw [put, h]

theorem put_of_inner (h : s.inner? = some name) (value : Data) :
    s.put fields value = Fields.put fields (.name name)
      (.record (Fields.put (fields.inside name) (.name s.field) value)) := by
  rw [put, h]
  rfl

/-! ## The names of arguments -/

/-- **The names of the arguments that speak of a setting.** -/
def argumentNames : Setting → List String
  | included => ["include", "include_keywords"]
  | excluded => ["exclude", "exclude_keywords"]
  | feature => ["feature"]
  | verbose => ["verbose"]
  | debug => ["debug"]
  | level => ["log_level"]

theorem find?_all_eq_some_iff : all.find? (·.field == name) = some s ↔ s.field = name := by
  constructor
  · intro h
    have hname := List.find?_some h
    exact beq_iff_eq.mp hname
  · rintro rfl
    cases s <;> rfl

theorem ofArgument?_eq_some_iff : ofArgument? name = some s ↔ name ∈ s.argumentNames := by
  unfold ofArgument?
  split
  · cases s <;> simp [argumentNames]
  · cases s <;> simp [argumentNames]
  · rename_i hinclude hexclude
    have hinclude : name ≠ "include" := hinclude
    have hexclude : name ≠ "exclude" := hexclude
    rw [find?_all_eq_some_iff, eq_comm]
    cases s <;> simp [argumentNames, field, hinclude, hexclude]

end Setting

namespace Settings

open Setting (outerNames)

/-! ## What is said of a setting -/

/-- The value, unless it is nothing. -/
def given? : Data → Option Data
  | .null => none
  | d => some d

/-- **What the arguments say of a setting**: the last value under one of its names that is not
nothing. -/
def argued? (arguments : List (String × Data)) (s : Setting) : Option Data :=
  (arguments.filterMap fun (name, value) =>
    if name ∈ s.argumentNames then given? value else none).getLast?

/-- **What a variable says of a setting**, even if it is empty. -/
def exported? (start : String) (lookup : String → Option String) (s : Setting) : Option Data :=
  (lookup (start ++ s.variableEnd)).map (ofVariable s)

/-- **What is said of a setting**: what the arguments say, or else what its variable does. -/
def said? (start : String) (lookup : String → Option String) (arguments : List (String × Data))
    (s : Setting) : Option Data :=
  (argued? arguments s).or (exported? start lookup s)

end Settings

/-! ## The record that counts -/

/-- **The inner record that counts**: a setting has what is said of it, or else what it had, and the
other fields are those that were there. -/
structure FilterSettings.Ranked (said : Setting → Option Data) (base fields : Fields) : Prop where
  value : ∀ s : Setting, s.inner? = some "filters" →
    fields.named? s.field = (said s).or (base.named? s.field)
  beside : fields.beside FilterSettings.names = base.beside FilterSettings.names

/-- **The record that counts**: a setting has what is said of it, or else what it has in the file,
and the other fields are those of the file. What the file has for the filters is kept as it is unless
something is said of a setting inside; if it is no record, that setting makes a new one. -/
structure Settings.Ranked (said : Setting → Option Data) (file fields : Fields) : Prop where
  outside : ∀ s : Setting, s.inner? = none →
    fields.named? s.field = (said s).or (file.named? s.field)
  silent : (∀ s : Setting, s.inner? = some "filters" → said s = none) →
    fields.named? "filters" = file.named? "filters"
  inside : ∀ s : Setting, s.inner? = some "filters" → said s ≠ none →
    ∃ inner, fields.named? "filters" = some (.record inner) ∧
      FilterSettings.Ranked said (file.inside "filters") inner
  beside : fields.beside Setting.outerNames = file.beside Setting.outerNames

/-- What is said of settings, with one more value. -/
def Setting.saying (s : Setting) (value : Data) (said : Setting → Option Data) :
    Setting → Option Data :=
  Function.update said s (some value)

namespace Setting

variable {s s' : Setting} {value : Data} {said : Setting → Option Data}

theorem saying_self : s.saying value said s = some value := Function.update_self ..

theorem saying_of_ne (h : s' ≠ s) : s.saying value said s' = said s' := Function.update_of_ne h ..

end Setting

theorem FilterSettings.Ranked.put {said : Setting → Option Data} {base fields : Fields}
    (h : FilterSettings.Ranked said base fields) {s : Setting} (hs : s.inner? = some "filters")
    (value : Data) :
    FilterSettings.Ranked (s.saying value said) base (fields.put (.name s.field) value) where
  value s' hs' := by
    rw [Fields.named?_put]
    by_cases heq : s' = s
    · subst heq
      rw [if_pos rfl, Setting.saying_self]
      rfl
    · rw [if_neg fun hfield => heq (Setting.field_injective hfield).symm, Setting.saying_of_ne heq]
      exact h.value s' hs'
  beside := (Fields.beside_put (Setting.field_mem_names hs) value).trans h.beside

namespace Settings.Ranked

variable {said : Setting → Option Data} {file fields : Fields}

theorem refl (file : Fields) : Ranked (fun _ => none) file file where
  outside _ _ := rfl
  silent _ := rfl
  inside _ _ h := absurd rfl h
  beside := rfl

/-- The filters of the record that counts are an inner record that counts. -/
theorem ranked_inside (h : Ranked said file fields) :
    FilterSettings.Ranked said (file.inside "filters") (fields.inside "filters") := by
  by_cases hsilent : ∀ s : Setting, s.inner? = some "filters" → said s = none
  · rw [Fields.inside_congr (h.silent hsilent)]
    exact ⟨fun s hs => by rw [hsilent s hs, Option.none_or], rfl⟩
  · push Not at hsilent
    obtain ⟨s, hs, hsaid⟩ := hsilent
    obtain ⟨inner, hinner, hranked⟩ := h.inside s hs hsaid
    rwa [Fields.inside_eq hinner]

theorem put_outer (h : Ranked said file fields) {s : Setting} (hs : s.inner? = none)
    (value : Data) : Ranked (s.saying value said) file (s.put fields value) := by
  have hsame : ∀ s' : Setting, s'.inner? = some "filters" → s.saying value said s' = said s' := by
    intro s' hs'
    refine Setting.saying_of_ne ?_
    rintro rfl
    exact Option.some_ne_none _ (hs'.symm.trans hs)
  have hfilters : (s.put fields value).named? "filters" = fields.named? "filters" := by
    rw [Setting.put_of_outer hs, Fields.named?_put, if_neg s.field_ne_filters]
  refine ⟨fun s' hs' => ?_, fun hsilent => ?_, fun s' hs' hsaid => ?_, ?_⟩
  · rw [Setting.put_of_outer hs, Fields.named?_put]
    by_cases heq : s' = s
    · rw [heq, if_pos rfl, Setting.saying_self]
      rfl
    · rw [if_neg fun hfield => heq (Setting.field_injective hfield).symm, Setting.saying_of_ne heq]
      exact h.outside s' hs'
  · rw [hfilters]
    exact h.silent fun s' hs' => (hsame s' hs').symm.trans (hsilent s' hs')
  · obtain ⟨inner, hinner, hvalue, hbeside⟩ := h.inside s' hs' (hsame s' hs' ▸ hsaid)
    refine ⟨inner, hfilters.trans hinner, fun s'' hs'' => ?_, hbeside⟩
    rw [hsame s'' hs'']
    exact hvalue s'' hs''
  · rw [Setting.put_of_outer hs, Fields.beside_put (Setting.field_mem_outerNames hs)]
    exact h.beside

theorem put_inner (h : Ranked said file fields) {s : Setting} (hs : s.inner? = some "filters")
    (value : Data) : Ranked (s.saying value said) file (s.put fields value) := by
  rw [Setting.put_of_inner hs]
  refine ⟨fun s' hs' => ?_, fun hsilent => ?_, fun s' hs' hsaid => ?_, ?_⟩
  · have hne : s' ≠ s := by
      rintro rfl
      exact Option.some_ne_none _ (hs.symm.trans hs')
    rw [Fields.named?_put, if_neg (Ne.symm s'.field_ne_filters), Setting.saying_of_ne hne]
    exact h.outside s' hs'
  · exact absurd (Setting.saying_self.symm.trans (hsilent s hs)) (Option.some_ne_none _)
  · rw [Fields.named?_put, if_pos rfl]
    exact ⟨_, rfl, h.ranked_inside.put hs value⟩
  · rw [Fields.beside_put Setting.filters_mem_outerNames]
    exact h.beside

/-- **One more value that is said leads to another record that counts.** -/
theorem put (h : Ranked said file fields) (s : Setting) (value : Data) :
    Ranked (s.saying value said) file (s.put fields value) :=
  s.inner?_cases.elim (fun hs => h.put_outer hs value) fun hs => h.put_inner hs value

end Settings.Ranked

/-! ## All that is said, one after the other -/

namespace Settings

variable {said : Setting → Option Data} {file fields : Fields}

/-- The record with values for some settings put in, one after the other. -/
def puts (fields : Fields) (pairs : List (Setting × Data)) : Fields :=
  pairs.foldl (fun fields p => p.1.put fields p.2) fields

/-- The last value for a setting. -/
def lastOf? (pairs : List (Setting × Data)) (s : Setting) : Option Data :=
  (pairs.filterMap fun p => if p.1 = s then some p.2 else none).getLast?

theorem lastOf?_cons (p : Setting × Data) (pairs : List (Setting × Data)) (s : Setting) :
    lastOf? (p :: pairs) s = (lastOf? pairs s).or (if p.1 = s then some p.2 else none) := by
  rw [lastOf?, lastOf?, List.filterMap_cons]
  by_cases h : p.1 = s
  · simp only [if_pos h, List.getLast?_cons]
    cases List.getLast? _ <;> rfl
  · simp only [if_neg h, Option.or_none]

/-- **Putting in all that is said leads to the record that counts.** -/
theorem Ranked.puts (h : Ranked said file fields) (pairs : List (Setting × Data)) :
    Ranked (fun s => (lastOf? pairs s).or (said s)) file (puts fields pairs) := by
  -- what is put in first is said before, so that all that follows counts before it
  induction pairs generalizing said fields with
  | nil => exact h
  | cons p pairs ih =>
    have hsaid : (fun s => (lastOf? (p :: pairs) s).or (said s)) =
        fun s => (lastOf? pairs s).or (p.1.saying p.2 said s) := by
      funext s
      rw [lastOf?_cons, Option.or_assoc]
      congr 1
      by_cases heq : s = p.1
      · rw [heq, if_pos rfl, Setting.saying_self]
        rfl
      · rw [if_neg (Ne.symm heq), Setting.saying_of_ne heq, Option.none_or]
    rw [hsaid]
    exact ih (h.put p.1 p.2)

/-! ## Variables and arguments by themselves -/

/-- The setting that an argument speaks of, and what it says. -/
def spoken? (argument : String × Data) : Option (Setting × Data) :=
  (given? argument.2).bind fun value =>
    (Setting.ofArgument? argument.1).map fun s => (s, value)

theorem ofArguments_eq_puts (arguments : List (String × Data)) :
    ofArguments arguments = puts [] (arguments.filterMap spoken?) := by
  rw [puts, List.foldl_filterMap, ofArguments]
  congr 1
  funext fields ⟨name, value⟩
  cases h : Setting.ofArgument? name <;> cases value <;> simp [spoken?, given?, h]

theorem lastOf?_spoken? (arguments : List (String × Data)) (s : Setting) :
    lastOf? (arguments.filterMap spoken?) s = argued? arguments s := by
  rw [lastOf?, List.filterMap_filterMap, argued?]
  congr 2
  funext ⟨name, value⟩
  simp only [spoken?, ← Setting.ofArgument?_eq_some_iff]
  cases given? value <;> cases Setting.ofArgument? name <;> simp

theorem ofVariables_eq_puts (start : String) (lookup : String → Option String) :
    ofVariables start lookup = puts [] (Setting.all.filterMap fun s =>
      (exported? start lookup s).map fun value => (s, value)) := by
  rw [puts, List.foldl_filterMap, ofVariables]
  congr 1
  funext fields s
  rw [exported?]
  cases lookup (start ++ s.variableEnd) <;> rfl

theorem lastOf?_all (value? : Setting → Option Data) (s : Setting) :
    lastOf? (Setting.all.filterMap fun s => (value? s).map fun value => (s, value)) s =
      value? s := by
  have hvalue : (fun s' => ((value? s').map fun value => (s', value)).bind fun p =>
      if p.1 = s then some p.2 else none) = fun s' => if s' = s then value? s else none := by
    funext s'
    by_cases heq : s' = s
    · rw [heq, if_pos rfl]
      cases value? s <;> simp
    · rw [if_neg heq]
      cases value? s' <;> simp [heq]
  rw [lastOf?, List.filterMap_filterMap, hvalue]
  cases value? s with
  | none => simp
  | some value => cases s <;> rfl

/-- **Putting in what is said of each setting leads to a record that counts.** -/
theorem ranked_puts_all (said : Setting → Option Data) (file : Fields) :
    Ranked said file (puts file (Setting.all.filterMap fun s =>
      (said s).map fun value => (s, value))) := by
  have h := (Ranked.refl file).puts (Setting.all.filterMap fun s =>
    (said s).map fun value => (s, value))
  simp only [lastOf?_all, Option.or_none] at h
  exact h

/-- **There is a record that counts**, whatever is said. -/
theorem exists_ranked (said : Setting → Option Data) (file : Fields) :
    ∃ fields, Ranked said file fields := ⟨_, ranked_puts_all said file⟩

/-- **What the arguments say is a record that counts over no file.** -/
theorem ranked_ofArguments (arguments : List (String × Data)) :
    Ranked (argued? arguments) [] (ofArguments arguments) := by
  have h := (Ranked.refl []).puts (arguments.filterMap spoken?)
  simp only [lastOf?_spoken?, Option.or_none] at h
  rwa [ofArguments_eq_puts]

theorem ranked_ofVariables (start : String) (lookup : String → Option String) :
    Ranked (exported? start lookup) [] (ofVariables start lookup) := by
  rw [ofVariables_eq_puts]
  exact ranked_puts_all _ []

/-- Neither the record nor the filters in it have a key twice. -/
structure Tidy (fields : Fields) : Prop where
  outer : fields.Distinct
  inner : (fields.inside "filters").Distinct

theorem Tidy.put (h : Tidy fields) (s : Setting) (value : Data) : Tidy (s.put fields value) := by
  rcases s.inner?_cases with hs | hs
  · rw [Setting.put_of_outer hs]
    refine ⟨h.outer.put _ _, ?_⟩
    rw [Fields.inside_congr (Fields.named?_put.trans (if_neg s.field_ne_filters))]
    exact h.inner
  · rw [Setting.put_of_inner hs]
    refine ⟨h.outer.put _ _, ?_⟩
    rw [Fields.inside_eq (Fields.named?_put.trans (if_pos rfl))]
    exact h.inner.put _ _

theorem tidy_puts (pairs : List (Setting × Data)) : Tidy (puts [] pairs) := by
  have htidy : ∀ (pairs : List (Setting × Data)) (fields : Fields), Tidy fields →
      Tidy (puts fields pairs) := by
    intro pairs
    induction pairs with
    | nil => exact fun _ h => h
    | cons p pairs ih => exact fun fields h => ih _ (h.put p.1 p.2)
  exact htidy pairs [] ⟨Fields.distinct_nil, Fields.distinct_nil⟩

theorem tidy_ofArguments (arguments : List (String × Data)) : Tidy (ofArguments arguments) :=
  ofArguments_eq_puts arguments ▸ tidy_puts _

theorem tidy_ofVariables (start : String) (lookup : String → Option String) :
    Tidy (ofVariables start lookup) :=
  ofVariables_eq_puts start lookup ▸ tidy_puts _

end Settings

end QuerySieve
