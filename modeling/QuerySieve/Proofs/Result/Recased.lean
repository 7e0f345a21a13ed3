import QuerySieve.Proofs.Data.Fields
import QuerySieve.Proofs.License
import QuerySieve.Proofs.Query.Recased
import QuerySieve.Proofs.Result.Haystack
import QuerySieve.Result.Record

/-!
# Proofs/Result/Recased — what passes does not depend on the case of plain letters

A record whose texts are in another case makes a result whose texts are in another case, or fails in
the same way (`agree_ofFields`); the name of a well-known licence may come out the same in both.
The haystacks of the two results are one text, and the filters of a query in another case have the
same keywords, so the decision is the same (`passes?_recased`).
-/

namespace QuerySieve

/-! ## Fields found by name -/

namespace Fields

/-- **Fields that are related one by one** have related values under every name. -/
theorem rel_named? {S : Key × Data → Key × Data → Prop} {R : Data → Data → Prop} {name : String}
    (hkey : ∀ {f f'}, S f f' → f.1 = f'.1)
    (hvalue : ∀ {d d'}, S (.name name, d) (.name name, d') → R d d') {fields fields' : Fields}
    (h : List.Forall₂ S fields fields') :
    Option.Rel R (fields.named? name) (fields'.named? name) := by
  induction h with
  | nil => exact .none
  | @cons field field' _ _ hfield _ ih =>
    obtain ⟨key, d⟩ := field
    obtain ⟨key', d'⟩ := field'
    obtain rfl : key = key' := hkey hfield
    rw [named?, get?, named?, get?]
    by_cases hsame : key.same (.name name) = true
    · rw [if_pos hsame, if_pos hsame]
      obtain rfl := eq_name_of_same hsame
      exact .some (hvalue hfield)
    · rw [if_neg hsame, if_neg hsame]
      exact ih

end Fields

/-! ## Two attempts side by side -/

/-- Two attempts fail in the same way, or succeed with related values. -/
inductive Agree {ε α β : Type} (R : α → β → Prop) : Except ε α → Except ε β → Prop
  | error (e : ε) : Agree R (.error e) (.error e)
  | ok {x : α} {y : β} (h : R x y) : Agree R (.ok x) (.ok y)

namespace Agree

variable {ε α β γ δ : Type} {R : α → β → Prop} {S : γ → δ → Prop} {a : Except ε α} {b : Except ε β}

theorem refl {R : α → α → Prop} (hR : ∀ x, R x x) (a : Except ε α) : Agree R a a := by
  cases a with
  | error e => exact .error e
  | ok x => exact .ok (hR x)

theorem bind {f : α → Except ε γ} {g : β → Except ε δ} (h : Agree R a b)
    (hnext : ∀ {x y}, R x y → Agree S (f x) (g y)) : Agree S (a >>= f) (b >>= g) := by
  cases h with
  | error e => exact .error e
  | ok h => exact hnext h

theorem mapError {ε' : Type} {f : ε → ε'} (h : Agree R a b) :
    Agree R (a.mapError f) (b.mapError f) := by
  cases h with
  | error e => exact .error _
  | ok h => exact .ok h

theorem map_eq {f : α → γ} {g : β → γ} (h : Agree R a b) (hnext : ∀ {x y}, R x y → f x = g y) :
    a.map f = b.map g := by
  cases h with
  | error e => rfl
  | ok h => exact congrArg Except.ok (hnext h)

end Agree

/-! ## Values -/

/-- A value is the same, or a text in another case. -/
inductive Data.Recased : Data → Data → Prop
  | same (d : Data) : Recased d d
  | text {s t : String} (h : Text.Recased s t) : Recased (.text s) (.text t)

namespace Data.Recased

variable {d d' : Data}

theorem isTruthy_eq (h : d.Recased d') : d.isTruthy = d'.isTruthy := by
  cases h with
  | same => rfl
  | text h => rw [isTruthy, isTruthy, h.isEmpty_eq]

theorem plain (h : d.Recased d') (room : Nat) :
    Agree Text.Recased (d.plain room) (d'.plain room) := by
  cases h with
  | same => exact .refl .refl _
  | text h => exact .ok h

theorem rel_self : ∀ d : Option Data, Option.Rel Data.Recased d d
  | none => .none
  | some d => .some (.same d)

end Data.Recased

namespace Result

theorem rel_firstTruthy : ∀ {ds ds' : List (Option Data)},
    List.Forall₂ (Option.Rel Data.Recased) ds ds' →
      Option.Rel Data.Recased (firstTruthy ds) (firstTruthy ds')
  | _, _, .nil => .none
  | _, _, .cons .none hds => by
    rw [firstTruthy, firstTruthy]
    exact rel_firstTruthy hds
  | _, _, .cons (.some hd) hds => by
    rw [firstTruthy, firstTruthy, hd.isTruthy_eq]
    split
    · exact .some hd
    · exact rel_firstTruthy hds

theorem agree_textOf (room : Nat) {ds ds' : List (Option Data)}
    (h : List.Forall₂ (Option.Rel Data.Recased) ds ds') :
    Agree Text.Recased (textOf room ds) (textOf room ds') := by
  have hfirst := rel_firstTruthy h
  rw [textOf, textOf]
  generalize firstTruthy ds = d, firstTruthy ds' = d' at hfirst ⊢
  cases hfirst with
  | none => exact .ok (.refl "")
  | some h => exact (h.plain room).mapError

theorem agree_optionalText (name : String) {d d' : Option Data}
    (h : Option.Rel Data.Recased d d') :
    Agree (Option.Rel Text.Recased) (optionalText name d) (optionalText name d') := by
  cases h with
  | none => exact .ok .none
  | some h =>
    cases h with
    | text h => exact .ok (.some h)
    | same =>
      rename_i d
      cases d with
      | null => exact .ok .none
      | text s => exact .ok (.some (.refl s))
      | _ => exact .error _

/-! ## Records -/

/-- A field is the same, or a text under one of the names and in another case. -/
inductive TextRecased (names : List String) : Key × Data → Key × Data → Prop
  | same (field : Key × Data) : TextRecased names field field
  | text {name s t : String} (hname : name ∈ names) (h : Text.Recased s t) :
    TextRecased names (.name name, .text s) (.name name, .text t)

theorem TextRecased.key_eq {names : List String} {field field' : Key × Data}
    (h : TextRecased names field field') : field.1 = field'.1 := by
  cases h <;> rfl

theorem TextRecased.recased {names : List String} {key key' : Key} {d d' : Data}
    (h : TextRecased names (key, d) (key', d')) : d.Recased d' := by
  cases h with
  | same => exact .same d
  | text _ h => exact .text h

theorem TextRecased.eq_of_notMem {names : List String} {name : String} {d d' : Data}
    (h : TextRecased names (.name name, d) (.name name, d')) (hname : name ∉ names) : d = d' := by
  cases h with
  | same => rfl
  | text hmem => exact absurd hmem hname

/-- The names under which a record has a text that a keyword can match. -/
def textNames : List String := ["display_name", "displayName", "details_url", "detailsUrl",
  "thumbnail_url", "thumbnailUrl", "source", "license", "filename"]

/-- **A field of a record is the same but for the case of plain letters** in a text that a keyword
can match, which may be the name in the record of a licence. -/
inductive FieldRecased : Key × Data → Key × Data → Prop
  | text {field field' : Key × Data} (h : TextRecased textNames field field') :
    FieldRecased field field'
  | license {inner inner' : Fields} (h : List.Forall₂ (TextRecased ["name"]) inner inner') :
    FieldRecased (.name "license", .record inner) (.name "license", .record inner')

theorem FieldRecased.key_eq {field field' : Key × Data} (h : FieldRecased field field') :
    field.1 = field'.1 := by
  cases h with
  | text h => exact h.key_eq
  | license => rfl

theorem FieldRecased.textRecased {name : String} {d d' : Data}
    (h : FieldRecased (.name name, d) (.name name, d')) (hname : name ≠ "license") :
    TextRecased textNames (.name name, d) (.name name, d') := by
  cases h with
  | text h => exact h
  | license => exact absurd rfl hname

section Record

variable {fields fields' : Fields} (h : List.Forall₂ FieldRecased fields fields')

include h

/-- Under any name but that of the licence the two records have values that differ in case only. -/
theorem rel_named? (name : String) (hname : name ≠ "license") :
    Option.Rel Data.Recased (fields.named? name) (fields'.named? name) :=
  Fields.rel_named? FieldRecased.key_eq (fun h => (h.textRecased hname).recased) h

theorem rel_thumbnail : Option.Rel Data.Recased
    (match fields.named? "thumbnail_url" with
      | some d => some d | none => fields.named? "thumbnailUrl")
    (match fields'.named? "thumbnail_url" with
      | some d => some d | none => fields'.named? "thumbnailUrl") := by
  have hfirst := rel_named? h "thumbnail_url" (by decide)
  generalize fields.named? "thumbnail_url" = d, fields'.named? "thumbnail_url" = d' at hfirst ⊢
  cases hfirst with
  | none => exact rel_named? h _ (by decide)
  | some h => exact .some h

/-- The size is no text that a keyword can match, and is the same. -/
theorem named?_size_eq : fields.named? "size" = fields'.named? "size" := by
  have hrel : Option.Rel Eq (fields.named? "size") (fields'.named? "size") :=
    Fields.rel_named? FieldRecased.key_eq
      (fun h => (h.textRecased (by decide)).eq_of_notMem (by decide)) h
  generalize fields.named? "size" = d, fields'.named? "size" = d' at hrel ⊢
  cases hrel with
  | none => rfl
  | some h => rw [h]

theorem rel_licenseField :
    Option.Rel Data.Recased (licenseField fields) (licenseField fields') := by
  have hrel : Option.Rel (fun d d' => FieldRecased (.name "license", d) (.name "license", d'))
      (fields.named? "license") (fields'.named? "license") :=
    Fields.rel_named? FieldRecased.key_eq id h
  rw [licenseField, licenseField]
  generalize fields.named? "license" = d, fields'.named? "license" = d' at hrel ⊢
  cases hrel with
  | none => exact .none
  | some h =>
    -- the constructors cannot be told apart under a name that is spelled out
    generalize "license" = name at h
    cases h with
    | license h => exact Fields.rel_named? TextRecased.key_eq TextRecased.recased h
    | text h =>
      cases h with
      | text _ h => exact .some (.text h)
      | same => exact Data.Recased.rel_self _

theorem agree_fileOf (room : Nat) : Agree (Option.Rel fun f f' => Text.Recased f.name f'.name)
    (fileOf room fields) (fileOf room fields') := by
  have hname := rel_named? h "filename" (by decide)
  rw [fileOf, fileOf, named?_size_eq h]
  generalize fields.named? "filename" = d, fields'.named? "filename" = d' at hname ⊢
  cases hname with
  | none => exact .ok .none
  | some h =>
    refine (Agree.refl (fun _ => rfl) (sizeOf room (fields'.named? "size"))).bind fun {_ _} _ => ?_
    exact (agree_textOf room (.cons (.some h) .nil)).bind fun hname => .ok (.some hname)

end Record

/-! ## Results -/

theorem map_eq_of_rel {α β γ : Type} {R : α → β → Prop} {f : α → γ} {g : β → γ} {a : Option α}
    {b : Option β} (h : Option.Rel R a b) (hfg : ∀ {x y}, R x y → f x = g y) :
    a.map f = b.map g := by
  cases h with
  | none => rfl
  | some h => exact congrArg some (hfg h)

/-- **Two results have the same texts but for the case of plain letters.** Their licences may even
differ in more, as long as they add the same to a haystack. -/
structure Recased (r r' : Result) : Prop where
  displayName : Text.Recased r.displayName r'.displayName
  detailsUrl : Text.Recased r.detailsUrl r'.detailsUrl
  thumbnailUrl : Option.Rel Text.Recased r.thumbnailUrl r'.thumbnailUrl
  source : Option.Rel Text.Recased r.source r'.source
  license : r.license.smallNames = r'.license.smallNames
  file : Option.Rel (fun f f' => Text.Recased f.name f'.name) r.file r'.file

theorem smallNames_byName_eq {name name' : Option String} (h : Option.Rel Text.Recased name name') :
    (License.byName name).smallNames = (License.byName name').smallNames := by
  cases h with
  | none => rfl
  | some h => rw [License.smallNames_byName, License.smallNames_byName, h.tidy_eq]

/-- **Records that differ in case make results that do**, or fail in the same way. -/
theorem agree_ofFields (room : Nat) {fields fields' : Fields}
    (h : List.Forall₂ FieldRecased fields fields') :
    Agree Recased (ofFields room fields) (ofFields room fields') := by
  have hpair : ∀ name ≠ "license", ∀ name' ≠ "license", List.Forall₂ (Option.Rel Data.Recased)
      [fields.named? name, fields.named? name'] [fields'.named? name, fields'.named? name'] :=
    fun name hname name' hname' =>
      .cons (rel_named? h name hname) (.cons (rel_named? h name' hname') .nil)
  have hthumbnail := rel_thumbnail h
  have hdisplay := rel_firstTruthy (hpair "display_name" (by decide) "displayName" (by decide))
  have hdetails := agree_textOf room (hpair "details_url" (by decide) "detailsUrl" (by decide))
  rw [ofFields, ofFields]
  generalize firstTruthy [fields.named? "display_name", fields.named? "displayName"] = d,
    firstTruthy [fields'.named? "display_name", fields'.named? "displayName"] = d' at hdisplay ⊢
  cases hdisplay with
  | none => exact .error _
  | some hdisplay =>
    -- both records are read in the same order, so what fails first fails first in both
    refine (agree_textOf room (.cons (.some hdisplay) .nil)).bind fun hdisplay => ?_
    refine hdetails.bind fun hdetails => ?_
    refine (agree_optionalText _ hthumbnail).bind fun hthumbnail => ?_
    refine (agree_optionalText _ (rel_named? h _ (by decide))).bind fun hsource => ?_
    refine (agree_optionalText _ (rel_licenseField h)).bind fun hlicense => ?_
    refine (agree_fileOf h room).bind fun hfile => .ok ?_
    exact ⟨hdisplay, hdetails, hthumbnail, hsource, smallNames_byName_eq hlicense, hfile⟩

theorem map_lowerString_fields (r : Result) : r.fields.map Text.lowerString =
    (r.source.map Text.lowerString).toList ++ [Text.lowerString r.displayName] ++
      (r.file.map (Text.lowerString ·.name)).toList ++ [Text.lowerString r.detailsUrl] ++
      (r.thumbnailUrl.map Text.lowerString).toList ++ r.license.smallNames := by
  have hlicense : (if r.license = License.unknown then [] else [r.license.name]).map
      Text.lowerString = r.license.smallNames := by
    rw [License.smallNames]
    split <;> rfl
  simp only [fields, List.map_append, List.map_cons, List.map_nil, ← Option.toList_map,
    Option.map_map, hlicense]
  rfl

/-- **Results that differ in case have one haystack.** -/
theorem Recased.haystack_eq {r r' : Result} (h : r.Recased r') : r.haystack = r'.haystack := by
  have hsource := map_eq_of_rel h.source fun h => h.lowerString_eq
  have hfile := map_eq_of_rel h.file fun h => h.lowerString_eq
  have hthumbnail := map_eq_of_rel h.thumbnailUrl fun h => h.lowerString_eq
  rw [haystack_eq_intercalate, haystack_eq_intercalate, map_lowerString_fields,
    map_lowerString_fields, hsource, h.displayName.lowerString_eq, hfile,
    h.detailsUrl.lowerString_eq, hthumbnail, h.license]

/-- **The decision does not depend on the case of plain letters.** For a query and a record in
another case the filters are equal one by one, and the result of the record passes or does not as
before — unless there is none, and then for the same reason as before. -/
theorem passes?_recased {q q' : String} {fields fields' : Fields} (hquery : Text.Recased q q')
    (hfields : List.Forall₂ FieldRecased fields fields') (room : Nat) :
    List.Forall₂ (fun f f' => (f == f') = true) (Query.filters q) (Query.filters q') ∧
    (ofData room (.record fields)).map (Pipeline.passes? (Query.filters q)) =
      (ofData room (.record fields')).map (Pipeline.passes? (Query.filters q')) := by
  have hsense := Query.map_sense_filters_eq hquery
  constructor
  · exact (Text.map_eq_map_iff_forall₂.mp hsense).imp fun _ _ => Filter.beq_iff_sense_eq.mpr
  · refine (agree_ofFields room hfields).map_eq fun hr => ?_
    rw [Query.passes?_filters, Query.passes?_filters, hr.haystack_eq,
      Filter.anyAccepts_congr hsense]

/-- A well-known licence in small letters is found, and so is its own name. -/
theorem passes?_recased_macbeth :
    let license (name : String) : Key × Data :=
      (.name "license", .record [(.name "name", .text name)])
    let fields : Fields := [(.name "displayName", .text "Macbeth"), license "cc by 4.0"]
    let fields' : Fields := [(.name "displayName", .text "macBETH"), license "CC BY 4.0"]
    Text.Recased "-:keyword:by" "-:KEYword:bY" ∧ List.Forall₂ FieldRecased fields fields' ∧
      List.Forall₂ (fun f f' => (f == f') = true)
        (Query.filters "-:keyword:by") (Query.filters "-:KEYword:bY") ∧
      (ofData 0 (.record fields)).map (Pipeline.passes? (Query.filters "-:keyword:by")) =
        (ofData 0 (.record fields')).map (Pipeline.passes? (Query.filters "-:KEYword:bY")) := by
  intro license fields fields'
  have hquery : Text.Recased "-:keyword:by" "-:KEYword:bY" := by decide
  have hname : Text.Recased "Macbeth" "macBETH" := by decide
  have hlicense : Text.Recased "cc by 4.0" "CC BY 4.0" := by decide
  have hmem : "displayName" ∈ textNames := by decide
  have hfields : List.Forall₂ FieldRecased fields fields' :=
    .cons (.text (.text hmem hname))
      (.cons (.license (.cons (.text List.mem_cons_self hlicense) .nil)) .nil)
  exact ⟨hquery, hfields, passes?_recased hquery hfields 0⟩

end Result

end QuerySieve
