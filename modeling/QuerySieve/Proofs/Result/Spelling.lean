import QuerySieve.Proofs.Data.Fields
import QuerySieve.Proofs.Result.Archive

/-!
# Proofs/Result/Spelling — underscores and capitals inside a name mean the same

Three fields of a record have a name in two spellings (`Spelled`).  Writing any of them in the other
spelling moves what stands under its first name to its second (`named?_respell_pair`) and leaves all
other fields alone (`named?_respell_of_notMem`).  What is read of a record is the same for both, as
each of the three is looked for under either name, so the record makes the same result or fails in
the same way (`ofData_respell`).
-/

namespace QuerySieve.Result

/-! ## Two spellings -/

/-- A field whose name has two spellings. -/
inductive Spelled where
  | displayName
  | detailsUrl
  | thumbnailUrl
  deriving DecidableEq, Repr

namespace Spelled

/-- All fields with two spellings. -/
def all : List Spelled := [displayName, detailsUrl, thumbnailUrl]

/-- The name with underscores. -/
def plain : Spelled → String
  | displayName => "display_name"
  | detailsUrl => "details_url"
  | thumbnailUrl => "thumbnail_url"

/-- The name with capitals inside. -/
def capital : Spelled → String
  | displayName => "displayName"
  | detailsUrl => "detailsUrl"
  | thumbnailUrl => "thumbnailUrl"

/-- All names in both spellings. -/
def names : List String := all.map plain ++ all.map capital

/-- The field that a name with underscores stands for. -/
def ofPlain? (name : String) : Option Spelled := all.find? fun f => f.plain == name

theorem ofPlain?_plain (f : Spelled) : ofPlain? f.plain = some f := by cases f <;> decide

theorem plain_of_ofPlain? {name : String} {f : Spelled} (h : ofPlain? name = some f) :
    f.plain = name := by
  rw [ofPlain?] at h
  have hfound := List.find?_some h
  exact beq_iff_eq.mp hfound

theorem plain_injective {f g : Spelled} (h : f.plain = g.plain) : f = g :=
  Option.some.inj ((ofPlain?_plain f).symm.trans (h ▸ ofPlain?_plain g))

theorem capital_injective {f g : Spelled} (h : f.capital = g.capital) : f = g := by
  cases f <;> cases g <;> simp_all [capital]

theorem plain_ne_capital (f g : Spelled) : f.plain ≠ g.capital := by
  cases f <;> cases g <;> decide

theorem plain_mem_names (f : Spelled) : f.plain ∈ names := by cases f <;> decide

theorem capital_mem_names (f : Spelled) : f.capital ∈ names := by cases f <;> decide

end Spelled

variable {chosen : Spelled → Bool} {fields : Fields} {name other : String}

/-- A name in its other spelling, if it is one of those that are chosen. -/
def respellName (chosen : Spelled → Bool) (name : String) : String :=
  match Spelled.ofPlain? name with
  | some f => if chosen f then f.capital else name
  | none => name

/-- A key in its other spelling, if it is one of the names that are chosen. -/
def respellKey (chosen : Spelled → Bool) : Key → Key
  | .name s => .name (respellName chosen s)
  | key => key

/-- **The record with the chosen names in their other spelling.** -/
def respell (chosen : Spelled → Bool) (fields : Fields) : Fields :=
  fields.map fun field => (respellKey chosen field.1, field.2)

/-- **The record has none of the names with capitals inside.** -/
def Underscored (fields : Fields) : Prop :=
  ∀ f : Spelled, ∀ field ∈ fields, field.1 ≠ .name f.capital

/-! ## Names -/

theorem respellName_plain (f : Spelled) :
    respellName chosen f.plain = if chosen f then f.capital else f.plain := by
  rw [respellName, Spelled.ofPlain?_plain]

theorem respellName_of_ne (h : ∀ f : Spelled, name ≠ f.plain) :
    respellName chosen name = name := by
  rw [respellName]
  cases hname : Spelled.ofPlain? name with
  | none => rfl
  | some f => exact absurd (Spelled.plain_of_ofPlain? hname).symm (h f)

/-- A name gets capitals inside, or stays as it is. -/
theorem respellName_cases (chosen : Spelled → Bool) (name : String) :
    (∃ f, chosen f = true ∧ name = f.plain ∧ respellName chosen name = f.capital) ∨
      respellName chosen name = name ∧ ∀ f, chosen f = true → name ≠ f.plain := by
  by_cases hplain : ∃ f : Spelled, name = f.plain
  · obtain ⟨f, rfl⟩ := hplain
    rw [respellName_plain]
    by_cases hf : chosen f = true
    · rw [if_pos hf]
      exact .inl ⟨f, hf, rfl, rfl⟩
    · rw [if_neg hf]
      exact .inr ⟨rfl, fun g hg h => hf (Spelled.plain_injective h ▸ hg)⟩
  · exact .inr ⟨respellName_of_ne (not_exists.mp hplain), fun f _ h => hplain ⟨f, h⟩⟩

/-- **No two names come to be one** if neither had capitals inside before. -/
theorem respellName_injective (hname : ∀ f : Spelled, name ≠ f.capital)
    (hother : ∀ f : Spelled, other ≠ f.capital)
    (h : respellName chosen name = respellName chosen other) : name = other := by
  rcases respellName_cases chosen name with ⟨f, -, rfl, hf⟩ | ⟨hstays, -⟩ <;>
    rcases respellName_cases chosen other with ⟨g, -, rfl, hg⟩ | ⟨hstays', -⟩
  · rw [Spelled.capital_injective (hf.symm.trans (h.trans hg))]
  · exact absurd (hstays'.symm.trans (h.symm.trans hf)) (hother f)
  · exact absurd (hstays.symm.trans (h.trans hg)) (hname g)
  · exact hstays.symm.trans (h.trans hstays')

/-! ## What is found in either spelling -/

theorem respellKey_eq_name_iff {key : Key} : respellKey chosen key = .name other ↔
    ∃ s, key = .name s ∧ respellName chosen s = other := by
  cases key <;> simp [respellKey]

section Underscored

variable (h : Underscored fields)

include h

/-- **What stands under a name is found under the name it is spelled as.** -/
theorem named?_respell (hname : ∀ f : Spelled, name ≠ f.capital) :
    (respell chosen fields).named? (respellName chosen name) = fields.named? name := by
  refine Fields.named?_map_key fun field hfield => ?_
  rw [respellKey_eq_name_iff]
  constructor
  · rintro ⟨s, hs, hsame⟩
    have hplain : ∀ f : Spelled, s ≠ f.capital := fun f hf => h f field hfield (hf ▸ hs)
    rw [hs, respellName_injective hplain hname hsame]
  · intro hs
    exact ⟨name, hs, rfl⟩

/-- A field that is spelled in one way is not found in the other. -/
theorem named?_respell_eq_none (f : Spelled) :
    (respell chosen fields).named? (if chosen f then f.plain else f.capital) = none := by
  refine Fields.named?_eq_none fun field hfield hname => ?_
  obtain ⟨⟨key, value⟩, hmem, rfl⟩ := List.mem_map.mp hfield
  obtain ⟨s, rfl, hs⟩ := respellKey_eq_name_iff.mp hname
  -- the name got its capitals here, or it stands as it stood in the record
  rcases respellName_cases chosen s with ⟨g, hg, rfl, hcapital⟩ | ⟨hstays, hnot⟩
  · rw [hcapital] at hs
    split at hs
    · exact Spelled.plain_ne_capital f g hs.symm
    · rename_i hf
      exact hf (Spelled.capital_injective hs ▸ hg)
  · rw [hstays] at hs
    split at hs
    · rename_i hf
      exact hnot f hf hs
    · exact h f _ hmem (congrArg Key.name hs)

/-- **A field with two spellings is found under just one of them.** -/
theorem named?_respell_pair (chosen : Spelled → Bool) (f : Spelled) :
    (respell chosen fields).named? f.plain = fields.named? f.plain ∧
        (respell chosen fields).named? f.capital = none ∨
      (respell chosen fields).named? f.plain = none ∧
        (respell chosen fields).named? f.capital = fields.named? f.plain := by
  have hfound : (respell chosen fields).named? (respellName chosen f.plain) =
      fields.named? f.plain := named?_respell h (Spelled.plain_ne_capital f)
  have hnone : (respell chosen fields).named? (if chosen f then f.plain else f.capital) = none :=
    named?_respell_eq_none h f
  rw [respellName_plain] at hfound
  by_cases hf : chosen f = true
  · rw [if_pos hf] at hfound hnone
    exact .inr ⟨hnone, hfound⟩
  · rw [if_neg hf] at hfound hnone
    exact .inl ⟨hfound, hnone⟩

/-- All other names are found as before. -/
theorem named?_respell_of_notMem (chosen : Spelled → Bool) (name : String)
    (hname : name ∉ Spelled.names) :
    (respell chosen fields).named? name = fields.named? name := by
  have hplain : ∀ f : Spelled, name ≠ f.plain := fun f hf => hname (hf ▸ f.plain_mem_names)
  have hcapital : ∀ f : Spelled, name ≠ f.capital := fun f hf => hname (hf ▸ f.capital_mem_names)
  have hfound : (respell chosen fields).named? (respellName chosen name) = fields.named? name :=
    named?_respell h hcapital
  rwa [respellName_of_ne hplain] at hfound

/-! ## What is read of a record -/

theorem firstTruthy_respell (chosen : Spelled → Bool) (f : Spelled) :
    firstTruthy [(respell chosen fields).named? f.plain, (respell chosen fields).named? f.capital] =
      firstTruthy [fields.named? f.plain, fields.named? f.capital] := by
  rw [Fields.named?_eq_none (h f)]
  rcases named?_respell_pair h chosen f with ⟨hplain, hcapital⟩ | ⟨hplain, hcapital⟩
  · rw [hplain, hcapital]
  · rw [hplain, hcapital]
    cases fields.named? f.plain <;> rfl

theorem or_respell (chosen : Spelled → Bool) (f : Spelled) :
    ((respell chosen fields).named? f.plain).or ((respell chosen fields).named? f.capital) =
      (fields.named? f.plain).or (fields.named? f.capital) := by
  rw [Fields.named?_eq_none (h f)]
  rcases named?_respell_pair h chosen f with ⟨hplain, hcapital⟩ | ⟨hplain, hcapital⟩
  · rw [hplain, hcapital]
  · rw [hplain, hcapital, Option.none_or, Option.or_none]

theorem thumbnailField_respell (chosen : Spelled → Bool) :
    thumbnailField (respell chosen fields) = thumbnailField fields := by
  have heither : ∀ fields : Fields, thumbnailField fields =
      (fields.named? "thumbnail_url").or (fields.named? "thumbnailUrl") := fun fields => by
    rw [thumbnailField]
    cases fields.named? "thumbnail_url" <;> rfl
  rw [heither, heither]
  exact or_respell h chosen .thumbnailUrl

theorem licenseField_respell (chosen : Spelled → Bool) :
    licenseField (respell chosen fields) = licenseField fields := by
  rw [licenseField, licenseField, named?_respell_of_notMem h chosen "license" (by decide)]

theorem fileOf_respell (chosen : Spelled → Bool) (room : Nat) :
    fileOf room (respell chosen fields) = fileOf room fields := by
  have hname := named?_respell_of_notMem h chosen "filename" (by decide)
  have hsize := named?_respell_of_notMem h chosen "size" (by decide)
  rw [fileOf, fileOf, hname, hsize]

theorem ofFields_respell (chosen : Spelled → Bool) (room : Nat) :
    ofFields room (respell chosen fields) = ofFields room fields := by
  have hdisplay := firstTruthy_respell h chosen .displayName
  have hdetails : textOf room [(respell chosen fields).named? "details_url",
      (respell chosen fields).named? "detailsUrl"] =
        textOf room [fields.named? "details_url", fields.named? "detailsUrl"] := by
    have hfirst := firstTruthy_respell h chosen .detailsUrl
    dsimp only [Spelled.plain, Spelled.capital] at hfirst
    rw [textOf, textOf, hfirst]
  have hthumbnail := thumbnailField_respell h chosen
  have hsource := named?_respell_of_notMem h chosen "source" (by decide)
  have hlicense := licenseField_respell h chosen
  have hfile := fileOf_respell h chosen room
  dsimp only [Spelled.plain, Spelled.capital] at hdisplay
  rw [ofFields, ofFields, hdisplay, hdetails, hsource, hlicense, hfile]
  -- the picture's field is unfolded in `ofFields`, where no rewriting finds it
  cases firstTruthy [fields.named? "display_name", fields.named? "displayName"] with
  | none => rfl
  | some displayName =>
    refine congrArg (textOf room [some displayName] >>= ·) (funext fun _ => ?_)
    refine congrArg (textOf room _ >>= ·) (funext fun _ => ?_)
    exact congrArg (optionalText "thumbnail_url" · >>= _) hthumbnail

/-- **Records that differ in how their names are spelled mean the same.** Whichever of the three names
are written with capitals instead of underscores, the record makes the same result, or fails in the
same way. -/
theorem ofData_respell (chosen : Spelled → Bool) (room : Nat) :
    ofData room (.record (respell chosen fields)) = ofData room (.record fields) :=
  ofFields_respell h chosen room

end Underscored

/-- The picture is nothing under either name, and what is wrong with the source is still told. -/
theorem ofData_respell_lear :
    let fields : Fields := [(.name "thumbnail_url", .null), (.name "source", .bool true),
      (.name "display_name", .text "Lear"), (.name "details_url", .list [])]
    let chosen (f : Spelled) : Bool := f = .displayName ∨ f = .thumbnailUrl
    Underscored fields ∧
      respell chosen fields = [(.name "thumbnailUrl", .null), (.name "source", .bool true),
        (.name "displayName", .text "Lear"), (.name "details_url", .list [])] ∧
      ofData 0 (.record (respell chosen fields)) = ofData 0 (.record fields) ∧
      ofData 0 (.record fields) = .error (refusal .fieldKind
        "Search result 'source' must be a string, got bool" (some "source") none) := by
  intro fields chosen
  have hfields : Underscored fields := fun f => by cases f <;> decide
  exact ⟨hfields, rfl, ofData_respell hfields chosen 0, rfl⟩

end QuerySieve.Result
