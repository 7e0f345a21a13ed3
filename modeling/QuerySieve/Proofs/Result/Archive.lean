import QuerySieve.Proofs.Failure
import QuerySieve.Result.Archive

/-!
# Proofs/Result/Archive — in what ways reading results breaks down

What is wrong with a file of results is reported, but for a place that no file can have, for numbers
and nestings that the notation has no room for, and for an entry that breaks down.  A record breaks
down where a value stands for a text and cannot be shown — a number with too many digits, or values
too deep inside one another — and where its size is infinite (`Result.Breaks`).  That is seen only if
all entries before the record, and all fields that are looked at before, are right.
-/

namespace QuerySieve

namespace Result

variable {fields : Fields} {room : Nat} {ds : List (Option Data)}

/-! ## A single record -/

/-- The field is left out, holds nothing, or holds a text. -/
def HoldsText? (d : Option Data) : Prop := ∀ v, d = some v → v = .null ∨ ∃ s, v = .text s

/-- The picture of a record, under either of its names. -/
def thumbnailField (fields : Fields) : Option Data :=
  match fields.named? "thumbnail_url" with
  | some d => some d
  | none => fields.named? "thumbnailUrl"

/-- The names of a result in a record, and the places of its details. -/
def displayNames (fields : Fields) : List (Option Data) :=
  [fields.named? "display_name", fields.named? "displayName"]

@[inherit_doc displayNames]
def detailsUrls (fields : Fields) : List (Option Data) :=
  [fields.named? "details_url", fields.named? "detailsUrl"]

/-- **What stands for a text cannot be shown.** -/
def Unshown (room : Nat) (ds : List (Option Data)) (b : Breakdown) : Prop :=
  ∃ d fault, firstTruthy ds = some d ∧ d.plain room = .error fault ∧ b = .ofShowing fault

/-- What stands for a text can be shown, or there is none. -/
def Shown (room : Nat) (ds : List (Option Data)) : Prop :=
  ∀ d, firstTruthy ds = some d → ∃ s, d.plain room = .ok s

/-- The value is no number, and no text that writes a whole one. -/
def isNoSize : Data → Bool
  | .null | .bool _ | .int _ => false
  | .float x => x == .nan
  | .text s => (Text.readInteger? s).isNone
  | _ => true

/-- **In what ways a size breaks down**: it is infinite, or it is no size and cannot be shown. -/
inductive SizeBreaks (room : Nat) (d : Option Data) : Breakdown → Prop
  | infinite {negative : Bool} (h : d = some (.float (.infinite negative))) :
    SizeBreaks room d .infinite
  | unshown {v : Data} {fault : ShowFault} (h : firstTruthy [d] = some v) (hno : isNoSize v = true)
      (hshown : v.shown room = .error fault) : SizeBreaks room d (.ofShowing fault)

/-- **Nothing is wrong with what is looked at before the file of a record.** -/
structure Described (room : Nat) (fields : Fields) : Prop where
  displayName : firstTruthy (displayNames fields) ≠ none
  shownName : Shown room (displayNames fields)
  shownDetails : Shown room (detailsUrls fields)
  thumbnail : HoldsText? (thumbnailField fields)
  source : HoldsText? (fields.named? "source")
  license : HoldsText? (licenseField fields)

/-- **In what ways a record breaks down**, as its fields are looked at one after the other. -/
inductive Breaks (room : Nat) (fields : Fields) : Breakdown → Prop
  | displayName {b : Breakdown} (h : Unshown room (displayNames fields) b) : Breaks room fields b
  | detailsUrl {b : Breakdown} (hname : firstTruthy (displayNames fields) ≠ none)
      (hshown : Shown room (displayNames fields)) (h : Unshown room (detailsUrls fields) b) :
    Breaks room fields b
  | size {b : Breakdown} (hbefore : Described room fields) (hfile : fields.named? "filename" ≠ none)
      (h : SizeBreaks room (fields.named? "size") b) : Breaks room fields b
  | fileName {b : Breakdown} (hbefore : Described room fields)
      (hsize : ∃ size, sizeOf room (fields.named? "size") = .ok size)
      (h : Unshown room [fields.named? "filename"] b) : Breaks room fields b

theorem endsIn_refusal {α : Type} (code : Code) (lead : String) (subject : Option String)
    (cause : Option Cause) :
    EndsIn .input (fun _ => False) (.error (refusal code lead subject cause) : Except Failure α) :=
  EndsIn.report (Report.area_make ..)

theorem optionalText_ok_iff {name : String} {d : Option Data} :
    (∃ s, optionalText name d = .ok s) ↔ HoldsText? d := by
  constructor
  · rintro ⟨s, hs⟩ v rfl
    cases v with
    | null => exact .inl rfl
    | text s => exact .inr ⟨s, rfl⟩
    | _ => exact nomatch hs
  · intro h
    cases d with
    | none => exact ⟨none, rfl⟩
    | some v =>
      rcases h v rfl with rfl | ⟨s, rfl⟩
      · exact ⟨none, rfl⟩
      · exact ⟨some s, rfl⟩

theorem endsIn_optionalText (name : String) (d : Option Data) :
    EndsIn .input (fun _ => False) (optionalText name d) := by
  cases d with
  | none => exact EndsIn.ok none
  | some v =>
    cases v with
    | null => exact EndsIn.ok none
    | text s => exact EndsIn.ok (some s)
    | _ => exact endsIn_refusal ..

theorem firstTruthy_singleton_eq_some_iff {d : Option Data} {v : Data} :
    firstTruthy [d] = some v ↔ d = some v ∧ v.isTruthy = true := by
  cases d with
  | none => exact iff_of_false nofun fun h => nomatch h.1
  | some u =>
    have hfirst : firstTruthy [some u] = if u.isTruthy then some u else none := rfl
    rw [hfirst]
    by_cases hu : u.isTruthy = true
    · rw [if_pos hu]
      exact ⟨fun h => ⟨h, Option.some.inj h ▸ hu⟩, fun h => h.1⟩
    · rw [if_neg hu]
      exact iff_of_false nofun fun h => hu (Option.some.inj h.1 ▸ h.2)

theorem firstTruthy_firstTruthy : firstTruthy [firstTruthy ds] = firstTruthy ds := by
  induction ds with
  | nil => rfl
  | cons d ds ih =>
    cases d with
    | none => exact ih
    | some v =>
      rw [firstTruthy]
      split
      · rename_i hv
        exact firstTruthy_singleton_eq_some_iff.mpr ⟨rfl, hv⟩
      · exact ih

theorem endsIn_shownText (text : Except ShowFault String) :
    EndsIn .input (fun b => ∃ fault, text = .error fault ∧ b = .ofShowing fault)
      (shownText text) := by
  cases text with
  | ok s => exact (EndsIn.ok s).congr fun b => iff_of_false id nofun
  | error fault => exact (EndsIn.breakdown _).congr fun b => by simp

theorem endsIn_textOf (room : Nat) (ds : List (Option Data)) :
    EndsIn .input (Unshown room ds) (textOf room ds) := by
  rw [textOf]
  cases h : firstTruthy ds with
  | none => exact (EndsIn.ok "").congr fun b => by simp [Unshown, h]
  | some d => exact (endsIn_shownText _).congr fun b => by simp [Unshown, h]

theorem textOf_ok_iff : (∃ s, textOf room ds = .ok s) ↔ Shown room ds := by
  rw [textOf, Shown]
  cases firstTruthy ds with
  | none => exact iff_of_true ⟨"", rfl⟩ nofun
  | some d =>
    simp only [Option.some.injEq, forall_eq', shownText]
    cases d.plain room with
    | ok s => exact iff_of_true ⟨s, rfl⟩ ⟨s, rfl⟩
    | error fault => exact iff_of_false nofun nofun

theorem endsIn_sizeRefusal (room : Nat) (d : Data) (cause : Cause) :
    EndsIn .input (fun b => ∃ fault, d.shown room = .error fault ∧ b = .ofShowing fault)
      (sizeRefusal room d cause) :=
  ((endsIn_shownText _).bind _ fun _ _ => endsIn_refusal ..).congr fun b => by simp

/-- What a size breaks down in when it is a value that counts as true. -/
theorem sizeBreaks_iff {d : Option Data} {v : Data} (h : firstTruthy [d] = some v) {b : Breakdown} :
    SizeBreaks room d b ↔ (b = .infinite ∧ ∃ negative, v = .float (.infinite negative)) ∨
      isNoSize v = true ∧ ∃ fault, v.shown room = .error fault ∧ b = .ofShowing fault := by
  have hd := (firstTruthy_singleton_eq_some_iff.mp h).1
  constructor
  · rintro (⟨hinfinite⟩ | ⟨hfirst, hno, hshown⟩)
    · exact .inl ⟨rfl, _, Option.some.inj (hd.symm.trans hinfinite)⟩
    · obtain rfl := Option.some.inj (h.symm.trans hfirst)
      exact .inr ⟨hno, _, hshown, rfl⟩
  · rintro (⟨rfl, negative, rfl⟩ | ⟨hno, fault, hshown, rfl⟩)
    · exact .infinite hd
    · exact .unshown h hno hshown

theorem not_sizeBreaks {d : Option Data} (h : firstTruthy [d] = none) (b : Breakdown) :
    ¬ SizeBreaks room d b := by
  rintro (⟨hinfinite⟩ | ⟨hfirst, -, -⟩)
  · exact nomatch h.symm.trans (firstTruthy_singleton_eq_some_iff.mpr ⟨hinfinite, rfl⟩)
  · exact nomatch h.symm.trans hfirst

theorem endsIn_sizeOf (room : Nat) (d : Option Data) :
    EndsIn .input (SizeBreaks room d) (sizeOf room d) := by
  rw [sizeOf]
  cases h : firstTruthy [d] with
  | none => exact (EndsIn.ok 0).congr fun b => iff_of_false id (not_sizeBreaks h b)
  | some v =>
    have hrefused : ∀ cause, isNoSize v = true → (∀ negative, v ≠ .float (.infinite negative)) →
        EndsIn .input (SizeBreaks room d) (sizeRefusal room v cause) := fun cause hno hfinite =>
      (endsIn_sizeRefusal room v cause).congr fun b => by simp [sizeBreaks_iff h, hno, hfinite]
    cases v with
    | float x =>
      cases x with
      | infinite negative =>
        exact (EndsIn.breakdown _).congr fun b => by simp [sizeBreaks_iff h, isNoSize]
      | finite negative m q =>
        exact (EndsIn.ok _).congr fun b => by simp [sizeBreaks_iff h, isNoSize]
      | nan => exact hrefused _ rfl nofun
    | int n => exact (EndsIn.ok n).congr fun b => by simp [sizeBreaks_iff h, isNoSize]
    | bool b => exact (EndsIn.ok _).congr fun b => by simp [sizeBreaks_iff h, isNoSize]
    | text s =>
      dsimp only
      cases hread : Text.readInteger? s with
      | some n => exact (EndsIn.ok n).congr fun b => by simp [sizeBreaks_iff h, isNoSize, hread]
      | none => exact hrefused _ (by rw [isNoSize, hread]; rfl) nofun
    | null => exact nomatch (firstTruthy_singleton_eq_some_iff.mp h).2
    | _ => exact hrefused _ rfl nofun

theorem endsIn_fileOf (room : Nat) (fields : Fields) :
    EndsIn .input (fun b => (fields.named? "filename" ≠ none ∧
        SizeBreaks room (fields.named? "size") b) ∨
        (∃ size, sizeOf room (fields.named? "size") = .ok size) ∧
          Unshown room [fields.named? "filename"] b)
      (fileOf room fields) := by
  rw [fileOf]
  cases fields.named? "filename" with
  | none => exact (EndsIn.ok none).congr fun b => by simp [Unshown, firstTruthy]
  | some name =>
    refine ((endsIn_sizeOf room _).bind _ fun size _ => (endsIn_textOf room _).bind _ fun text _ =>
      EndsIn.ok _).congr fun b => ?_
    simp

/-- **A record breaks down in just these ways.** -/
theorem endsIn_ofFields (room : Nat) (fields : Fields) :
    EndsIn .input (Breaks room fields) (ofFields room fields) := by
  rw [ofFields]
  cases hname : firstTruthy [fields.named? "display_name", fields.named? "displayName"] with
  | none =>
    refine (endsIn_refusal ..).congr fun b => iff_of_false id ?_
    rintro (⟨d, fault, hd, -⟩ | ⟨hsome, -⟩ | ⟨hbefore, -⟩ | ⟨hbefore, -⟩)
    · exact nomatch hname.symm.trans hd
    · exact hsome hname
    · exact hbefore.displayName hname
    · exact hbefore.displayName hname
  | some displayName =>
    have hsome : firstTruthy (displayNames fields) ≠ none := hname ▸ Option.some_ne_none displayName
    have hfirst : firstTruthy [some displayName] = firstTruthy (displayNames fields) :=
      hname ▸ firstTruthy_firstTruthy
    have hunshown : ∀ b, Unshown room [some displayName] b ↔ Unshown room (displayNames fields) b :=
      fun b => by rw [Unshown, Unshown, hfirst]
    have hshown : Shown room [some displayName] ↔ Shown room (displayNames fields) := by
      rw [Shown, Shown, hfirst]
    refine ((endsIn_textOf room _).bind _ fun displayName _ =>
      (endsIn_textOf room _).bind _ fun detailsUrl _ =>
      (endsIn_optionalText ..).bind _ fun thumbnail _ =>
      (endsIn_optionalText ..).bind _ fun source _ =>
      (endsIn_optionalText ..).bind _ fun license _ =>
      (endsIn_fileOf room fields).bind _ fun file _ => EndsIn.ok _).congr fun b => ?_
    simp only [false_or, and_false, exists_false, or_false, exists_and_right, optionalText_ok_iff,
      textOf_ok_iff, hunshown, hshown]
    constructor
    · rintro (h | ⟨hdisplayName, h | ⟨hdetails, hthumbnail, hsource, hlicense, hfile⟩⟩)
      · exact .displayName h
      · exact .detailsUrl hsome hdisplayName h
      · have hbefore : Described room fields :=
          ⟨hsome, hdisplayName, hdetails, hthumbnail, hsource, hlicense⟩
        rcases hfile with ⟨hthere, hsize⟩ | ⟨hsize, hfileName⟩
        · exact .size hbefore hthere hsize
        · exact .fileName hbefore hsize hfileName
    · rintro (h | ⟨-, hdisplayName, h⟩ | ⟨h, hthere, hsize⟩ | ⟨h, hsize, hfileName⟩)
      · exact .inl h
      · exact .inr ⟨hdisplayName, .inl h⟩
      · exact .inr ⟨h.shownName, .inr ⟨h.shownDetails, h.thumbnail, h.source, h.license,
          .inl ⟨hthere, hsize⟩⟩⟩
      · exact .inr ⟨h.shownName, .inr ⟨h.shownDetails, h.thumbnail, h.source, h.license,
          .inr ⟨hsize, hfileName⟩⟩⟩

theorem endsIn_ofData (room : Nat) (d : Data) :
    EndsIn .input (fun b => ∃ fields, d = .record fields ∧ Breaks room fields b)
      (ofData room d) := by
  cases d with
  | record fields => exact (endsIn_ofFields room fields).congr fun b => by simp
  | _ => exact (endsIn_refusal ..).congr fun b => by simp

end Result

namespace Archive

variable {w : World} {p : Place}

/-! ## A file of results -/

/-- **The breakdowns of reading results**: no file can have the place, the notation has no room for
a number or a nesting, or the first entry that is no result is a record that breaks down. -/
inductive Breaks (w : World) (p : Place) : Breakdown → Prop
  | unnameable (hread : w.read p = .error .unnameable) : Breaks w p (.unreachable .unnameable)
  | json {content : ByteArray} {s : String} {fault : Json.Fault} {b : Breakdown}
      (hread : w.read p = .ok content) (hdecode : FileTree.decode? content = some s)
      (hjson : Json.read (w.limits.json s) s = .error fault) (hfault : fault.breakdown? = some b) : Breaks w p b
  | entry {entries : List Data} {fields : Fields} {b : Breakdown}
      (hvalue : readValue w p = .ok (.list entries))
      (hreached : Reached (fun d => ∃ r, Result.ofData w.limits.shown d = .ok r) entries
        (.record fields))
      (hbreaks : Result.Breaks w.limits.shown fields b) : Breaks w p b

theorem endsIn_readValue (w : World) (p : Place) :
    EndsIn .input (fun b => b = .unreachable .unnameable ∧ w.read p = .error .unnameable ∨
        ∃ content s fault, w.read p = .ok content ∧ FileTree.decode? content = some s ∧
          Json.read (w.limits.json s) s = .error fault ∧ fault.breakdown? = some b)
      (readValue w p) := by
  have hreported : ∀ cause, EndsIn .input (fun _ => False)
      (.error (unreadable p cause) : Except Failure Data) := fun _ =>
    EndsIn.report (Report.area_make ..)
  rw [readValue]
  cases w.read p with
  | error fault =>
    cases fault with
    | unnameable => exact (EndsIn.breakdown _).congr fun b => by simp
    | _ => exact (hreported _).congr fun b => by simp
  | ok content =>
    dsimp only
    cases hdecode : FileTree.decode? content with
    | none => exact (hreported _).congr fun b => by simp [hdecode]
    | some s =>
      exact (endsIn_json (hreported _) (Json.read _ s)).congr fun b => by simp [hdecode]

/-- A failure of an entry stays a report or a breakdown when it is told of the file. -/
theorem endsIn_within {α : Type} {breaks : Breakdown → Prop} {result : Except Failure α}
    (h : EndsIn .input breaks result) (p : Place) (index : Nat) :
    EndsIn .input breaks (result.mapError (within p index)) := by
  cases result with
  | ok a => exact h
  | error f =>
    rcases h.told f rfl with ⟨r, rfl, -⟩ | ⟨b, rfl⟩
    · refine (EndsIn.report (Report.area_make ..)).congr fun b => ?_
      rw [← h.breakdown_iff b]
      exact iff_of_false id nofun
    · exact h

theorem endsIn_ofEntries (room : Nat) (p : Place) : ∀ (index : Nat) (entries : List Data),
    EndsIn .input (fun b => ∃ fields, Result.Breaks room fields b ∧
        Reached (fun d => ∃ r, Result.ofData room d = .ok r) entries (.record fields))
      (ofEntries room p index entries)
  | _, [] => (EndsIn.ok []).congr fun _ => iff_of_false id fun ⟨_, _, h⟩ => not_reached_nil h
  | index, d :: ds => by
    have hpassed : ∀ r, (Result.ofData room d).mapError (within p index) = .ok r ↔
        Result.ofData room d = .ok r := fun r => by
      cases Result.ofData room d with
      | ok r' => exact Iff.rfl
      | error f => exact iff_of_false nofun nofun
    rw [ofEntries]
    refine ((endsIn_within (Result.endsIn_ofData room d) p index).bind _ fun r _ =>
      (endsIn_ofEntries room p (index + 1) ds).bind _ fun rs _ => EndsIn.ok (r :: rs)).congr
        fun b => ?_
    simp only [and_false, exists_false, or_false, hpassed, exists_and_right, reached_cons_iff]
    constructor
    · rintro (⟨fields, hd, hbreaks⟩ | ⟨hr, fields, hbreaks, hreached⟩)
      · exact ⟨fields, hbreaks, .inl hd.symm⟩
      · exact ⟨fields, hbreaks, .inr ⟨hr, hreached⟩⟩
    · rintro ⟨fields, hbreaks, hd | ⟨hr, hreached⟩⟩
      · exact .inl ⟨fields, hd.symm, hbreaks⟩
      · exact .inr ⟨hr, fields, hbreaks, hreached⟩

theorem endsIn_load (w : World) (p : Place) : EndsIn .input (Breaks w p) (load w p) := by
  refine ((endsIn_readValue w p).bind (fun d b => ∃ entries, d = .list entries ∧
      ∃ fields, Result.Breaks w.limits.shown fields b ∧
        Reached (fun d => ∃ r, Result.ofData w.limits.shown d = .ok r) entries (.record fields))
    fun d _ => ?_).congr fun b => ⟨?_, ?_⟩
  · cases d with
    | list entries => exact (endsIn_ofEntries _ p 0 entries).congr fun b => by simp
    | _ => exact (EndsIn.report (Report.area_make ..)).congr fun b => by simp
  · rintro ((⟨rfl, hread⟩ | ⟨content, s, fault, hread, hdecode, hjson, hfault⟩) |
      ⟨_, hvalue, entries, rfl, fields, hbreaks, hreached⟩)
    · exact .unnameable hread
    · exact .json hread hdecode hjson hfault
    · exact .entry hvalue hreached hbreaks
  · rintro (hread | ⟨hread, hdecode, hjson, hfault⟩ | ⟨hvalue, hreached, hbreaks⟩)
    · exact .inl (.inl ⟨rfl, hread⟩)
    · exact .inl (.inr ⟨_, _, _, hread, hdecode, hjson, hfault⟩)
    · exact .inr ⟨_, hvalue, _, rfl, _, hbreaks, hreached⟩

/-- **Reading gives results or a report on the file unless it breaks down**, and it breaks down in
just the ways that are listed; so does a single record, however much room there is for showing what
is in it. -/
theorem load_results_told_iff (w : World) (p : Place) :
    ((((∃ rs, load w p = .ok rs) ∨
          ∃ r : Report, load w p = .error (.report r) ∧ r.area = .input) ↔
        ∀ b, ¬ Breaks w p b) ∧
      ∀ b, load w p = .error (.breakdown b) ↔ Breaks w p b) ∧
    ∀ room d, (((∃ r, Result.ofData room d = .ok r) ∨
          ∃ r : Report, Result.ofData room d = .error (.report r) ∧ r.area = .input) ↔
        ∀ fields b, d = .record fields → ¬ Result.Breaks room fields b) ∧
      ∀ b, Result.ofData room d = .error (.breakdown b) ↔
        ∃ fields, d = .record fields ∧ Result.Breaks room fields b := by
  refine ⟨⟨(endsIn_load w p).ok_or_report_iff, (endsIn_load w p).breakdown_iff⟩, fun room d =>
    ⟨?_, (Result.endsIn_ofData room d).breakdown_iff⟩⟩
  rw [(Result.endsIn_ofData room d).ok_or_report_iff, forall_comm]
  simp only [not_exists, not_and]

/-- A file without end is told to nobody. -/
theorem ofData_infinite :
    let d : Data := .ofFields [("display_name", .text "a"), ("filename", .text "f"),
      ("size", .float (.infinite false))]
    Result.ofData Limits.usual.shown d = .error (.breakdown .infinite) ∧
      ¬ ((∃ r, Result.ofData Limits.usual.shown d = .ok r) ∨
        ∃ r : Report, Result.ofData Limits.usual.shown d = .error (.report r) ∧
          r.area = .input) := by
  intro d
  have hbreaks : Result.ofData Limits.usual.shown d = .error (.breakdown .infinite) := rfl
  rw [hbreaks]
  exact ⟨rfl, by simp⟩

end Archive

end QuerySieve
