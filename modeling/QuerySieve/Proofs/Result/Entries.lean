import QuerySieve.Proofs.Failure
import QuerySieve.Proofs.World
import QuerySieve.Result.Archive

/-!
# Proofs/Result/Entries — all entries of a file become results, or the first that does not is told

Reading goes through the entries of a file and stops at the first that is no result
(`FirstFailing`); what stands behind it is not looked at.  A file is read just if every entry is a
result by itself (`ofEntries_eq_ok_iff`), and otherwise it fails with the failure of that first entry,
told under its number (`ofEntries_of_firstFailing`).
-/

namespace QuerySieve.Archive

variable {p : Place} {entries : List Data} {room : Nat}

/-! ## The first entry that fails -/

/-- **The first entry that is no result**, by the number of the entries before it. -/
structure FirstFailing (room : Nat) (entries : List Data) (index : Nat) (d : Data) (f : Failure) :
    Prop where
  entry : entries[index]? = some d
  fails : Result.ofData room d = .error f
  passed : ∀ d' ∈ entries.take index, ∃ r, Result.ofData room d' = .ok r

theorem firstFailing_cons_iff {first : Data} {index : Nat} {d : Data} {f : Failure} :
    FirstFailing room (first :: entries) index d f ↔
      (index = 0 ∧ first = d ∧ Result.ofData room first = .error f) ∨
        ∃ rest r, index = rest + 1 ∧ Result.ofData room first = .ok r ∧
          FirstFailing room entries rest d f := by
  constructor
  · rintro ⟨hentry, hfails, hpassed⟩
    cases index with
    | zero =>
      obtain rfl := Option.some.inj hentry
      exact .inl ⟨rfl, rfl, hfails⟩
    | succ rest =>
      obtain ⟨r, hr⟩ := hpassed first List.mem_cons_self
      exact .inr ⟨rest, r, rfl, hr, hentry, hfails, fun d' hd' =>
        hpassed d' (List.mem_cons_of_mem first hd')⟩
  · rintro (⟨rfl, rfl, hfails⟩ | ⟨rest, r, rfl, hr, hentry, hfails, hpassed⟩)
    · exact ⟨rfl, hfails, List.forall_mem_nil _⟩
    · exact ⟨hentry, hfails, List.forall_mem_cons.mpr ⟨⟨r, hr⟩, hpassed⟩⟩

/-- **All entries are results, or there is a first that is not.** -/
theorem results_or_firstFailing (room : Nat) : ∀ entries : List Data,
    (∃ rs : List Result, entries.map (Result.ofData room) = rs.map .ok) ∨
      ∃ index d f, FirstFailing room entries index d f
  | [] => .inl ⟨[], rfl⟩
  | first :: entries => by
    simp only [firstFailing_cons_iff]
    cases hfirst : Result.ofData room first with
    | error f => exact .inr ⟨0, first, f, .inl ⟨rfl, rfl, rfl⟩⟩
    | ok r =>
      rcases results_or_firstFailing room entries with ⟨rs, hrs⟩ | ⟨index, d, f, hfailing⟩
      · exact .inl ⟨r :: rs, by rw [List.map_cons, List.map_cons, hfirst, hrs]⟩
      · exact .inr ⟨index + 1, d, f, .inr ⟨index, r, rfl, rfl, hfailing⟩⟩

/-! ## Going through the entries -/

theorem ofEntries_cons_ok {index : Nat} {first : Data} {r : Result}
    (h : Result.ofData room first = .ok r) : ofEntries room p index (first :: entries) =
      (ofEntries room p (index + 1) entries).map (r :: ·) := by
  rw [ofEntries, h]
  rfl

theorem ofEntries_cons_error {index : Nat} {first : Data} {f : Failure}
    (h : Result.ofData room first = .error f) :
    ofEntries room p index (first :: entries) = .error (within p index f) := by
  rw [ofEntries, h]
  rfl

/-- **The first entry that fails ends the reading**, whatever stands behind it. -/
theorem ofEntries_of_firstFailing : ∀ {entries : List Data} {index : Nat} {d : Data} {f : Failure}
    (start : Nat), FirstFailing room entries index d f →
      ofEntries room p start entries = .error (within p (start + index) f)
  | [], _, _, _, _, h => nomatch h.entry
  | first :: entries, index, d, f, start, h => by
    rcases firstFailing_cons_iff.mp h with ⟨rfl, rfl, hfails⟩ | ⟨rest, r, rfl, hr, hrest⟩
    · exact ofEntries_cons_error hfails
    · rw [ofEntries_cons_ok hr, ofEntries_of_firstFailing (start + 1) hrest, Except.map,
        Nat.add_assoc, Nat.add_comm 1 rest]

theorem ofEntries_of_results : ∀ {entries : List Data} {rs : List Result} (start : Nat),
    entries.map (Result.ofData room) = rs.map .ok → ofEntries room p start entries = .ok rs
  | [], [], _, _ => rfl
  | first :: entries, r :: rs, start, h => by
    obtain ⟨hr, hrs⟩ := List.cons.inj h
    rw [ofEntries_cons_ok hr, ofEntries_of_results (start + 1) hrs, Except.map]

/-- **A list of entries is read just if every entry is**, and then it gives their results in order. -/
theorem ofEntries_eq_ok_iff {start : Nat} {rs : List Result} :
    ofEntries room p start entries = .ok rs ↔ entries.map (Result.ofData room) = rs.map .ok := by
  refine ⟨fun h => ?_, ofEntries_of_results start⟩
  -- a list with an entry that fails would have ended there
  rcases results_or_firstFailing room entries with ⟨rs', hrs'⟩ | ⟨index, d, f, hfailing⟩
  · obtain rfl := Except.ok.inj (h.symm.trans (ofEntries_of_results start hrs'))
    exact hrs'
  · exact nomatch h.symm.trans (ofEntries_of_firstFailing start hfailing)

/-! ## A file of results -/

/-- **The file holds a list of entries**: its bytes are a text, and the text writes the list. -/
def HoldsList (w : World) (p : Place) (entries : List Data) : Prop :=
  ∃ content s, w.read p = .ok content ∧ FileTree.decode? content = some s ∧
    Json.read (w.limits.json s) s = .ok (.list entries)

/-- A world with nothing in it but a file `r.json` in the current folder. -/
def loneFile (content : String) : World :=
  ⟨⟨[(["r.json"], .file content.toUTF8)]⟩, ⟨1, []⟩, ⟨1, []⟩, [], ⟨1, 2, 3, 4, 5, 6, 7, none⟩,
    .usual⟩

theorem holdsList_loneFile {content : String} (hends : '\r' ∉ content.toList)
    (hjson : Json.read (Limits.usual.json content) content = .ok (.list entries)) :
    HoldsList (loneFile content) ⟨0, ["r.json"]⟩ entries := by
  have hpath : (loneFile content).path ⟨0, ["r.json"]⟩ = .ok ["r.json"] :=
    if_neg (by simp [Place.text])
  have hread : (loneFile content).read ⟨0, ["r.json"]⟩ = .ok content.toUTF8 := by
    rw [World.read, hpath]
    rfl
  exact ⟨content.toUTF8, content, hread, FileTree.decode?_toUTF8 hends, hjson⟩

section Load

variable {w : World} (hfile : HoldsList w p entries)

include hfile

theorem HoldsList.load_eq : load w p = ofEntries w.limits.shown p 0 entries := by
  obtain ⟨content, s, hread, hdecode, hjson⟩ := hfile
  have hvalue : readValue w p = .ok (.list entries) := by
    simp only [readValue, hread, hdecode, hjson]
  rw [load, hvalue]
  rfl

theorem HoldsList.load_of_firstFailing {index : Nat} {d : Data} {f : Failure}
    (h : FirstFailing w.limits.shown entries index d f) : load w p = .error (within p index f) := by
  rw [hfile.load_eq, ofEntries_of_firstFailing 0 h, Nat.zero_add]

/-- **All entries become results, or the first that does not is told.** A file with a list of entries
gives their results, in their order, exactly if each of them is a result; otherwise there is a first
one that is none, and if this is reported, the file is reported in the same words under the number of
that entry, with its code and with its report as the cause — whatever stands behind it. -/
theorem load_all_or_first :
    (∀ rs, load w p = .ok rs ↔ entries.map (Result.ofData w.limits.shown) = rs.map .ok) ∧
    ((∃ rs, load w p = .ok rs) ∨ ∃ index d f, FirstFailing w.limits.shown entries index d f) ∧
    ∀ index d e, FirstFailing w.limits.shown entries index d (.report e) → ∃ r : Report,
      load w p = .error (.report r) ∧ .report r = within p index (.report e) ∧
      r.area = .input ∧ r.message = s!"Result {index} in " ++ p.text ++ ": " ++ e.message ∧
      r.code = e.code ∧ r.cause = some (.report e) := by
  have hresults : ∀ rs, load w p = .ok rs ↔ entries.map (Result.ofData w.limits.shown) = rs.map .ok := fun rs =>
    hfile.load_eq ▸ ofEntries_eq_ok_iff
  refine ⟨hresults, ?_, fun index d e hfailing => ?_⟩
  · exact (results_or_firstFailing _ entries).imp_left fun ⟨rs, hrs⟩ =>
      ⟨rs, (hresults rs).mpr hrs⟩
  · refine ⟨_, hfile.load_of_firstFailing hfailing, rfl, ?_⟩
    rw [refusal, Report.make_eq]
    exact ⟨rfl, rfl, rfl, rfl⟩

end Load

/-- The second entry is the first that is no result; the third is none, either. -/
theorem load_all_or_first_ran :
    let w := loneFile "[\x7b\"displayName\":\"Ran\"\x7d,[],\x7b\x7d]"
    let p : Place := ⟨0, ["r.json"]⟩
    let entries : List Data := [.ofFields [("displayName", .text "Ran")], .list [], .record []]
    let e := Report.make .input .fieldKind "Search result must be an object, got list" none .unknown
      none []
    HoldsList w p entries ∧ FirstFailing w.limits.shown entries 1 (.list []) (.report e) ∧
      ∃ r : Report, load w p = .error (.report r) ∧ r.area = .input ∧
        r.message = "Result 1 in r.json: Search result must be an object, got list" ∧
        r.code = .fieldKind ∧ r.cause = some (.report e) := by
  intro w p entries e
  have hjson : Json.read 985 "[\x7b\"displayName\":\"Ran\"\x7d,[],\x7b\x7d]" =
      .ok (.list entries) := by
    simp [entries, Data.ofFields, Json.read, Json.readValue, Json.readItems, Json.skipSpace,
      Json.isSpace, Json.readFields, Json.readText, Json.expect, Fields.put, bind,
      Except.bind]
  have hfile : HoldsList w p entries := holdsList_loneFile (by simp) hjson
  have hfailing : FirstFailing w.limits.shown entries 1 (.list []) (.report e) :=
    ⟨rfl, rfl, List.forall_mem_singleton.mpr ⟨_, rfl⟩⟩
  obtain ⟨r, hload, -, harea, hmessage, hcode, hcause⟩ :=
    (load_all_or_first hfile).2.2 1 (.list []) e hfailing
  exact ⟨hfile, hfailing, r, hload, harea, hmessage, hcode, hcause⟩

end QuerySieve.Archive
