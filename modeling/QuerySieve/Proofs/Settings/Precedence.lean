import QuerySieve.Proofs.Settings.Outline
import QuerySieve.Proofs.World
import QuerySieve.Settings.Loader

/-!
# Proofs/Settings/Precedence — arguments count before variables, and variables before the file

The three sources are laid over each other as records.  What comes of that is what comes of one
record in which each setting has the value that counts: the last one that the arguments give it, or
else the one of its variable, or else the one of the file (`load_eq_validate_ranked`).
-/

namespace QuerySieve

namespace Settings

/-- **The three sources laid over each other look like the file with what is said in its place.** -/
theorem outline_combine (file : Fields) (start : String) (lookup : String → Option String)
    (arguments : List (String × Data)) :
    outline (combine file (ofVariables start lookup) (ofArguments arguments)) =
      (outline file).under (said? start lookup arguments) := by
  rw [combine, (ranked_ofArguments arguments).outline_override (tidy_ofArguments arguments),
    (ranked_ofVariables start lookup).outline_override (tidy_ofVariables start lookup),
    Outline.under_under]
  rfl

end Settings

namespace Loader

open Settings (Ranked said? outline)

theorem validate_congr {fields fields' : Fields} (h : outline fields = outline fields') :
    validate fields = validate fields' := by
  have hnames : (fields.all fun f => f.1.isName) = fields'.all fun f => f.1.isName :=
    Fields.all_isName_congr (congrArg Outline.beside h)
  rw [validate, validate, hnames, Settings.ofFields_congr h]

/-- The failure in which violations are told. -/
def unfit (vs : List Violation) : Failure :=
  .report (refusal .settingsSchema "Configuration validation failed: " (some (.unfit vs))).quoting

/-- **A record of names makes settings, or its violations are told.** -/
theorem validate_eq_mapError {fields : Fields} (h : (fields.all fun f => f.1.isName) = true) :
    validate fields = (Settings.ofFields fields).mapError unfit := by
  rw [validate, if_pos h]
  cases Settings.ofFields fields <;> rfl

/-- A file that was named and can be read is the one that counts. -/
theorem chosen_of_read {l : Loader} {w : World} {p : Place} {content : ByteArray}
    (hfile : l.file = some p) (hread : w.read p = .ok content) : l.chosen w = .ok (some p) := by
  rw [chosen, hfile]
  simp only [World.holds_of_read hread]

/-- A file that is not in the indented notation is read when all of it is there. -/
theorem earlyFault?_of_not_isYaml {limits : Limits} {p : Place} (h : ¬ IsYaml p)
    (content : ByteArray) : earlyFault? limits p content = none :=
  if_neg fun hearly => h hearly.1

/-- A file in the object notation says what its text writes. -/
theorem fileFields_of_json {l : Loader} {w : World} {p : Place} {s : String} {fields : Fields}
    (hfile : l.file = some p) (hread : w.read p = .ok s.toUTF8) (hplain : '\r' ∉ s.toList)
    (hending : p.ending = ".json") (hjson : Json.read (w.limits.json s) s = .ok (.record fields)) :
    l.fileFields w = .ok fields := by
  have hyaml : ¬ IsYaml p := by
    rw [IsYaml, hending]
    decide
  have htext : readText w.limits p s = .ok (.record fields) := by
    rw [readText, if_neg hyaml, if_pos hending, readJson, hjson]
  simp only [fileFields, chosen_of_read hfile hread, readFile, hread, readContent,
    earlyFault?_of_not_isYaml hyaml, FileTree.decode?_toUTF8 hplain, htext, bind, Except.bind]

/-- **Arguments count before variables, and variables before the file.** Given what the file says,
there is a record in which every setting has the last value that is said of it, and all else is as in
the file; and loading settings comes to what comes of any such record. Arguments under other names
or with nothing in them say nothing, and neither does any other variable. -/
theorem load_eq_validate_ranked (l : Loader) (w : World) (start : String)
    (arguments : List (String × Data)) (file : Fields) (hfile : l.fileFields w = .ok file) :
    (∃ fields, Ranked (said? start w.valueOf? arguments) file fields) ∧
    ∀ fields, Ranked (said? start w.valueOf? arguments) file fields →
      (l.load w start arguments).1 = validate fields := by
  refine ⟨Settings.exists_ranked _ file, fun fields hfields => ?_⟩
  rw [load, outcome, hfile]
  exact validate_congr ((Settings.outline_combine ..).trans hfields.outline_eq.symm)

/-- Filters that are no record make room for a list from an argument and one from a variable. -/
theorem load_eq_validate_ranked_json :
    let content := "\x7b\"debug\":true,\"filters\":\"none\"\x7d"
    let w : World := ⟨⟨[(["c.json"], .file content.toUTF8)]⟩, ⟨1, []⟩, ⟨1, []⟩,
      [("S_EXCLUDE_KEYWORDS", "mp4"), ("S_COLOUR", "red")], ⟨1, 2, 3, 4, 5, 6, 7, none⟩, .usual⟩
    let l : Loader := ⟨some ⟨0, ["c.json"]⟩, [], none⟩
    let file : Fields := [(.name "debug", .bool true), (.name "filters", .text "none")]
    let arguments : List (String × Data) :=
      [("include", .ofTexts ["pdf"]), ("include_keywords", .null), ("colour", .text "red")]
    let fields : Fields := [(.name "debug", .bool true), (.name "filters", .ofFields
      [("exclude_keywords", .ofTexts ["mp4"]), ("include_keywords", .ofTexts ["pdf"])])]
    l.fileFields w = .ok file ∧ Ranked (said? "S_" w.valueOf? arguments) file fields ∧
      (l.load w "S_" arguments).1 = .ok
        { Settings.unset with debug := true, filters := ⟨["pdf"], ["mp4"], none⟩ } := by
  intro content w l file arguments fields
  have hread : Json.read 985 content = .ok (.record file) := by
    simp [content, file, Json.read, Json.readValue, Json.skipSpace, Json.isSpace,
      Json.readFields, Json.readText, Json.expect, Json.readWord?, Json.words, Fields.put, Key.same,
      Key.canonical, bind, Except.bind]
  have hfile : l.fileFields w = .ok file := by
    have hpath : w.path ⟨0, ["c.json"]⟩ = .ok ["c.json"] := if_neg (by simp [Place.text])
    have hbytes : w.read ⟨0, ["c.json"]⟩ = .ok content.toUTF8 := by rw [World.read, hpath]; rfl
    exact fileFields_of_json rfl hbytes (by simp [content]) (by decide +kernel) hread
  have hranked : Ranked (said? "S_" w.valueOf? arguments) file fields := by
    refine ⟨fun s hs => ?_, fun hsilent => ?_, fun s hs _ => ⟨_, rfl, fun s hs => ?_, rfl⟩, rfl⟩
    · cases s <;> first | rfl | exact absurd hs (Option.some_ne_none _)
    · exact absurd (hsilent .excluded rfl) (Option.some_ne_none _)
    · cases s <;> rfl
  have hmade : validate fields = .ok
      { Settings.unset with debug := true, filters := ⟨["pdf"], ["mp4"], none⟩ } := by
    have hfields : Settings.ofFields fields = .ok
        { Settings.unset with debug := true, filters := ⟨["pdf"], ["mp4"], none⟩ } := by
      decide +kernel
    rw [validate, hfields]
    rfl
  exact ⟨hfile, hranked,
    ((load_eq_validate_ranked l w "S_" arguments file hfile).2 fields hranked).trans hmade⟩

end Loader

end QuerySieve
