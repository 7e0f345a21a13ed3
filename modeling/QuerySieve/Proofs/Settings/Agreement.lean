import QuerySieve.Proofs.Settings.Items
import QuerySieve.Proofs.Settings.Precedence

/-!
# Proofs/Settings/Agreement — it does not matter which source says what one prefers

What one prefers can be said by a file, by variables or by arguments.  A file and arguments say it
as values; variables can only say it as texts, with commas between the items of a list, and a word
for a truth value.  Each of the three leads to the record in which just that is said
(`Loader.load_eq_of_saidAlone`), so settings come out the same, or the same is wrong with them.
-/

namespace QuerySieve

/-- What one prefers of each setting, if anything. -/
structure Preferences where
  included : Option (List String)
  excluded : Option (List String)
  feature : Option String
  verbose : Option Bool
  debug : Option Bool
  level : Option String

namespace Preferences

open Settings (Ranked outline argued? exported? said?)

variable {p : Preferences}

/-- The value that is preferred. -/
def value? (p : Preferences) : Setting → Option Data
  | .included => p.included.map .ofTexts
  | .excluded => p.excluded.map .ofTexts
  | .feature => p.feature.map .text
  | .verbose => p.verbose.map .bool
  | .debug => p.debug.map .bool
  | .level => p.level.map .text

/-- The word for a truth value. -/
def wordOf (b : Bool) : String := if b then "true" else "false"

/-- The text that a variable has for the value that is preferred. -/
def text? (p : Preferences) : Setting → Option String
  | .included => p.included.map (String.intercalate ",")
  | .excluded => p.excluded.map (String.intercalate ",")
  | .feature => p.feature
  | .verbose => p.verbose.map wordOf
  | .debug => p.debug.map wordOf
  | .level => p.level

/-- All keywords can be told apart between commas. -/
structure AreItems (p : Preferences) : Prop where
  included : ∀ keywords ∈ p.included, ∀ keyword ∈ keywords, Settings.IsItem keyword
  excluded : ∀ keywords ∈ p.excluded, ∀ keyword ∈ keywords, Settings.IsItem keyword

/-- The record in which all that is preferred is said, and nothing else. -/
def record (p : Preferences) : Fields :=
  Settings.puts [] (Setting.all.filterMap fun s => (p.value? s).map fun value => (s, value))

/-- **One source alone says what is preferred**, and the others say nothing of any setting. -/
inductive SaidAlone (p : Preferences) (l : Loader) (w : World) (start : String)
    (arguments : List (String × Data)) : Prop where
  | written {fields : Fields} (hfile : l.fileFields w = .ok fields)
      (hfields : Ranked p.value? [] fields)
      (hvariables : ∀ s : Setting, w.valueOf? (start ++ s.variableEnd) = none)
      (harguments : ∀ s, argued? arguments s = none)
  | exported (hfile : l.fileFields w = .ok [])
      (hvariables : ∀ s : Setting, w.valueOf? (start ++ s.variableEnd) = p.text? s)
      (harguments : ∀ s, argued? arguments s = none)
  | argued (hfile : l.fileFields w = .ok [])
      (hvariables : ∀ s : Setting, w.valueOf? (start ++ s.variableEnd) = none)
      (harguments : ∀ s, argued? arguments s = p.value? s)

/-! ## What a variable says -/

theorem switchOfText_wordOf (b : Bool) : Settings.switchOfText (wordOf b) = b := by
  cases b <;> decide +kernel

/-- A list with commas between its items stands for the list. -/
theorem map_itemsOfText {keywords? : Option (List String)}
    (h : ∀ keywords ∈ keywords?, ∀ keyword ∈ keywords, Settings.IsItem keyword) :
    (keywords?.map (String.intercalate ",")).map (fun s => Data.ofTexts (Settings.itemsOfText s)) =
      keywords?.map Data.ofTexts := by
  cases keywords? with
  | none => rfl
  | some keywords =>
    exact congrArg (some ∘ Data.ofTexts) (Settings.itemsOfText_intercalate (h keywords rfl))

theorem map_switchOfText (b? : Option Bool) :
    (b?.map wordOf).map (fun s => Data.bool (Settings.switchOfText s)) = b?.map Data.bool := by
  cases b? with
  | none => rfl
  | some b => exact congrArg (some ∘ Data.bool) (switchOfText_wordOf b)

/-- **The text of a variable stands for the value that is preferred.** -/
theorem AreItems.map_ofVariable (h : p.AreItems) (s : Setting) :
    (p.text? s).map (Settings.ofVariable s) = p.value? s := by
  cases s with
  | included => exact map_itemsOfText h.included
  | excluded => exact map_itemsOfText h.excluded
  | verbose => exact map_switchOfText p.verbose
  | debug => exact map_switchOfText p.debug
  | feature => rfl
  | level => rfl

/-! ## The record that is said -/

theorem ranked_record (p : Preferences) : Ranked p.value? [] p.record :=
  Settings.ranked_puts_all _ []

theorem all_isName_record (p : Preferences) : (p.record.all fun f => f.1.isName) = true :=
  Fields.all_isName_congr p.ranked_record.beside

/-- Nobody can prefer another time, so settings were made when they were loaded. -/
theorem created_of_ofFields {s : Settings} (h : Settings.ofFields p.record = .ok s) :
    s.created = none := by
  have hnone : p.record.named? "created" = none := by
    have hout : "created" ∉ Setting.outerNames := by decide
    rw [← Fields.named?_beside hout, p.ranked_record.beside]
    rfl
  obtain ⟨-, hcreated, -⟩ := Settings.ofFields_eq_ok_iff.mp h
  rw [Checked.field_of_none hnone] at hcreated
  exact (Except.ok.inj hcreated).symm

/-- **If one source alone says what is preferred, the three together look like its record.** -/
theorem SaidAlone.outline_combine {l : Loader} {w : World} {start : String}
    {arguments : List (String × Data)} (hitems : p.AreItems)
    (h : p.SaidAlone l w start arguments) :
    ∃ file, l.fileFields w = .ok file ∧ outline (Settings.combine file
      (Settings.ofVariables start w.valueOf?) (Settings.ofArguments arguments)) =
        outline p.record := by
  -- what the file says and what is said over it come to one value for each setting
  have hrecord : ∀ {file : Fields} {said : Setting → Option Data}, Ranked said [] file →
      (∀ s, (said? start w.valueOf? arguments s).or (said s) = p.value? s) →
      outline (Settings.combine file (Settings.ofVariables start w.valueOf?)
        (Settings.ofArguments arguments)) = outline p.record := by
    intro file said hfile hsaid
    rw [Settings.outline_combine, hfile.outline_eq, p.ranked_record.outline_eq,
      Outline.under_under, funext hsaid]
  have hexported : ∀ s : Setting, exported? start w.valueOf? s =
      (w.valueOf? (start ++ s.variableEnd)).map (Settings.ofVariable s) := fun _ => rfl
  cases h with
  | written hfile hfields hvariables harguments =>
    refine ⟨_, hfile, hrecord hfields fun s => ?_⟩
    rw [said?, harguments, hexported, hvariables, Option.map_none, Option.none_or, Option.none_or]
  | exported hfile hvariables harguments =>
    refine ⟨_, hfile, hrecord (Ranked.refl []) fun s => ?_⟩
    rw [said?, harguments, hexported, hvariables, hitems.map_ofVariable, Option.none_or,
      Option.or_none]
  | argued hfile hvariables harguments =>
    refine ⟨_, hfile, hrecord (Ranked.refl []) fun s => ?_⟩
    rw [said?, harguments, hexported, hvariables, Option.map_none, Option.or_none, Option.or_none]

end Preferences

namespace Loader

open Settings (Ranked argued?)

/-- **It does not matter which source says what one prefers.** Whichever of the file, the variables
and the arguments says it alone, the settings that are loaded are those that the record of just that
makes, or the same violations are told; and such settings were made when they were loaded. -/
theorem load_eq_of_saidAlone (p : Preferences) (hitems : p.AreItems) :
    (∀ s, Settings.ofFields p.record = .ok s → s.created = none) ∧
    ∀ l w start arguments, p.SaidAlone l w start arguments →
      (l.load w start arguments).1 = (Settings.ofFields p.record).mapError unfit := by
  refine ⟨fun s => Preferences.created_of_ofFields, fun l w start arguments h => ?_⟩
  obtain ⟨file, hfile, hrecord⟩ := h.outline_combine hitems
  calc (l.load w start arguments).1
      = validate (Settings.combine file (Settings.ofVariables start w.valueOf?)
          (Settings.ofArguments arguments)) := by rw [load, outcome, hfile]; rfl
    _ = validate p.record := validate_congr hrecord
    _ = (Settings.ofFields p.record).mapError unfit := validate_eq_mapError p.all_isName_record

/-- Two keywords, no talk and a level, said in each of the three ways. -/
theorem load_eq_of_saidAlone_pdf :
    let p : Preferences := ⟨some ["pdf", "mp4"], none, none, some false, none, some "error"⟩
    let content := "\x7b\"filters\":\x7b\"include_keywords\":[\"pdf\",\"mp4\"]\x7d," ++
      "\"verbose\":false,\"log_level\":\"error\"\x7d"
    let world (env : List (String × String)) : World :=
      ⟨⟨[(["c.json"], .file content.toUTF8)]⟩, ⟨1, []⟩, ⟨1, []⟩, env,
        ⟨1, 2, 3, 4, 5, 6, 7, none⟩, .usual⟩
    let named : Loader := ⟨some ⟨0, ["c.json"]⟩, [], none⟩
    let bare : Loader := ⟨none, [], none⟩
    let exports :=
      [("S_INCLUDE_KEYWORDS", "pdf,mp4"), ("S_VERBOSE", "false"), ("S_LOG_LEVEL", "error")]
    let arguments : List (String × Data) := [("include", .ofTexts ["pdf", "mp4"]),
      ("verbose", .bool false), ("debug", .null), ("log_level", .text "error")]
    p.AreItems ∧ p.SaidAlone named (world []) "S_" [] ∧
      p.SaidAlone bare (world exports) "S_" [] ∧ p.SaidAlone bare (world []) "S_" arguments ∧
      (named.load (world []) "S_" []).1 = (bare.load (world exports) "S_" []).1 ∧
      (named.load (world []) "S_" []).1 = (bare.load (world []) "S_" arguments).1 := by
  intro p content world named bare exports arguments
  have hitem : ∀ keyword ∈ ["pdf", "mp4"], Settings.IsItem keyword := by
    intro keyword hkeyword
    rcases List.mem_pair.mp hkeyword with rfl | rfl
    · exact ⟨by decide, by decide +kernel, by decide +kernel⟩
    · exact ⟨by decide, by decide +kernel, by decide +kernel⟩
  have hitems : p.AreItems :=
    ⟨fun keywords hkeywords => Option.some.inj hkeywords ▸ hitem, fun keywords => nofun⟩
  have hwritten : p.SaidAlone named (world []) "S_" [] := by
    have hbytes : (world []).read ⟨0, ["c.json"]⟩ = .ok content.toUTF8 := by
      have hpath : (world []).path ⟨0, ["c.json"]⟩ = .ok ["c.json"] :=
        if_neg (by simp [Place.text])
      rw [World.read, hpath]
      rfl
    have hrecord : p.record = [(.name "filters", .ofFields
        [("include_keywords", .ofTexts ["pdf", "mp4"])]), (.name "verbose", .bool false),
        (.name "log_level", .text "error")] := rfl
    have hjson : Json.read 985 content = .ok (.record p.record) := by
      rw [hrecord]
      simp [content, Json.read, Json.readValue, Json.readItems, Json.skipSpace, Json.isSpace,
        Json.readFields, Json.readText, Json.expect, Json.readWord?, Json.words,
        Fields.put, Key.same, Key.canonical, bind, Except.bind, Data.ofTexts, Data.ofFields]
    refine .written (fileFields_of_json rfl hbytes (by simp [content]) (by decide +kernel) hjson)
      p.ranked_record (fun s => ?_) fun s => rfl
    cases s <;> rfl
  have hexported : p.SaidAlone bare (world exports) "S_" [] := by
    refine .exported rfl (fun s => ?_) fun s => rfl
    cases s <;> rfl
  have hargued : p.SaidAlone bare (world []) "S_" arguments := by
    refine .argued rfl (fun s => ?_) fun s => ?_
    · cases s <;> rfl
    · cases s <;> rfl
  have hload := (load_eq_of_saidAlone p hitems).2
  exact ⟨hitems, hwritten, hexported, hargued,
    (hload _ _ _ _ hwritten).trans (hload _ _ _ _ hexported).symm,
    (hload _ _ _ _ hwritten).trans (hload _ _ _ _ hargued).symm⟩

end Loader

end QuerySieve
