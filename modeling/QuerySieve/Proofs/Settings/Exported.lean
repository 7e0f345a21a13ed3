import QuerySieve.Proofs.Settings.Items
import QuerySieve.Proofs.Settings.Precedence
import QuerySieve.Proofs.Settings.Refused

/-!
# Proofs/Settings/Exported — keywords in a variable are read one by one, and none is taken for empty

What a variable lists are the items of its text, and an item always says something.  So settings
that are loaded list these keywords, all of them and in their order, or they are refused for
something else than that one of them is empty (`Loader.takesUp_load`).  And items that are written
with commas between them, with blanks wherever one likes, are just what is read
(`Settings.items_read_back`).
-/

namespace QuerySieve

/-- The way to a setting in the record. -/
def Setting.way (s : Setting) : List Step := (s.inner?.map .field).toList ++ [.field s.field]

namespace FilterSettings

/-- The keywords that a setting lists. -/
def listed (f : FilterSettings) : Setting → List String
  | .included => f.included
  | .excluded => f.excluded
  | _ => []

/-- The keywords that filters list are read from the field of the list. -/
theorem field_listed {fields : Fields} {f : FilterSettings} (h : ofFields fields = .ok f)
    {s : Setting} (hs : s = .included ∨ s = .excluded) :
    Checked.field fields s.field [] readKeywords = .ok (f.listed s) := by
  obtain ⟨hincluded, hexcluded, -⟩ := ofFields_eq_ok_iff.mp h
  rcases hs with rfl | rfl
  · exact hincluded
  · exact hexcluded

end FilterSettings

namespace Settings

open Text (tidy)

/-! ## Items as keywords -/

/-- **An item says something**, whatever becomes of its letters. -/
theorem IsItem.tidy_ne_empty {item : String} (h : IsItem item) : tidy item ≠ "" := by
  intro hempty
  rw [← Text.isEmpty_trimString, h.trimmed, String.isEmpty_iff] at hempty
  exact h.ne_empty hempty

/-- The items of a text are items. -/
theorem isItem_of_mem_itemsOfText {s item : String} (h : item ∈ itemsOfText s) : IsItem item :=
  (holds_itemsOfText (areSegments_segmentsOf s)).isItem item h

theorem ofVariable_eq_ofTexts {s : Setting} (hs : s = .included ∨ s = .excluded) (text : String) :
    ofVariable s text = .ofTexts (itemsOfText text) := by
  rcases hs with rfl | rfl <;> rfl

end Settings

namespace Loader

open Settings (itemsOfText argued? said? IsItem)
open Text (tidy)

/-- **What comes of a list of keywords that counts**, given what is read from the file: the settings
list them, tidy and in their order, or else no keyword is refused there for being empty, and none
for anything else but one of these that is no word. That the file cannot be read, or that a key of
it is no name, is found out before. -/
inductive TakesUp (s : Setting) (keywords : List String) :
    Except Failure Fields → Except Failure Settings → Prop
  | listed {file : Fields} {settings : Settings}
      (h : settings.filters.listed s = keywords.map tidy) :
      TakesUp s keywords (.ok file) (.ok settings)
  | refused {file : Fields} {vs : List Violation} (hempty : ⟨s.way, .emptyKeyword⟩ ∉ vs)
      (hbroken : ∀ keyword, ⟨s.way, .brokenKeyword keyword⟩ ∈ vs →
        keyword ∈ keywords ∧ ¬ Token.IsWord (tidy keyword).toList) :
      TakesUp s keywords (.ok file) (.error (unfit vs))
  | unnamedKey {file : Fields} (h : ¬ (file.all fun field => field.1.isName) = true) :
      TakesUp s keywords (.ok file) (.error (.breakdown .unnamedKey))
  | unread {f : Failure} : TakesUp s keywords (.error f) (.error f)

section Items

variable {s : Setting} {fields inner : Fields} {items : List String}

/-- Settings that are made of a record list the keywords that stand in it. -/
theorem listed_of_ofFields (hs : s = .included ∨ s = .excluded)
    (hfilters : fields.named? "filters" = some (.record inner))
    (hvalue : Fields.named? inner s.field = some (.ofTexts items)) {settings : Settings}
    (h : Settings.ofFields fields = .ok settings) :
    settings.filters.listed s = items.map tidy := by
  obtain ⟨-, -, hset, -⟩ := Settings.ofFields_eq_ok_iff.mp h
  have hlisted := FilterSettings.field_listed ((Checked.field_eq_ok_iff hfilters).mp hset) hs
  have hwords := (Checked.field_eq_ok_iff hvalue).mp hlisted
  exact (FilterSettings.readKeywords_ofTexts_eq_ok_iff.mp hwords).1.symm

/-- **An item is only refused for the characters in it.** -/
theorem exists_item_of_mem_violations (hs : s = .included ∨ s = .excluded)
    (hitems : ∀ item ∈ items, IsItem item)
    (hfilters : fields.named? "filters" = some (.record inner))
    (hvalue : Fields.named? inner s.field = some (.ofTexts items)) {p : Problem}
    (hp : p.IsOfKeyword) (h : ⟨s.way, p⟩ ∈ (Settings.ofFields fields).violations) :
    ∃ item ∈ items, p = .brokenKeyword item ∧ ¬ Token.IsWord (tidy item).toList := by
  have hway : s.way = [.field "filters", .field s.field] := by rcases hs with rfl | rfl <;> rfl
  rw [hway] at h
  obtain ⟨d, hd, hmem⟩ := Settings.exists_filters_of_mem_violations hp h
  obtain rfl := Option.some.inj (hfilters.symm.trans hd)
  obtain ⟨d, hd, hmem⟩ := FilterSettings.exists_named?_of_mem_violations hs hp hmem
  obtain rfl := Option.some.inj (hvalue.symm.trans hd)
  obtain ⟨item, hitem, hnormal⟩ := FilterSettings.exists_of_mem_violations_ofTexts hmem
  exact ⟨item, hitem, FilterSettings.eq_brokenKeyword_of_normalKeyword
    (hitems item hitem).tidy_ne_empty hnormal, fun hword =>
      nomatch hnormal.symm.trans (FilterSettings.normalKeyword_eq_ok_iff.mpr ⟨rfl, hword⟩)⟩

/-- **A record that lists items is taken up**, if all its keys are names just where the file's are. -/
theorem takesUp_validate {file : Fields} (hs : s = .included ∨ s = .excluded)
    (hitems : ∀ item ∈ items, IsItem item)
    (hfilters : fields.named? "filters" = some (.record inner))
    (hvalue : Fields.named? inner s.field = some (.ofTexts items))
    (hfile : (fields.all fun field => field.1.isName) = file.all fun field => field.1.isName) :
    TakesUp s items (.ok file) (validate fields) := by
  by_cases hnames : (fields.all fun field => field.1.isName) = true
  · rw [validate_eq_mapError hnames]
    cases hfields : Settings.ofFields fields with
    | ok settings => exact .listed (listed_of_ofFields hs hfilters hvalue hfields)
    | error vs =>
      have hrefused : ∀ p : Problem, p.IsOfKeyword → ⟨s.way, p⟩ ∈ vs →
          ∃ item ∈ items, p = .brokenKeyword item ∧ ¬ Token.IsWord (tidy item).toList :=
        fun p hp hmem =>
          exists_item_of_mem_violations hs hitems hfilters hvalue hp (hfields ▸ hmem)
      refine .refused (fun hmem => ?_) fun keyword hmem => ?_
      · obtain ⟨item, -, hbroken, -⟩ := hrefused .emptyKeyword trivial hmem
        exact nomatch hbroken
      · obtain ⟨item, hitem, hbroken, hword⟩ := hrefused (.brokenKeyword keyword) trivial hmem
        obtain rfl := Problem.brokenKeyword.inj hbroken
        exact ⟨hitem, hword⟩
  · rw [validate, if_neg hnames]
    exact .unnamedKey (hfile ▸ hnames)

end Items

/-- **The keywords of a variable are taken up**, if no argument speaks of the list. -/
theorem takesUp_load (l : Loader) {w : World} {start text : String}
    {arguments : List (String × Data)} {s : Setting} (hs : s = .included ∨ s = .excluded)
    (htext : w.valueOf? (start ++ s.variableEnd) = some text)
    (hargued : argued? arguments s = none) :
    TakesUp s (itemsOfText text) (l.fileFields w) (l.load w start arguments).1 := by
  have hsaid : said? start w.valueOf? arguments s = some (.ofTexts (itemsOfText text)) := by
    rw [said?, hargued, Option.none_or, Settings.exported?, htext, Option.map_some,
      Settings.ofVariable_eq_ofTexts hs]
  have hinner : s.inner? = some "filters" := by rcases hs with rfl | rfl <;> rfl
  rw [load, outcome]
  cases hfile : l.fileFields w with
  | error f => exact .unread
  | ok file =>
    -- the three sources come to what comes of the record that counts, where the list stands
    obtain ⟨fields, hranked⟩ := Settings.exists_ranked (said? start w.valueOf? arguments) file
    obtain ⟨inner, hfilters, hvalue, -⟩ :=
      hranked.inside s hinner (hsaid ▸ Option.some_ne_none _)
    have hlist : Fields.named? inner s.field = some (.ofTexts (itemsOfText text)) := by
      rw [hvalue s hinner, hsaid, Option.some_or]
    have hcombine : validate (Settings.combine file (Settings.ofVariables start w.valueOf?)
        (Settings.ofArguments arguments)) = validate fields :=
      validate_congr ((Settings.outline_combine ..).trans hranked.outline_eq.symm)
    show TakesUp s _ _ (validate _)
    rw [hcombine]
    exact takesUp_validate hs (fun item => Settings.isItem_of_mem_itemsOfText) hfilters
      hlist (Fields.all_isName_congr hranked.beside)

end Loader

namespace Settings

/-- **The items of a text are read one by one, and read back.** Commas cut a text into segments in
one way, and its items are those that the segments hold, in their order: one in each segment that is
not blank. No item is empty, has a comma in it or a blank at an end. However items are written down
with commas between them, blanks around them and segments of blanks in between, just they are read;
so what was read is read again. And keywords that a variable lists, if no argument speaks of the
list, are those that the settings have, or are refused for something else than that one is empty. -/
theorem items_read_back :
    (∀ s, (∃! segments, AreSegments segments s) ∧
      (∀ segments, AreSegments segments s → Holds segments (itemsOfText s)) ∧
      ∀ item ∈ itemsOfText s, IsItem item ∧
        ∀ c, item.toList.head? = some c ∨ item.toList.getLast? = some c → Text.isBlank c = false) ∧
    (∀ segments items, Holds segments items →
      itemsOfText (String.intercalate "," segments) = items) ∧
    (∀ s, itemsOfText (String.intercalate "," (itemsOfText s)) = itemsOfText s) ∧
    ∀ (l : Loader) w start arguments (s : Setting), s = .included ∨ s = .excluded →
      ∀ text, w.valueOf? (start ++ s.variableEnd) = some text → argued? arguments s = none →
        Loader.TakesUp s (itemsOfText text) (l.fileFields w) (l.load w start arguments).1 := by
  refine ⟨fun s => ⟨⟨segmentsOf s, areSegments_segmentsOf s, fun _ => areSegments_iff.mp⟩,
    fun segments => holds_itemsOfText, fun item hitem => ?_⟩,
    fun segments items => Holds.itemsOfText_intercalate, fun s => ?_,
    fun l w start arguments s hs text htext hargued => ?_⟩
  · have hitem : IsItem item := isItem_of_mem_itemsOfText hitem
    exact ⟨hitem, fun c => hitem.isBlank_eq_false⟩
  · exact itemsOfText_intercalate fun item => isItem_of_mem_itemsOfText
  · exact l.takesUp_load hs htext hargued

/-- Two items, one of which is refused for its hyphen, and two segments of blanks. -/
theorem items_read_back_pdf :
    let text := " PDF ,,a-b , \t"
    let segments := [" PDF ", "", "a-b ", " \t"]
    let w : World := ⟨⟨[]⟩, ⟨1, []⟩, ⟨1, []⟩, [("S_INCLUDE_KEYWORDS", text)],
      ⟨1, 2, 3, 4, 5, 6, 7, none⟩, .usual⟩
    let l : Loader := ⟨none, [], none⟩
    AreSegments segments text ∧ Holds segments ["PDF", "a-b"] ∧
      itemsOfText text = ["PDF", "a-b"] ∧
      w.valueOf? ("S_" ++ Setting.included.variableEnd) = some text ∧
      argued? [] .included = none ∧
      Loader.TakesUp .included ["PDF", "a-b"] (.ok []) (l.load w "S_" []).1 := by
  intro text segments w l
  have hsegments : AreSegments segments text :=
    ⟨List.cons_ne_nil _ _, by decide +kernel, by decide +kernel⟩
  have hitems : itemsOfText text = ["PDF", "a-b"] := by decide +kernel
  have hholds : Holds segments ["PDF", "a-b"] := hitems ▸ holds_itemsOfText hsegments
  have htext : w.valueOf? ("S_" ++ Setting.included.variableEnd) = some text := by decide +kernel
  obtain ⟨-, hread, -, hload⟩ := items_read_back
  exact ⟨hsegments, hholds, hsegments.joined ▸ hread segments _ hholds, htext, rfl,
    hitems ▸ hload l w "S_" [] .included (.inl rfl) text htext rfl⟩

end Settings

end QuerySieve
