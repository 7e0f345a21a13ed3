import QuerySieve.Proofs.Settings.Loader

/-!
# Proofs/Settings/Reload — one loader that loads again and again

Between two loadings the files, the variables and the arguments may change in any way, and each
loading may fail in any way.  A loading leaves a loader that differs at most in the settings it
keeps (`load_eq`), and what it comes to never depends on those (`result_eq_of_fields`).  So over a
whole run the loader keeps what was loaded last (`run_keeps_last`).
-/

namespace QuerySieve

namespace Loader

open Settings (said?)

/-- A loading that is asked for: what lies around it, how the names of variables begin, and the
arguments. -/
structure Request where
  world : World
  start : String
  arguments : List (String × Data)

/-- What a loading comes to. -/
def result (l : Loader) (r : Request) : Except Failure Settings :=
  l.outcome r.world r.start r.arguments

/-- What one loading after the other comes to, and the loader after them. -/
def run (l : Loader) : List Request → List (Except Failure Settings) × Loader
  | [] => ([], l)
  | r :: rs =>
    let (result, kept) := l.load r.world r.start r.arguments
    let (results, last) := kept.run rs
    (result :: results, last)

/-- The settings of the last loading that succeeded. -/
def lastLoaded? (results : List (Except Failure Settings)) : Option Settings :=
  (results.filterMap Except.toOption).getLast?

/-- **Two requests look alike to a loader**: wherever it looks for a file there is the same, reading it
runs up against the same limits, and the same is said of each setting. -/
structure LookAlike (l : Loader) (r r' : Request) : Prop where
  there : ∀ p ∈ l.places, r.world.holds p = r'.world.holds p
  content : ∀ p ∈ l.places, r.world.read p = r'.world.read p
  limits : r.world.limits = r'.world.limits
  said : said? r.start r.world.valueOf? r.arguments = said? r'.start r'.world.valueOf? r'.arguments

variable {l l' : Loader} {r r' : Request} {w w' : World}

/-! ## What a loading depends on -/

theorem firstFile_congr {ps : List Place} (hthere : ∀ p ∈ ps, w.holds p = w'.holds p)
    (hcontent : ∀ p ∈ ps, w.read p = w'.read p) : firstFile w ps = firstFile w' ps := by
  induction ps with
  | nil => rfl
  | cons p ps ih =>
    obtain ⟨hp, hps⟩ := List.forall_mem_cons.mp hthere
    obtain ⟨hp', hps'⟩ := List.forall_mem_cons.mp hcontent
    rw [firstFile, firstFile, hp, World.holdsFile, World.holdsFile, hp', ih hps hps']

/-- The file that counts is one that is looked for. -/
theorem mem_of_firstFile {ps : List Place} {p : Place} (h : firstFile w ps = .ok (some p)) :
    p ∈ ps := by
  induction ps with
  | nil => cases h
  | cons q ps ih =>
    rw [firstFile] at h
    cases hholds : w.holds q with
    | error fault =>
      rw [hholds] at h
      cases h
    | ok there =>
      rw [hholds] at h
      dsimp only at h
      by_cases hfile : (there && w.holdsFile q) = true
      · rw [if_pos hfile] at h
        exact Option.some.inj (Except.ok.inj h) ▸ List.mem_cons_self
      · rw [if_neg hfile] at h
        exact List.mem_cons_of_mem q (ih h)

theorem chosen_congr (hthere : ∀ p ∈ l.places, w.holds p = w'.holds p)
    (hcontent : ∀ p ∈ l.places, w.read p = w'.read p) : l.chosen w = l.chosen w' := by
  rw [places] at hthere hcontent
  rw [chosen, chosen]
  cases hfile : l.file with
  | none =>
    rw [hfile] at hthere hcontent
    exact firstFile_congr hthere hcontent
  | some p =>
    rw [hfile] at hthere
    simp only [hthere p List.mem_cons_self]

theorem mem_places_of_chosen {p : Place} (h : l.chosen w = .ok (some p)) : p ∈ l.places := by
  rw [chosen] at h
  rw [places]
  cases hfile : l.file with
  | none =>
    rw [hfile] at h
    exact mem_of_firstFile h
  | some q =>
    rw [hfile] at h
    dsimp only at h
    cases hholds : w.holds q with
    | error fault =>
      rw [hholds] at h
      cases h
    | ok there =>
      rw [hholds] at h
      cases there with
      | true => exact Option.some.inj (Except.ok.inj h) ▸ List.mem_singleton_self q
      | false => cases h

theorem readFile_congr {p : Place} (hread : w.read p = w'.read p) (hlimits : w.limits = w'.limits) :
    readFile w p = readFile w' p := by
  rw [readFile, readFile, hread, hlimits]

/-- **What the file says depends on what there is where a file is looked for**, and on the limits of
reading it. -/
theorem fileFields_congr (hthere : ∀ p ∈ l.places, w.holds p = w'.holds p)
    (hcontent : ∀ p ∈ l.places, w.read p = w'.read p) (hlimits : w.limits = w'.limits) :
    l.fileFields w = l.fileFields w' := by
  rw [fileFields, fileFields, ← chosen_congr hthere hcontent]
  cases hchosen : l.chosen w with
  | error failure => rfl
  | ok chosen =>
    cases chosen with
    | none => rfl
    | some p => exact readFile_congr (hcontent p (mem_places_of_chosen hchosen)) hlimits

/-- **Requests that look alike come to the same.** -/
theorem result_congr (h : l.LookAlike r r') : l.result r = l.result r' := by
  rw [result, result, outcome, outcome, ← fileFields_congr h.there h.content h.limits]
  cases l.fileFields r.world with
  | error failure => rfl
  | ok file =>
    refine validate_congr ?_
    rw [Settings.outline_combine, Settings.outline_combine, h.said]

/-- What was loaded before does not count. -/
theorem result_eq_of_fields (hfile : l.file = l'.file) (hcandidates : l.candidates = l'.candidates)
    (r : Request) : l.result r = l'.result r := by
  obtain ⟨file, candidates, current⟩ := l
  obtain rfl : file = l'.file := hfile
  obtain rfl : candidates = l'.candidates := hcandidates
  rfl

/-! ## What a loader keeps -/

/-- The loader with other settings kept. -/
def holding (l : Loader) (settings : Option Settings) : Loader := { l with current := settings }

theorem lastLoaded?_cons (result : Except Failure Settings)
    (results : List (Except Failure Settings)) :
    lastLoaded? (result :: results) = (lastLoaded? results).or result.toOption := by
  rw [lastLoaded?, lastLoaded?, List.filterMap_cons]
  cases result with
  | error failure => exact (Option.or_none).symm
  | ok s =>
    show (s :: results.filterMap Except.toOption).getLast? = _
    rw [List.getLast?_cons]
    cases (results.filterMap Except.toOption).getLast? <;> rfl

/-- **A loading leaves the loader with its settings, or as it was if it fails.** -/
theorem load_eq (l : Loader) (r : Request) : l.load r.world r.start r.arguments =
    (l.result r, l.holding ((l.result r).toOption.or l.current)) := by
  rw [load, ← result]
  cases l.result r <;> rfl

/-- **Loadings come to what each of them comes to by itself**, and leave the loader with the last
settings that were loaded. -/
theorem run_eq (l : Loader) (rs : List Request) :
    l.run rs = (rs.map l.result, l.holding ((lastLoaded? (rs.map l.result)).or l.current)) := by
  induction rs generalizing l with
  | nil => rfl
  | cons r rs ih =>
    have hsame : ∀ settings, (l.holding settings).result = l.result :=
      fun settings => funext (result_eq_of_fields rfl rfl)
    rw [run, load_eq]
    dsimp only
    rw [ih, hsame, List.map_cons, lastLoaded?_cons, Option.or_assoc]
    rfl

/-- **A loader keeps what was loaded last, over any run.** After each of some loadings, whichever of
them fail, it keeps the settings of the last one that succeeded, or those from before, of which a
new loader has none; nothing else of it changes. And what a loading comes to depends on what there
is where a file is looked for and on what is said of settings, and never on what was loaded
before. -/
theorem run_keeps_last (l : Loader) (rs : List Request) :
    (∀ before, before <+: rs → (l.run before).1 <+: (l.run rs).1 ∧
      (l.run before).2 = l.holding ((lastLoaded? (l.run before).1).or l.current)) ∧
    (∀ w file, start w file = .ok l → l.current = none) ∧
    ∀ rs' r r', l.LookAlike r r' →
      ((l.run rs).2.load r.world r.start r.arguments).1 =
        ((l.run rs').2.load r'.world r'.start r'.arguments).1 := by
  refine ⟨fun before hbefore => ?_, fun w file hstart => ?_, fun rs' r r' halike => ?_⟩
  · simp only [run_eq]
    exact ⟨hbefore.map l.result, trivial⟩
  · rw [start] at hstart
    cases hhome : w.home? with
    | none =>
      rw [hhome] at hstart
      exact nomatch hstart
    | some home =>
      rw [hhome] at hstart
      rw [← Except.ok.inj hstart]
  · have hload : ∀ (rs : List Request) (r : Request),
        ((l.run rs).2.load r.world r.start r.arguments).1 = l.result r := by
      intro rs r
      rw [load_eq, run_eq]
      exact result_eq_of_fields rfl rfl r
    rw [hload, hload, result_congr halike]

/-- A file is read, then it is gone, and then a level is asked for that there is not. -/
theorem run_keeps_last_json :
    let content := "\x7b\"debug\":true\x7d"
    let nodes : List (List String × FileNode) := [(["c.json"], .file content.toUTF8)]
    let world (nodes : List (List String × FileNode)) (env : List (String × String)) : World :=
      ⟨⟨nodes⟩, ⟨1, []⟩, ⟨1, []⟩, env, ⟨1, 2, 3, 4, 5, 6, 7, none⟩, .usual⟩
    let l : Loader := ⟨some ⟨0, ["c.json"]⟩, usualPlaces (world [] []) ⟨1, []⟩, none⟩
    let good : Request := ⟨world nodes [], "S_", []⟩
    let gone : Request := ⟨world [] [], "S_", []⟩
    let loud : Request := ⟨world nodes [("S_LOG_LEVEL", "loud")], "S_", []⟩
    let again : Request :=
      ⟨world ((["d"], .folder) :: nodes) [("T", "u")], "S_", [("debug", .null)]⟩
    start (world [] []) (some "c.json") = .ok l ∧ l.current = none ∧
      l.result good = .ok { Settings.unset with debug := true } ∧
      (∃ failure, l.result gone = .error failure) ∧ (∃ failure, l.result loud = .error failure) ∧
      (l.run [good, gone, loud]).2.current = some { Settings.unset with debug := true } ∧
      l.LookAlike good again ∧
      ((l.run []).2.load good.world "S_" []).1 =
        ((l.run [good, gone, loud]).2.load again.world "S_" [("debug", .null)]).1 := by
  intro content nodes world l good gone loud again
  have hpath : ∀ nodes env, (world nodes env).path ⟨0, ["c.json"]⟩ = .ok ["c.json"] :=
    fun nodes env => if_neg (by simp [Place.text])
  have hread : ∀ nodes env, FileTree.file ⟨nodes⟩ ["c.json"] = .ok content.toUTF8 →
      (world nodes env).read ⟨0, ["c.json"]⟩ = .ok content.toUTF8 := by
    intro nodes env hfile
    rw [World.read, hpath]
    exact hfile
  have hjson : Json.read 985 content = .ok (.record [(.name "debug", .bool true)]) := by
    simp [content, Json.read, Json.readValue, Json.skipSpace, Json.isSpace,
      Json.readFields, Json.readText, Json.expect, Json.readWord?, Json.words, Fields.put, bind,
      Except.bind]
  have hfields : ∀ env, l.fileFields (world nodes env) = .ok [(.name "debug", .bool true)] :=
    fun env => fileFields_of_json rfl (hread nodes env rfl) (by simp [content]) (by decide +kernel)
      hjson
  have hresult : ∀ env fields, Settings.combine [(.name "debug", .bool true)]
      (Settings.ofVariables "S_" (world [] env).valueOf?) [] = fields →
      (fields.all fun f => f.1.isName) = true →
      l.result ⟨world nodes env, "S_", []⟩ = (Settings.ofFields fields).mapError unfit := by
    intro env fields hfields' hnames
    rw [result, outcome, hfields, ← validate_eq_mapError hnames, ← hfields']
    rfl
  have hgood : l.result good = .ok { Settings.unset with debug := true } := by
    have hset : Settings.ofFields [(.name "debug", .bool true)] =
        .ok { Settings.unset with debug := true } := by decide +kernel
    exact (hresult [] [(.name "debug", .bool true)] rfl rfl).trans
      (congrArg (Except.mapError unfit) hset)
  have hloud : l.result loud = .error (unfit [⟨[.field "log_level"], .unknownLevel⟩]) := by
    have hset : Settings.ofFields [(.name "debug", .bool true), (.name "log_level", .text "loud")] =
        .error [⟨[.field "log_level"], .unknownLevel⟩] := by decide +kernel
    exact (hresult [("S_LOG_LEVEL", "loud")]
      [(.name "debug", .bool true), (.name "log_level", .text "loud")] rfl rfl).trans
      (congrArg (Except.mapError unfit) hset)
  have hgone : l.result gone = .error (.report (missing ⟨0, ["c.json"]⟩)) := by
    have hholds : (world [] []).holds ⟨0, ["c.json"]⟩ = .ok false := by
      rw [World.holds, hpath]
      rfl
    have hchosen : l.chosen (world [] []) = .error (.report (missing ⟨0, ["c.json"]⟩)) := by
      rw [chosen]
      simp only [l, hholds]
    rw [result, outcome, fileFields, hchosen]
    rfl
  have halike : l.LookAlike good again := by
    refine ⟨fun p hp => ?_, fun p hp => ?_, rfl, ?_⟩
    · obtain rfl := List.mem_singleton.mp hp
      exact (World.holds_of_read (hread nodes [] rfl)).trans
        (World.holds_of_read (hread _ [("T", "u")] rfl)).symm
    · obtain rfl := List.mem_singleton.mp hp
      rw [hread nodes [] rfl, hread _ [("T", "u")] rfl]
    · funext s
      cases s <;> rfl
  obtain ⟨hprefixes, hnew, -⟩ := run_keeps_last l [good, gone, loud]
  have hresults : (l.run [good, gone, loud]).1 = [l.result good, l.result gone, l.result loud] :=
    congrArg Prod.fst (run_eq l _)
  rw [hgood, hgone, hloud] at hresults
  have hkept := congrArg Loader.current (hprefixes _ List.prefix_rfl).2
  rw [hresults] at hkept
  exact ⟨rfl, hnew (world [] []) (some "c.json") rfl, hgood, ⟨_, hgone⟩, ⟨_, hloud⟩, hkept, halike,
    (run_keeps_last l []).2.2 [good, gone, loud] good again halike⟩

end Loader

end QuerySieve
