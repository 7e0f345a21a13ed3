import QuerySieve.Proofs.Failure
import QuerySieve.Proofs.Settings.Precedence

/-!
# Proofs/Settings/Loader — in what ways loading settings breaks down

Most of what can be wrong with a file of settings is reported.  `Loader.Breaks` lists the rest, along
the way from looking for a file to the keys of the record in it, and loading breaks down in just
these ways (`load_settings_told_iff`).  What variables and arguments say never matters for it.
-/

namespace QuerySieve

namespace Loader

variable {l : Loader} {w : World} {p : Place} {s : String} {limits : Limits}

/-! ## The ways in which loading breaks down -/

/-- The places where a file is looked for. -/
def places (l : Loader) : List Place := l.file.elim l.candidates fun p => [p]

/-- A place that is looked at: no file comes before it. -/
def LooksAt (w : World) : List Place → Place → Prop := Reached fun q => w.holdsFile q = false

/-- The text of a file is read in the object notation: its ending wants it, or its ending wants
neither notation and it breaks the rules of the indented one. -/
def AsksForJson (limits : Limits) (p : Place) (s : String) : Prop :=
  p.ending = ".json" ∨ ¬ IsYaml p ∧ Yaml.read (limits.yaml s) s = .error .malformed

/-- **The breakdowns in a text**: what it writes stands for nothing, or is too long or too deep. -/
inductive TextBreaks (limits : Limits) (p : Place) (s : String) : Breakdown → Prop
  | meaningless {fault : Yaml.Fault} (hending : p.ending ≠ ".json")
      (hread : Yaml.read (limits.yaml s) s = .error fault) (hfault : fault ≠ .malformed) :
      TextBreaks limits p s (.meaningless fault)
  | json {fault : Json.Fault} {b : Breakdown} (hasks : AsksForJson limits p s)
      (hread : Json.read (limits.json s) s = .error fault) (hfault : fault.breakdown? = some b) :
      TextBreaks limits p s b

/-- **The breakdowns of a file**: what comes first in it breaks down while the rest is still to come,
its bytes are no text, or its text breaks down. -/
inductive FileBreaks (w : World) (p : Place) : Breakdown → Prop
  | early {content : ByteArray} {fault : Yaml.Fault} (hread : w.read p = .ok content)
      (hearly : earlyFault? w.limits p content = some fault) (hfault : fault ≠ .malformed) :
      FileBreaks w p (.meaningless fault)
  | undecodable {content : ByteArray} (hread : w.read p = .ok content)
      (hearly : earlyFault? w.limits p content = none) (hdecode : FileTree.decode? content = none) :
      FileBreaks w p .undecodable
  | text {content : ByteArray} {s : String} {b : Breakdown} (hread : w.read p = .ok content)
      (hearly : earlyFault? w.limits p content = none)
      (hdecode : FileTree.decode? content = some s) (htext : TextBreaks w.limits p s b) :
      FileBreaks w p b

/-- **The breakdowns of loading**: a place that is looked at is too long, the file that counts breaks
down, or not all of its keys are names. -/
inductive Breaks (l : Loader) (w : World) : Breakdown → Prop
  | unreachable {p : Place} (hlooks : LooksAt w l.places p) (hpath : w.path p = .error .tooLong) :
      Breaks l w (.unreachable .tooLong)
  | file {p : Place} {b : Breakdown} (hchosen : l.chosen w = .ok (some p))
      (hfile : FileBreaks w p b) : Breaks l w b
  | unnamedKey {fields : Fields} {field : Key × Data} (hfields : l.fileFields w = .ok fields)
      (hmem : field ∈ fields) (hkey : ¬ field.1.isName = true) : Breaks l w .unnamedKey

/-! ## Looking for the file -/

/-- Some place that is looked at is too long. -/
def Overlong (w : World) (ps : List Place) (b : Breakdown) : Prop :=
  b = .unreachable .tooLong ∧ ∃ p, LooksAt w ps p ∧ w.path p = .error .tooLong

theorem not_overlong_nil {b : Breakdown} : ¬ Overlong w [] b :=
  fun ⟨_, _, hlooks, _⟩ => not_reached_nil hlooks

theorem overlong_cons_iff {ps : List Place} {b : Breakdown} :
    Overlong w (p :: ps) b ↔
      b = .unreachable .tooLong ∧ w.path p = .error .tooLong ∨
      w.holdsFile p = false ∧ Overlong w ps b := by
  simp only [Overlong, LooksAt, reached_cons_iff]
  constructor
  · rintro ⟨rfl, q, rfl | ⟨hfile, hlooks⟩, hpath⟩
    · exact .inl ⟨rfl, hpath⟩
    · exact .inr ⟨hfile, rfl, q, hlooks, hpath⟩
  · rintro (⟨rfl, hpath⟩ | ⟨hfile, rfl, q, hlooks, hpath⟩)
    · exact ⟨rfl, p, .inl rfl, hpath⟩
    · exact ⟨rfl, q, .inr ⟨hfile, hlooks⟩, hpath⟩

theorem endsIn_firstFile : ∀ ps : List Place, EndsIn .settings (Overlong w ps) (firstFile w ps)
  | [] => (EndsIn.ok none).congr fun _ => iff_of_false id not_overlong_nil
  | p :: ps => by
    refine EndsIn.congr ?_ fun b => overlong_cons_iff.symm
    rw [firstFile]
    cases hholds : w.holds p with
    | error fault =>
      obtain ⟨rfl, hpath⟩ := World.holds_eq_error_iff.mp hholds
      exact (EndsIn.breakdown _).congr fun b =>
        ⟨fun hb => .inl ⟨hb, hpath⟩, fun h => h.elim And.left fun h => h.2.1⟩
    | ok there =>
      have hpath := World.path_ne_tooLong_of_holds hholds
      -- a place that is not too long either ends the search or is passed over
      by_cases hfile : w.holdsFile p = true
      · obtain ⟨content, hread⟩ := World.holdsFile_eq_true_iff.mp hfile
        obtain rfl := Except.ok.inj (hholds.symm.trans (World.holds_of_read hread))
        rw [hfile]
        exact (EndsIn.ok (some p)).congr fun b => by simp [hpath]
      · have hnone : w.holdsFile p = false := by simpa using hfile
        simp only [hnone, Bool.and_false, Bool.false_eq_true, if_false]
        exact (endsIn_firstFile ps).congr fun b => by simp [hpath]

theorem endsIn_chosen (l : Loader) (w : World) :
    EndsIn .settings (Overlong w l.places) (l.chosen w) := by
  rw [chosen, places]
  cases l.file with
  | none => exact endsIn_firstFile l.candidates
  | some p =>
    refine EndsIn.congr ?_ fun b => overlong_cons_iff.symm
    dsimp only
    cases hholds : w.holds p with
    | error fault =>
      obtain ⟨rfl, hpath⟩ := World.holds_eq_error_iff.mp hholds
      exact (EndsIn.breakdown _).congr fun b => by simp [hpath, not_overlong_nil]
    | ok there =>
      have hpath := World.path_ne_tooLong_of_holds hholds
      have hnever : ∀ b, False ↔ b = .unreachable .tooLong ∧ w.path p = .error .tooLong ∨
          w.holdsFile p = false ∧ Overlong w [] b := fun b => by simp [hpath, not_overlong_nil]
      cases there with
      | true => exact (EndsIn.ok _).congr hnever
      | false => exact (EndsIn.report (Report.area_make ..)).congr hnever

/-! ## Reading it -/

theorem endsIn_unreadable {α : Type} (p : Place) (cause : Cause) :
    EndsIn .settings (fun _ => False) (.error (unreadable p cause) : Except Failure α) :=
  EndsIn.report (Report.area_make ..)

theorem endsIn_readJson (limits : Limits) (p : Place) (s : String) :
    EndsIn .settings
      (fun b => ∃ fault, Json.read (limits.json s) s = .error fault ∧ fault.breakdown? = some b)
      (readJson limits p s) :=
  endsIn_json (endsIn_unreadable p _) (Json.read _ s)

/-- A text that breaks the rules of the indented notation is left to the other reading. -/
theorem endsIn_readYaml (limits : Limits) (s : String) {otherwise : Except Failure Data}
    {breaks : Breakdown → Prop} (h : EndsIn .settings breaks otherwise) :
    EndsIn .settings (fun b =>
        (∃ fault, Yaml.read (limits.yaml s) s = .error fault ∧ fault ≠ .malformed ∧
          b = .meaningless fault) ∨
          Yaml.read (limits.yaml s) s = .error .malformed ∧ breaks b)
      (readYaml limits s otherwise) := by
  rw [readYaml]
  cases Yaml.read (limits.yaml s) s with
  | ok d =>
    refine (EndsIn.ok _).congr fun b => iff_of_false id ?_
    rintro (⟨fault, hfault, -⟩ | ⟨hfault, -⟩) <;> exact nomatch hfault
  | error fault =>
    simp only [Except.error.injEq, exists_eq_left']
    cases fault with
    | malformed => exact h.congr fun b => by simp
    | _ => exact (EndsIn.breakdown _).congr fun b => by simp

theorem textBreaks_iff {b : Breakdown} :
    TextBreaks limits p s b ↔
      (p.ending ≠ ".json" ∧ ∃ fault, Yaml.read (limits.yaml s) s = .error fault ∧
        fault ≠ .malformed ∧ b = .meaningless fault) ∨
      (AsksForJson limits p s ∧
        ∃ fault, Json.read (limits.json s) s = .error fault ∧ fault.breakdown? = some b) := by
  constructor
  · rintro (⟨hending, hread, hfault⟩ | ⟨hasks, hread, hfault⟩)
    · exact .inl ⟨hending, _, hread, hfault, rfl⟩
    · exact .inr ⟨hasks, _, hread, hfault⟩
  · rintro (⟨hending, fault, hread, hfault, rfl⟩ | ⟨hasks, fault, hread, hfault⟩)
    · exact .meaningless hending hread hfault
    · exact .json hasks hread hfault

theorem endsIn_readText (limits : Limits) (p : Place) (s : String) :
    EndsIn .settings (TextBreaks limits p s) (readText limits p s) := by
  rw [readText]
  by_cases hyaml : IsYaml p
  · have hjson : p.ending ≠ ".json" := by rcases hyaml with h | h <;> rw [h] <;> decide
    have hasks : ¬ AsksForJson limits p s := by
      rintro (h | ⟨h, -⟩)
      · exact hjson h
      · exact h hyaml
    rw [if_pos hyaml]
    refine (endsIn_readYaml limits s (endsIn_unreadable p _)).congr fun b => ?_
    rw [textBreaks_iff, and_iff_right hjson, and_false, or_false, or_iff_left fun h => hasks h.1]
  · rw [if_neg hyaml]
    by_cases hjson : p.ending = ".json"
    · rw [if_pos hjson]
      refine (endsIn_readJson limits p s).congr fun b => ?_
      rw [textBreaks_iff, or_iff_right fun h => h.1 hjson, and_iff_right (.inl hjson)]
    · have hasks : AsksForJson limits p s ↔ Yaml.read (limits.yaml s) s = .error .malformed := by
        rw [AsksForJson, or_iff_right hjson, and_iff_right hyaml]
      rw [if_neg hjson]
      refine (endsIn_readYaml limits s (endsIn_readJson limits p s)).congr fun b => ?_
      rw [textBreaks_iff, and_iff_right hjson, hasks]

theorem fileBreaks_iff {b : Breakdown} :
    FileBreaks w p b ↔ ∃ content, w.read p = .ok content ∧
      ((∃ fault, earlyFault? w.limits p content = some fault ∧ fault ≠ .malformed ∧
          b = .meaningless fault) ∨
        earlyFault? w.limits p content = none ∧ (FileTree.decode? content = none ∧
            b = .undecodable ∨
          ∃ s, FileTree.decode? content = some s ∧ TextBreaks w.limits p s b)) := by
  constructor
  · rintro (⟨hread, hearly, hfault⟩ | ⟨hread, hearly, hdecode⟩ | ⟨hread, hearly, hdecode, htext⟩)
    · exact ⟨_, hread, .inl ⟨_, hearly, hfault, rfl⟩⟩
    · exact ⟨_, hread, .inr ⟨hearly, .inl ⟨hdecode, rfl⟩⟩⟩
    · exact ⟨_, hread, .inr ⟨hearly, .inr ⟨_, hdecode, htext⟩⟩⟩
  · rintro ⟨content, hread, ⟨fault, hearly, hfault, rfl⟩ |
      ⟨hearly, ⟨hdecode, rfl⟩ | ⟨s, hdecode, htext⟩⟩⟩
    · exact .early hread hearly hfault
    · exact .undecodable hread hearly hdecode
    · exact .text hread hearly hdecode htext

theorem endsIn_readContent (limits : Limits) (p : Place) (content : ByteArray) :
    EndsIn .settings (fun b => (∃ fault, earlyFault? limits p content = some fault ∧
          fault ≠ .malformed ∧ b = .meaningless fault) ∨
        earlyFault? limits p content = none ∧ (FileTree.decode? content = none ∧
            b = .undecodable ∨
          ∃ s, FileTree.decode? content = some s ∧ TextBreaks limits p s b))
      (readContent limits p content) := by
  rw [readContent]
  cases earlyFault? limits p content with
  | some fault =>
    cases fault with
    | malformed => exact (endsIn_unreadable p _).congr fun b => by simp
    | _ => exact (EndsIn.breakdown _).congr fun b => by simp
  | none =>
    cases FileTree.decode? content with
    | none => exact (EndsIn.breakdown _).congr fun b => by simp
    | some s => exact (endsIn_readText limits p s).congr fun b => by simp

theorem endsIn_readFile (w : World) (p : Place) :
    EndsIn .settings (FileBreaks w p) (readFile w p) := by
  refine EndsIn.congr ?_ fun b => fileBreaks_iff.symm
  rw [readFile]
  cases w.read p with
  | error fault => exact (endsIn_unreadable p _).congr fun b => by simp
  | ok content =>
    simp only [Except.ok.injEq, exists_eq_left']
    refine ((endsIn_readContent w.limits p content).bind (fun _ _ => False)
      fun d _ => ?_).congr fun b => by simp
    cases d with
    | record fields => exact EndsIn.ok fields
    | _ => exact EndsIn.report (Report.area_make ..)

theorem endsIn_fileFields (l : Loader) (w : World) :
    EndsIn .settings (fun b => Overlong w l.places b ∨
      ∃ p, l.chosen w = .ok (some p) ∧ FileBreaks w p b) (l.fileFields w) := by
  refine ((endsIn_chosen l w).bind (fun chosen b => ∃ p, chosen = some p ∧ FileBreaks w p b)
    fun chosen _ => ?_).congr fun b => or_congr_right ⟨?_, ?_⟩
  · cases chosen with
    | none => exact (EndsIn.ok []).congr fun b => by simp
    | some p => exact (endsIn_readFile w p).congr fun b => by simp
  · rintro ⟨_, hchosen, p, rfl, hbreaks⟩
    exact ⟨p, hchosen, hbreaks⟩
  · rintro ⟨p, hchosen, hbreaks⟩
    exact ⟨_, hchosen, p, rfl, hbreaks⟩

/-! ## Making settings of it -/

theorem endsIn_validate (fields : Fields) :
    EndsIn .settings (fun b => b = .unnamedKey ∧ ∃ field ∈ fields, ¬ field.1.isName = true)
      (validate fields) := by
  rw [validate]
  by_cases hnames : (fields.all fun field => field.1.isName) = true
  · have hall : ¬ ∃ field ∈ fields, ¬ field.1.isName = true := by
      rintro ⟨field, hfield, hname⟩
      exact hname (List.all_eq_true.mp hnames field hfield)
    rw [if_pos hnames]
    cases Settings.ofFields fields with
    | ok s => exact (EndsIn.ok s).congr fun b => iff_of_false id fun h => hall h.2
    | error vs =>
      have harea : (refusal .settingsSchema "Configuration validation failed: "
          (some (.unfit vs))).quoting.area = .settings := Report.area_make ..
      exact (EndsIn.report harea).congr fun b => iff_of_false id fun h => hall h.2
  · have hsome : ∃ field ∈ fields, ¬ field.1.isName = true := by
      simpa using hnames
    rw [if_neg hnames]
    exact (EndsIn.breakdown _).congr fun b => (and_iff_left hsome).symm

/-- Variables and arguments bring in names only. -/
theorem exists_unnamed_combine_iff (file : Fields) (start : String)
    (lookup : String → Option String) (arguments : List (String × Data)) :
    (∃ field ∈ Settings.combine file (Settings.ofVariables start lookup)
        (Settings.ofArguments arguments), ¬ field.1.isName = true) ↔
      ∃ field ∈ file, ¬ field.1.isName = true := by
  have hunnamed : ∀ fields : Fields, (∃ field ∈ fields, ¬ field.1.isName = true) ↔
      (fields.all fun field => field.1.isName) = false := fun fields => by simp
  have hbeside := congrArg Outline.beside (Settings.outline_combine file start lookup arguments)
  rw [hunnamed, hunnamed, Fields.all_isName_congr hbeside]

/-- **Loading settings breaks down in just the ways that are listed**, and else gives settings or a
report on them. -/
theorem endsIn_outcome (l : Loader) (w : World) (start : String)
    (arguments : List (String × Data)) : EndsIn .settings (l.Breaks w) (l.outcome w start arguments) := by
  refine ((endsIn_fileFields l w).bind _ fun file _ => endsIn_validate _).congr fun b => ⟨?_, ?_⟩
  · rintro ((⟨rfl, p, hlooks, hpath⟩ | ⟨p, hchosen, hfile⟩) | ⟨file, hfields, rfl, hunnamed⟩)
    · exact .unreachable hlooks hpath
    · exact .file hchosen hfile
    · obtain ⟨field, hmem, hkey⟩ := (exists_unnamed_combine_iff ..).mp hunnamed
      exact .unnamedKey hfields hmem hkey
  · rintro (⟨hlooks, hpath⟩ | ⟨hchosen, hfile⟩ | ⟨hfields, hmem, hkey⟩)
    · exact .inl (.inl ⟨rfl, _, hlooks, hpath⟩)
    · exact .inl (.inr ⟨_, hchosen, hfile⟩)
    · exact .inr ⟨_, hfields, rfl, (exists_unnamed_combine_iff ..).mpr ⟨_, hmem, hkey⟩⟩

end Loader

end QuerySieve
