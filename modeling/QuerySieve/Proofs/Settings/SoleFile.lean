import QuerySieve.Proofs.Settings.Reload

/-!
# Proofs/Settings/SoleFile — one file counts, and nothing else in the tree

Loading settings looks at one place after the other until there is a file, or at one place only if a
file was named.  What the file says that is found so, or that there is none, can be told without
following the search (`Loader.soleFile`), and loading comes to just that unless it meets a place that
is too long (`Loader.LooksTooFar`).  So two worlds that show a loader the same file make no difference
to it, whatever else there is in them (`load_sole_file_iff`).
-/

namespace QuerySieve

namespace World

variable {w w' : World} {p : Place}

/-- There is a file or a folder at the place. -/
def isThere (w : World) (p : Place) : Bool :=
  match w.path p with
  | .ok path => (w.tree.node? path).isSome
  | .error _ => false

theorem holds_eq_ok (h : w.path p ≠ .error .tooLong) : w.holds p = .ok (w.isThere p) := by
  rw [holds, isThere]
  cases hpath : w.path p with
  | ok path => rfl
  | error fault =>
    cases fault with
    | tooLong => exact absurd hpath h
    | _ => rfl

theorem isThere_of_holdsFile (h : w.holdsFile p = true) : w.isThere p = true := by
  obtain ⟨content, hread⟩ := holdsFile_eq_true_iff.mp h
  have hholds := holds_of_read hread
  exact Except.ok.inj ((holds_eq_ok (path_ne_tooLong_of_holds hholds)).symm.trans hholds)

/-- A place is followed to a path or to a fault on the way, and a folder is no fault on the way. -/
theorem follow_ne_isFolder (t : FileTree) : ∀ path names, t.follow path names ≠ .error .isFolder
  | path, [] => nofun
  | path, name :: names => by
    rw [FileTree.follow]
    cases t.node? path with
    | none => exact nofun
    | some node =>
      cases node with
      | file content => exact nofun
      | folder =>
        dsimp only
        split
        · exact nofun
        · split
          · exact follow_ne_isFolder t path.dropLast names
          · exact follow_ne_isFolder t (path ++ [name]) names

theorem path_ne_isFolder (w : World) (p : Place) : w.path p ≠ .error .isFolder := by
  rw [path]
  split
  · exact nofun
  · split
    · exact nofun
    · exact follow_ne_isFolder w.tree [] _

/-- There is something at a place if it is read, or if it is not read for being a folder. -/
theorem isThere_iff : w.isThere p = true ↔
    (∃ content, w.read p = .ok content) ∨ w.read p = .error .isFolder := by
  rw [isThere, read]
  cases hpath : w.path p with
  | error fault =>
    refine iff_of_false Bool.false_ne_true ?_
    rintro (⟨content, hread⟩ | hread)
    · cases hread
    · exact path_ne_isFolder w p (hpath.trans (congrArg _ (Except.error.inj hread)))
  | ok path =>
    show (w.tree.node? path).isSome = true ↔
      (∃ content, w.tree.file path = .ok content) ∨ w.tree.file path = .error .isFolder
    rw [FileTree.file]
    cases w.tree.node? path with
    | none => simp
    | some node => cases node <;> simp

theorem isThere_congr (h : w.read p = w'.read p) : w.isThere p = w'.isThere p :=
  Bool.eq_iff_iff.mpr (isThere_iff.trans (h ▸ isThere_iff.symm))

end World

namespace Loader

variable {l : Loader} {w w' : World} {p : Place} {start : String}
  {arguments : List (String × Data)}

/-! ## The file that counts -/

/-- **What the one file that counts says**: the file that was named, which must be there, or else the
first of the candidates that is a file, if there is one. -/
def soleFile (l : Loader) (w : World) : Except Failure Fields :=
  match l.file with
  | some p => if w.isThere p then readFile w p else .error (.report (missing p))
  | none =>
    match l.candidates.find? w.holdsFile with
    | some p => readFile w p
    | none => .ok []

/-- **What loading comes to with what a file says.** -/
def settle (w : World) (start : String) (arguments : List (String × Data))
    (file : Except Failure Fields) : Except Failure Settings :=
  file >>= fun fields => validate (Settings.combine fields
    (Settings.ofVariables start w.valueOf?) (Settings.ofArguments arguments))

/-- **Loading meets a place that is too long.** -/
def LooksTooFar (l : Loader) (w : World) : Prop :=
  ∃ p, LooksAt w l.places p ∧ w.path p = .error .tooLong

theorem load_eq_settle : (l.load w start arguments).1 = settle w start arguments (l.fileFields w) :=
  rfl

/-- Unless a place is too long, the search ends at the first file. -/
theorem firstFile_eq_find? : ∀ {ps : List Place},
    (∀ p, LooksAt w ps p → w.path p ≠ .error .tooLong) →
      firstFile w ps = .ok (ps.find? w.holdsFile)
  | [], _ => rfl
  | p :: ps, h => by
    rw [firstFile, World.holds_eq_ok (h p (.here p ps))]
    dsimp only
    cases hfile : w.holdsFile p with
    | true => rw [World.isThere_of_holdsFile hfile, List.find?_cons_of_pos hfile]; rfl
    | false =>
      rw [Bool.and_false, if_neg Bool.false_ne_true, List.find?_cons_of_neg (by simp [hfile])]
      exact firstFile_eq_find? fun q hlooks => h q (.further hfile hlooks)

/-- Only the places up to the first file are looked at. -/
theorem mem_of_looksAt (hfile : w.holdsFile p = true) {rest : List Place} {q : Place} :
    ∀ {front : List Place}, LooksAt w (front ++ p :: rest) q → q ∈ front ++ [p]
  | [], h => by
    rcases reached_cons_iff.mp h with rfl | ⟨hnone, -⟩
    · exact List.mem_singleton_self q
    · exact (Bool.false_ne_true (hnone.symm.trans hfile)).elim
  | first :: front, h => by
    rcases reached_cons_iff.mp h with rfl | ⟨-, h⟩
    · exact List.mem_cons_self
    · exact List.mem_cons_of_mem first (mem_of_looksAt hfile h)

/-- **Unless loading meets a place that is too long, it reads the one file that counts.** -/
theorem fileFields_eq_soleFile (h : ¬ l.LooksTooFar w) : l.fileFields w = l.soleFile w := by
  have hpath : ∀ p, LooksAt w l.places p → w.path p ≠ .error .tooLong := fun p hlooks hpath =>
    h ⟨p, hlooks, hpath⟩
  rw [places] at hpath
  rw [fileFields, chosen, soleFile]
  cases hfile : l.file with
  | none =>
    rw [hfile] at hpath
    have hfirst : firstFile w l.candidates = .ok _ := firstFile_eq_find? hpath
    dsimp only
    rw [hfirst]
    cases l.candidates.find? w.holdsFile <;> rfl
  | some p =>
    rw [hfile] at hpath
    dsimp only
    rw [World.holds_eq_ok (hpath p (.here p []))]
    cases w.isThere p <;> rfl

/-! ## Places that are too long -/

theorem load_of_looksTooFar (h : l.LooksTooFar w) :
    (l.load w start arguments).1 = .error (.breakdown (.unreachable .tooLong)) := by
  obtain ⟨p, hlooks, hpath⟩ := h
  exact ((endsIn_outcome l w start arguments).breakdown_iff _).mpr (.unreachable hlooks hpath)

theorem readFile_ne_unreachable (w : World) (p : Place) (fault : PathFault) :
    readFile w p ≠ .error (.breakdown (.unreachable fault)) := by
  intro h
  rcases ((endsIn_readFile w p).breakdown_iff _).mp h with _ | _ | ⟨-, -, -, htext⟩
  rcases htext with _ | ⟨-, -, hfault⟩
  cases ‹Json.Fault› <;> exact nomatch hfault

theorem soleFile_ne_unreachable (l : Loader) (w : World) (fault : PathFault) :
    l.soleFile w ≠ .error (.breakdown (.unreachable fault)) := by
  rw [soleFile]
  split
  · split
    · exact readFile_ne_unreachable w _ fault
    · exact nofun
  · split
    · exact readFile_ne_unreachable w _ fault
    · exact nofun

/-- What one file says is never told as a place that is too long. -/
theorem settle_soleFile_ne_unreachable (l : Loader) (w : World) (start : String)
    (arguments : List (String × Data)) (fault : PathFault) :
    settle w start arguments (l.soleFile w) ≠ .error (.breakdown (.unreachable fault)) := by
  rw [settle]
  cases hfile : l.soleFile w with
  | error failure =>
    exact fun h => soleFile_ne_unreachable l w fault
      (hfile.trans (congrArg _ (Except.error.inj h)))
  | ok fields => exact fun h => nomatch (((endsIn_validate _).breakdown_iff _).mp h).1

/-! ## Two worlds with the same file -/

/-- **Two worlds show a loader the same file**: the one that was named reads the same in both; or else
of the places up to the first file the same ones are files, and this one reads the same. Reading runs
up against the same limits. -/
structure SameFile (l : Loader) (w w' : World) : Prop where
  named : ∀ p, l.file = some p → w.read p = w'.read p
  earlier : l.file = none → ∀ p, LooksAt w l.candidates p → w.holdsFile p = w'.holdsFile p
  found : l.file = none → ∀ p, l.candidates.find? w.holdsFile = some p → w.read p = w'.read p
  limits : w.limits = w'.limits

theorem find?_holdsFile_congr : ∀ {ps : List Place},
    (∀ p, LooksAt w ps p → w.holdsFile p = w'.holdsFile p) →
      ps.find? w.holdsFile = ps.find? w'.holdsFile
  | [], _ => rfl
  | p :: ps, h => by
    have hp := h p (.here p ps)
    rw [List.find?_cons, List.find?_cons, ← hp]
    cases hfile : w.holdsFile p with
    | true => rfl
    | false => exact find?_holdsFile_congr fun q hlooks => h q (.further hfile hlooks)

/-- **The file that counts says the same in both worlds.** -/
theorem SameFile.soleFile_eq (h : l.SameFile w w') : l.soleFile w = l.soleFile w' := by
  rw [soleFile, soleFile]
  cases hfile : l.file with
  | some p =>
    have hread := h.named p hfile
    dsimp only
    rw [World.isThere_congr hread, readFile_congr hread h.limits]
  | none =>
    dsimp only
    rw [← find?_holdsFile_congr (h.earlier hfile)]
    cases hfound : l.candidates.find? w.holdsFile with
    | none => rfl
    | some p => exact readFile_congr (h.found hfile p hfound) h.limits

theorem load_of_not_looksTooFar (h : ¬ l.LooksTooFar w) :
    (l.load w start arguments).1 = settle w start arguments (l.soleFile w) :=
  load_eq_settle.trans (congrArg (settle w start arguments) (fileFields_eq_soleFile h))

/-- **Worlds with the same file lead to the same**, unless one of them alone has a place in the way
that is too long. -/
theorem SameFile.load_eq_iff (h : l.SameFile w w') (hvalue : w.valueOf? = w'.valueOf?) :
    (l.load w start arguments).1 = (l.load w' start arguments).1 ↔
      (l.LooksTooFar w ↔ l.LooksTooFar w') := by
  have hsettle : settle w start arguments (l.soleFile w) =
      settle w' start arguments (l.soleFile w') := by
    rw [h.soleFile_eq, settle, settle, hvalue]
  by_cases hfar : l.LooksTooFar w <;> by_cases hfar' : l.LooksTooFar w'
  · rw [load_of_looksTooFar hfar, load_of_looksTooFar hfar']
    exact iff_of_true rfl (iff_of_true hfar hfar')
  · rw [load_of_looksTooFar hfar, load_of_not_looksTooFar hfar']
    exact iff_of_false (fun heq => settle_soleFile_ne_unreachable _ _ _ _ _ heq.symm)
      fun h => hfar' (h.mp hfar)
  · rw [load_of_not_looksTooFar hfar, load_of_looksTooFar hfar']
    exact iff_of_false (settle_soleFile_ne_unreachable _ _ _ _ _) fun h => hfar (h.mpr hfar')
  · rw [load_of_not_looksTooFar hfar, load_of_not_looksTooFar hfar', hsettle]
    exact iff_of_true rfl (iff_of_false hfar hfar')

/-- **Exactly one file counts.** Without a file that is named it is looked for in the usual places, in
their order. Loading settings comes to what comes of the one file that counts, unless it meets a place
that is too long, in which case it breaks down; a file that was named is reported as missing if it is
not there. And two worlds with the same variables that show a loader the same file lead to the same,
if both of them or neither make it meet such a place. -/
theorem load_sole_file_iff (l : Loader) (w : World) (start : String)
    (arguments : List (String × Data)) :
    (∀ w₀ home, w₀.home? = some home →
      (Loader.start w₀ none = .ok l → l.file = none ∧ l.candidates = usualPlaces w₀ home) ∧
      ∀ s, s ≠ "" → Loader.start w₀ (some s) = .ok l → l.file = some (.ofText s)) ∧
    ((l.load w start arguments).1 = settle w start arguments (l.soleFile w) ↔ ¬ l.LooksTooFar w) ∧
    (l.LooksTooFar w →
      (l.load w start arguments).1 = .error (.breakdown (.unreachable .tooLong))) ∧
    (∀ p, l.file = some p → ¬ w.isThere p = true →
      ∃ r : Report, settle w start arguments (l.soleFile w) = .error (.report r) ∧
        r.code = .settingsMissing) ∧
    ∀ w', l.SameFile w w' → w.valueOf? = w'.valueOf? →
      ((l.load w start arguments).1 = (l.load w' start arguments).1 ↔
        (l.LooksTooFar w ↔ l.LooksTooFar w')) := by
  refine ⟨fun w₀ home hhome => ⟨fun hstart => ?_, fun s hs hstart => ?_⟩,
    ⟨fun heq h => ?_, load_of_not_looksTooFar⟩, load_of_looksTooFar, fun p hfile hthere => ?_,
    fun w' hsame hvalue => hsame.load_eq_iff hvalue⟩
  · rw [Loader.start, hhome] at hstart
    obtain rfl := Except.ok.inj hstart
    exact ⟨rfl, rfl⟩
  · rw [Loader.start, hhome] at hstart
    obtain rfl := Except.ok.inj hstart
    exact if_neg (by simpa using hs)
  · exact settle_soleFile_ne_unreachable l w start arguments .tooLong
      (heq.symm.trans (load_of_looksTooFar h))
  · refine ⟨missing p, ?_, ?_⟩
    · rw [soleFile, hfile, settle]
      dsimp only
      rw [if_neg hthere]
      rfl
    · rw [missing, Report.make_eq]

/-- A folder of the first name and a missing second file are passed over, and neither the folder nor
what stands behind the third file counts. A file that was named is missing although that one is
there. -/
theorem load_sole_file_iff_third :
    let content := "debug: on".toUTF8
    let world (nodes : List (List String × FileNode)) : World :=
      ⟨⟨nodes⟩, ⟨1, []⟩, ⟨1, ["home"]⟩, [], ⟨1, 2, 3, 4, 5, 6, 7, none⟩, .usual⟩
    let w := world [(["searchfilter.yaml"], .folder), ([".searchfilter.yaml"], .file content)]
    let w' := world [([".searchfilter.yaml"], .file content),
      ([".searchfilter.yml"], .file "debug: [".toUTF8)]
    let third : Place := ⟨1, [".searchfilter.yaml"]⟩
    let gone : Place := ⟨1, ["gone.yaml"]⟩
    let l : Loader := ⟨none, usualPlaces w ⟨1, ["home"]⟩, none⟩
    let named : Loader := { l with file := some gone }
    Loader.start w none = .ok l ∧ l.candidates = usualPlaces w ⟨1, ["home"]⟩ ∧
      ¬ l.LooksTooFar w ∧
      (l.load w usualStart []).1 = settle w usualStart [] (readFile w third) ∧
      l.SameFile w w' ∧ (l.load w usualStart []).1 = (l.load w' usualStart []).1 ∧
      ∃ r : Report, (named.load w usualStart []).1 = .error (.report r) ∧
        r.code = .settingsMissing := by
  intro content world w w' third gone l named
  let first : Place := ⟨1, ["searchfilter.yaml"]⟩
  let second : Place := ⟨1, ["searchfilter.yml"]⟩
  have hpath : ∀ nodes, ∀ p ∈ [first, second, third, gone],
      (world nodes).path p = .ok p.names := by
    intro nodes
    simp only [List.forall_mem_cons, List.not_mem_nil, false_implies, implies_true, and_true]
    refine ⟨if_neg ?_, if_neg ?_, if_neg ?_, if_neg ?_⟩ <;>
      simp [first, second, third, gone, Place.text]
  have hread : ∀ nodes, ∀ p ∈ [first, second, third, gone],
      (world nodes).read p = FileTree.file ⟨nodes⟩ p.names := by
    intro nodes p hp
    rw [World.read, hpath nodes p hp]
    rfl
  have hthird : w.read third = .ok content := hread _ third (by simp)
  have hthird' : w'.read third = .ok content := hread _ third (by simp)
  have hw : w.holdsFile third = true := World.holdsFile_eq_true_iff.mpr ⟨content, hthird⟩
  have hw' : w'.holdsFile third = true := World.holdsFile_eq_true_iff.mpr ⟨content, hthird'⟩
  have hnone : ∀ p ∈ [first, second], w.holdsFile p = false ∧ w'.holdsFile p = false := by
    intro p hp
    have hmem : p ∈ [first, second, third, gone] := List.mem_append_left [third, gone] hp
    rw [World.holdsFile, World.holdsFile, hread _ p hmem, hread _ p hmem]
    rcases List.mem_pair.mp hp with rfl | rfl <;> exact ⟨rfl, rfl⟩
  -- the third of the usual places is the last one that is looked at
  have hlooks : ∀ nodes, (world nodes).holdsFile third = true → ∀ p,
      LooksAt (world nodes) l.candidates p → p ∈ [first, second] ++ [third] :=
    fun nodes hfile p h => mem_of_looksAt hfile h
  have hnear : ∀ nodes, (world nodes).holdsFile third = true → ¬ l.LooksTooFar (world nodes) := by
    rintro nodes hfile ⟨p, h, htoo⟩
    cases (hpath nodes p (List.mem_append_left [gone] (hlooks nodes hfile p h))).symm.trans htoo
  have hfound : l.candidates.find? w.holdsFile = some third :=
    List.find?_eq_some_iff_append.mpr ⟨hw, [first, second], _, rfl, fun p hp => by
      rw [(hnone p hp).1, Bool.not_false]⟩
  have hsame : l.SameFile w w' := by
    refine ⟨fun p h => (Option.some_ne_none p h.symm).elim, fun _ p h => ?_, fun _ p h => ?_, rfl⟩
    · rcases List.mem_append.mp (hlooks _ hw p h) with hp | hp
      · exact (hnone p hp).1.trans (hnone p hp).2.symm
      · exact List.mem_singleton.mp hp ▸ hw.trans hw'.symm
    · obtain rfl := Option.some.inj (hfound.symm.trans h)
      exact hthird.trans hthird'.symm
  have hsole : l.soleFile w = readFile w third := by
    rw [soleFile, hfound]
  have hgone : w.path gone = .ok gone.names := hpath _ gone (by simp)
  have hnamed : ¬ named.LooksTooFar w := by
    rintro ⟨p, h, htoo⟩
    rcases reached_cons_iff.mp h with rfl | ⟨-, h⟩
    · cases hgone.symm.trans htoo
    · exact not_reached_nil h
  have hmissing : ¬ w.isThere gone = true := by
    rw [World.isThere, hgone]
    exact Bool.false_ne_true
  obtain ⟨hl, hiff, -, -, hworlds⟩ := load_sole_file_iff l w usualStart []
  obtain ⟨-, hiff', -, hreport, -⟩ := load_sole_file_iff named w usualStart []
  exact ⟨rfl, ((hl w _ rfl).1 rfl).2, hnear _ hw, hsole ▸ hiff.mpr (hnear _ hw), hsame,
    (hworlds w' hsame rfl).mpr (iff_of_false (hnear _ hw) (hnear _ hw')),
    hiff'.mpr hnamed ▸ hreport gone rfl hmissing⟩

/-- **A name that is too long is no missing file.** -/
theorem load_overlong_name :
    let name := String.ofList (List.replicate 256 'a')
    let w : World := ⟨⟨[]⟩, ⟨1, []⟩, ⟨1, []⟩, [], ⟨1, 2, 3, 4, 5, 6, 7, none⟩, .usual⟩
    let l : Loader := ⟨some ⟨0, [name]⟩, usualPlaces w ⟨1, []⟩, none⟩
    Loader.start w (some name) = .ok l ∧ ¬ w.isThere ⟨0, [name]⟩ = true ∧
      (l.load w usualStart []).1 = .error (.breakdown (.unreachable .tooLong)) ∧
      ¬ ∃ r : Report, (l.load w usualStart []).1 = .error (.report r) ∧
        r.code = .settingsMissing := by
  intro name w l
  have hpath : w.path ⟨0, [name]⟩ = .error .tooLong := by
    have htext : Place.text ⟨0, [name]⟩ = name := by simp [Place.text]
    have hzero : name.contains '\x00' = false := by
      rw [String.contains_char_eq, String.toList_ofList, decide_eq_false_iff_not, List.mem_replicate]
      decide
    rw [World.path, htext, hzero]
    decide +kernel
  have hstart : Loader.start w (some name) = .ok l := by
    have hnames : ((Text.splitOn '/' (List.replicate 256 'a')).filter fun cs =>
        !cs.isEmpty && cs != ['.']) = [List.replicate 256 'a'] := by decide +kernel
    have hplace : Place.ofText name = ⟨0, [name]⟩ := by
      rw [Place.ofText, String.toList_ofList, hnames]
      rfl
    have hname : name.isEmpty = false := by decide +kernel
    have hhome : w.home? = some ⟨1, []⟩ := rfl
    rw [Loader.start, hhome]
    simp only [Option.bind_some, hname, hplace]
    rfl
  have hload : (l.load w usualStart []).1 = .error (.breakdown (.unreachable .tooLong)) :=
    load_of_looksTooFar ⟨_, .here _ [], hpath⟩
  refine ⟨hstart, ?_, hload, ?_⟩
  · rw [World.isThere, hpath]
    exact Bool.false_ne_true
  · rintro ⟨r, hr, -⟩
    cases hload.symm.trans hr

end Loader

end QuerySieve
