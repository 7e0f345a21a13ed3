import QuerySieve.Proofs.Failure

/-!
# Proofs/Report — suggestions come to stand by urgency, whenever they arrive

A report sorts its suggestions anew with every one that is added, and is made with suggestions that
are not sorted at all.  What comes of it does not depend on that: there is only one way in which
suggestions stand by urgency and equally urgent ones as they arrived (`Suggestion.ByUrgency`), so that
sorting again and again is sorting once (`sort_sort_append`).  From the first suggestion that is added
on, by the report itself or by others, all of them stand in this way, and the first three are what the
user is told (`suggestions_by_urgency`).
-/

namespace QuerySieve

namespace Suggestion

variable {arrived suggestions : List Suggestion}

/-- **The suggestions stand by urgency**, and equally urgent ones as they arrived. -/
structure ByUrgency (arrived suggestions : List Suggestion) : Prop where
  /-- None is lost or repeated. -/
  perm : suggestions.Perm arrived
  urgent : suggestions.Pairwise fun s t => s.priority ≤ t.priority
  steady : ∀ n, suggestions.filter (·.priority = n) = arrived.filter (·.priority = n)

/-! ## There is one such order -/

theorem filter_priority_cons {s : Suggestion} {n : Int} (h : s.priority = n)
    (rest : List Suggestion) :
    (s :: rest).filter (·.priority = n) = s :: rest.filter (·.priority = n) :=
  List.filter_cons_of_pos (decide_eq_true h)

theorem priority_le_of_mem {s t : Suggestion} {rest : List Suggestion}
    (h : (s :: rest).Pairwise fun s t => s.priority ≤ t.priority) (ht : t ∈ s :: rest) :
    s.priority ≤ t.priority := by
  rcases List.mem_cons.mp ht with rfl | ht
  · exact Int.le_refl _
  · exact List.rel_of_pairwise_cons h ht

/-- Of two rows by urgency that have the same of every priority, the first ones are equally urgent. -/
theorem priority_le_of_filter_eq {s t : Suggestion} {rest rest' : List Suggestion}
    (h : (s :: rest).Pairwise fun s t => s.priority ≤ t.priority)
    (hsame : (s :: rest).filter (·.priority = t.priority) =
      (t :: rest').filter (·.priority = t.priority)) : s.priority ≤ t.priority := by
  have ht : t ∈ (s :: rest).filter (·.priority = t.priority) := by
    rw [hsame, filter_priority_cons rfl]
    exact List.mem_cons_self
  exact priority_le_of_mem h (List.mem_filter.mp ht).1

/-- Rows by urgency are equal if they have the same of every priority. -/
theorem eq_of_filter_eq : ∀ {l l' : List Suggestion},
    l.Pairwise (fun s t => s.priority ≤ t.priority) →
    l'.Pairwise (fun s t => s.priority ≤ t.priority) →
    (∀ n, l.filter (·.priority = n) = l'.filter (·.priority = n)) → l = l'
  | [], [], _, _, _ => rfl
  | [], t :: rest, _, _, hsame =>
    nomatch (hsame t.priority).trans (filter_priority_cons rfl rest)
  | s :: rest, [], _, _, hsame =>
    nomatch (hsame s.priority).symm.trans (filter_priority_cons rfl rest)
  | s :: rest, t :: rest', hl, hl', hsame => by
    have hpriority : s.priority = t.priority := Int.le_antisymm
      (priority_le_of_filter_eq hl (hsame t.priority))
      (priority_le_of_filter_eq hl' (hsame s.priority).symm)
    have hfirst := hsame s.priority
    rw [filter_priority_cons rfl, filter_priority_cons hpriority.symm] at hfirst
    obtain rfl := (List.cons.inj hfirst).1
    refine congrArg (s :: ·) (eq_of_filter_eq hl.tail hl'.tail fun n => ?_)
    have hrest := hsame n
    rw [List.filter_cons, List.filter_cons] at hrest
    split at hrest
    · exact (List.cons.inj hrest).2
    · exact hrest

theorem ByUrgency.eq {suggestions' : List Suggestion} (h : ByUrgency arrived suggestions)
    (h' : ByUrgency arrived suggestions') : suggestions = suggestions' :=
  eq_of_filter_eq h.urgent h'.urgent fun n => (h.steady n).trans (h'.steady n).symm

/-! ## Sorting -/

theorem precedes_trans (s t u : Suggestion) (hst : s.precedes t = true) (htu : t.precedes u = true) :
    s.precedes u = true :=
  decide_eq_true (Int.le_trans (of_decide_eq_true hst) (of_decide_eq_true htu))

theorem precedes_total (s t : Suggestion) : (s.precedes t || t.precedes s) = true := by
  rw [Bool.or_eq_true]
  exact (Int.le_total s.priority t.priority).imp decide_eq_true decide_eq_true

/-- **Sorting puts suggestions by urgency.** -/
theorem byUrgency_sort (arrived : List Suggestion) : ByUrgency arrived (sort arrived) := by
  have hperm : (sort arrived).Perm arrived := List.mergeSort_perm arrived precedes
  constructor
  case perm => exact hperm
  case urgent =>
    exact (List.pairwise_mergeSort precedes_trans precedes_total arrived).imp of_decide_eq_true
  case steady =>
    intro n
    -- those of one priority stand by urgency already, and sorting keeps such a part of the list
    have hpart : (arrived.filter (·.priority = n)).Pairwise fun s t => s.precedes t = true := by
      refine List.pairwise_of_forall_mem_list fun s hs t ht => decide_eq_true (Int.le_of_eq ?_)
      have hs' : s.priority = n := of_decide_eq_true (List.mem_filter.mp hs).2
      exact hs'.trans (of_decide_eq_true (List.mem_filter.mp ht).2 : t.priority = n).symm
    have hkept := (List.sublist_mergeSort precedes_trans precedes_total hpart
      List.filter_sublist).filter (·.priority = n)
    rw [List.filter_filter, List.filter_congr fun s _ => Bool.and_self _] at hkept
    exact (hkept.eq_of_length (hperm.filter _).length_eq.symm).symm

/-- **Sorting what was sorted with what came later is sorting once.** -/
theorem sort_sort_append (arrived later : List Suggestion) :
    sort (sort arrived ++ later) = sort (arrived ++ later) := by
  have hfirst := byUrgency_sort arrived
  have hboth := byUrgency_sort (sort arrived ++ later)
  refine ByUrgency.eq ⟨?_, hboth.urgent, fun n => ?_⟩ (byUrgency_sort (arrived ++ later))
  · exact hboth.perm.trans (hfirst.perm.append_right later)
  · rw [hboth.steady, List.filter_append, hfirst.steady, ← List.filter_append]

/-! ## The most urgent ones -/

/-- **The most urgent suggestions, at most so many**, and the earliest of equally urgent ones. -/
structure MostUrgent (count : Nat) (arrived shown : List Suggestion) : Prop where
  length : shown.length = min count arrived.length
  urgent : shown.Pairwise fun s t => s.priority ≤ t.priority
  /-- Whatever is left out is no more urgent. -/
  rest : ∃ left : List Suggestion, (shown ++ left).Perm arrived ∧
    ∀ s ∈ shown, ∀ t ∈ left, s.priority ≤ t.priority
  /-- Of every priority there are the first ones that arrived. -/
  earliest : ∀ n, shown.filter (·.priority = n) <+: arrived.filter (·.priority = n)

theorem ByUrgency.take (h : ByUrgency arrived suggestions) (count : Nat) :
    MostUrgent count arrived (suggestions.take count) := by
  have hsplit : (suggestions.take count ++ suggestions.drop count).Pairwise fun s t =>
      s.priority ≤ t.priority := (List.take_append_drop count suggestions).symm ▸ h.urgent
  obtain ⟨htake, -, hleft⟩ := List.pairwise_append.mp hsplit
  constructor
  case length => rw [List.length_take, h.perm.length_eq]
  case urgent => exact htake
  case rest =>
    exact ⟨suggestions.drop count, (List.take_append_drop count suggestions).symm ▸ h.perm, hleft⟩
  case earliest => exact fun n => h.steady n ▸ (List.take_prefix count suggestions).filter _

end Suggestion

namespace Report

open Suggestion (ByUrgency MostUrgent sort)

/-! ## Suggestions that are added -/

/-- The report after some suggestions were added, one after the other. -/
def addAll (r : Report) (later : List Suggestion) : Report := later.foldl addSuggestion r

/-- **Suggestions that are added one after the other are sorted in once**, and nothing else changes. -/
theorem addAll_eq (r : Report) {later : List Suggestion} (h : later ≠ []) :
    r.addAll later = { r with suggestions := sort (r.suggestions ++ later) } := by
  induction later generalizing r with
  | nil => exact absurd rfl h
  | cons s later ih =>
    rw [addAll, List.foldl_cons, ← addAll]
    cases later with
    | nil => rfl
    | cons t later =>
      rw [ih (r.addSuggestion s) (List.cons_ne_nil t later), addSuggestion]
      dsimp only
      rw [Suggestion.sort_sort_append, List.append_assoc, List.singleton_append]

/-- The suggestion that a report brings along is added like any other. -/
theorem addAll_make (area : Area) (code : Code) (lead : String) (subject : Option Subject)
    (circumstances : Circumstances) (cause : Option Cause) (given later : List Suggestion) :
    (make area code lead subject circumstances cause given).addAll later =
      addAll ⟨area, code, lead, false, circumstances.noting area subject, cause, given⟩
        ((area.advice? code subject).toList ++ later) := by
  rw [make, advised]
  dsimp only
  cases area.advice? code subject <;> rfl

/-! ## What the user is told of them -/

/-- The lines that tell the user of some suggestions. -/
def adviceLines (shown : List Suggestion) : List String :=
  "\nSuggested solutions:" :: (shown.zipIdx 1).flatMap fun (s, n) => suggestionLines s n

/-- **The user is told of the first three suggestions**, behind what is told without any. -/
theorem userMessage_eq (r : Report) (h : r.suggestions ≠ []) (generated : String) :
    r.userMessage generated = { r with suggestions := [] }.userMessage generated ++ "\n" ++
      String.intercalate "\n" (adviceLines (r.suggestions.take 3)) := by
  have hsome : r.suggestions.isEmpty = false := by simpa using h
  rw [userMessage, userMessage, hsome, adviceLines, ← String.intercalate_append_of_ne_nil]
  · rw [List.isEmpty_nil, if_pos rfl, List.append_nil]
    rfl
  · exact List.cons_ne_nil _ _
  · exact List.cons_ne_nil _ _

/-- **Suggestions come to stand by urgency, in whatever order they arrive.** As soon as one was added
to a report, by itself or by others, its suggestions are those that it was given and those that were
added, by urgency and equally urgent ones as they arrived. This is the only such order, nothing else
of the report changes, and the user is told of the three most urgent ones. -/
theorem suggestions_by_urgency (area : Area) (code : Code) (lead : String)
    (subject : Option Subject) (circumstances : Circumstances) (cause : Option Cause)
    (given later : List Suggestion) (generated : String)
    (h : (area.advice? code subject).toList ++ later ≠ []) :
    let made := make area code lead subject circumstances cause given
    let r := made.addAll later
    let arrived := given ++ ((area.advice? code subject).toList ++ later)
    ByUrgency arrived r.suggestions ∧
    (∀ suggestions, ByUrgency arrived suggestions → r = { made with suggestions }) ∧
    MostUrgent 3 arrived (r.suggestions.take 3) ∧
    r.userMessage generated = { made with suggestions := [] }.userMessage generated ++ "\n" ++
      String.intercalate "\n" (adviceLines (r.suggestions.take 3)) := by
  intro made r arrived
  have hr : r = { made with suggestions := sort arrived } := by
    rw [show r = _ from (addAll_make ..).trans (addAll_eq _ h), show made = _ from make_eq ..]
  have hsorted : ByUrgency arrived r.suggestions := hr ▸ Suggestion.byUrgency_sort arrived
  refine ⟨hsorted, fun suggestions hother => ?_, hsorted.take 3, ?_⟩
  · rw [hr, (Suggestion.byUrgency_sort arrived).eq hother]
  · have hne : r.suggestions ≠ [] := by
      intro hnil
      have hlength : arrived.length = 0 := by rw [← hsorted.perm.length_eq, hnil, List.length_nil]
      exact h (List.append_eq_nil_iff.mp (List.length_eq_zero_iff.mp hlength)).2
    rw [userMessage_eq r hne, hr]

/-- What a report brings along on a missing file comes behind a suggestion of the same urgency that it
was given, and before a less urgent one. -/
theorem suggestions_by_urgency_retry :
    let wait : Suggestion := ⟨"Wait", "The file may come.", none, 2⟩
    let retry : Suggestion := ⟨"Try again", "The disk may be busy.", none, 1⟩
    let create : Suggestion := ⟨"Create configuration file",
      "Create a configuration file using the default template.", some "searchfilter config init", 1⟩
    let restart : Suggestion := ⟨"Restart", "Nothing else helps.", none, 2⟩
    let look : Suggestion := ⟨"Look closely", "The name may be wrong.", none, -3⟩
    let made := make .settings .settingsMissing "gone" none .unknown none [wait, retry]
    let r := made.addAll [restart, look]
    (Area.settings.advice? .settingsMissing none).toList ++ [restart, look] ≠ [] ∧
      r = { made with suggestions := [look, retry, create, wait, restart] } ∧
      r.userMessage "id" = { made with suggestions := [] }.userMessage "id" ++ "\n" ++
        String.intercalate "\n" (adviceLines [look, retry, create]) := by
  intro wait retry create restart look made r
  have hadded : (Area.settings.advice? .settingsMissing none).toList ++ [restart, look] ≠ [] :=
    List.append_ne_nil_of_right_ne_nil _ (List.cons_ne_nil _ _)
  obtain ⟨-, honly, -, hmessage⟩ := suggestions_by_urgency .settings .settingsMissing "gone" none
    .unknown none [wait, retry] [restart, look] "id" hadded
  have hsorted : ByUrgency [wait, retry, create, restart, look]
      [look, retry, create, wait, restart] := by
    refine ⟨by decide, by decide, fun n => ?_⟩
    by_cases hlook : -3 = n
    · subst hlook; rfl
    by_cases hone : 1 = n
    · subst hone; rfl
    by_cases htwo : 2 = n
    · subst htwo; rfl
    simp [look, retry, create, wait, restart, hlook, hone, htwo]
  have hr := honly _ hsorted
  have hshown : r.suggestions.take 3 = [look, retry, create] :=
    congrArg (·.suggestions.take 3) hr
  exact ⟨hadded, hr, hmessage.trans (congrArg (fun shown => _ ++ "\n" ++
    String.intercalate "\n" (adviceLines shown)) hshown)⟩

end Report

end QuerySieve
