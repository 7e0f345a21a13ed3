import Mathlib.Data.List.Basic
import QuerySieve.Text.Case

/-!
# Proofs/Text/Case — a small form is its own small form

The table of small forms is closed: no run holds what another run gives (`smallForms_misses`), so
`lower` leaves every character of a small form alone, whatever stands around it (`IsSmall`).  That
makes `lower` idempotent, although it is not put together from the small forms of the characters.
-/

namespace QuerySieve.Text

/-! ## What the runs of the table give -/

namespace CaseRun

/-- The first small form that a run gives. -/
def firstImage (r : CaseRun) : Nat := (r.first + r.shift).toNat

/-- The last small form that a run gives. -/
def lastImage (r : CaseRun) : Nat := (r.last + r.shift).toNat

/-- The run `r'` holds nothing that `r` gives: it lies behind or before it, or takes every second
character and always the other one.  The whole table is run through twice with this test, so it is
written with the comparisons that are computed fastest. -/
def misses (r r' : CaseRun) : Bool :=
  Nat.blt r.lastImage r'.first || Nat.blt r'.last r.firstImage
    || (Nat.beq r'.step 2 && (Nat.beq r.step 2 || Nat.beq r.first r.last)
      && Nat.beq ((r.firstImage + r'.first) % 2) 1)

/-- What the run gives are characters, and the capital I with a dot is not among them. -/
def givesLetters (r : CaseRun) : Bool :=
  Nat.blt 0 r.firstImage
    && (Nat.blt r.lastImage 0xD800 || Nat.blt 0xDFFF r.firstImage && Nat.blt r.lastImage 0x110000)
    && (Nat.blt r.lastImage 0x130 || Nat.blt 0x130 r.firstImage)

/-- The run takes no plain character, and gives none unless it is that of the kelvin sign. -/
def isForeign (r : CaseRun) : Bool :=
  Nat.ble 0x80 r.first
    && (Nat.ble 0x80 r.firstImage || Nat.beq r.first 0x212A && Nat.beq r.last 0x212A)

theorem covers_iff (r : CaseRun) (n : Nat) :
    r.covers n = true ↔ r.first ≤ n ∧ n ≤ r.last ∧ (n - r.first) % r.step = 0 := by
  simp [covers, and_assoc]

theorem not_covers_of_misses {r r' : CaseRun} (h : r.misses r' = true)
    (hr : r.givesLetters = true) {m n : Nat} (hm : r.covers m = true)
    (hn : (n : Int) = m + r.shift) : ¬ r'.covers n = true := by
  rw [covers_iff] at hm ⊢
  rintro ⟨hfirst, hlast, hstep⟩
  obtain ⟨hm₁, hm₂, hm₃⟩ := hm
  have hlow : 0 < r.firstImage := by
    simp only [givesLetters, Bool.and_eq_true, Nat.blt_eq] at hr
    exact hr.1.1
  simp only [misses, firstImage, lastImage, Bool.or_eq_true, Bool.and_eq_true, Nat.blt_eq,
    Nat.beq_eq] at h hlow
  rcases h with (h | h) | ⟨⟨hr', hr | hr⟩, hodd⟩
  · omega
  · omega
  · rw [hr'] at hstep
    rw [hr] at hm₃
    omega
  · rw [hr'] at hstep
    omega

end CaseRun

/-- **No run of the table holds a small form.** -/
theorem smallForms_misses : (smallForms.all fun r => smallForms.all r.misses) = true := by
  decide +kernel

theorem smallForms_letters : smallForms.all CaseRun.givesLetters = true := by decide +kernel

/-- The run of the plain capitals. -/
theorem plain_mem_smallForms : (⟨0x41, 0x5A, 1, 32⟩ : CaseRun) ∈ smallForms := List.mem_cons_self

theorem smallForms_foreign : smallForms.tail.all CaseRun.isForeign = true := by decide +kernel

/-- A run is that of the plain capitals or a foreign one. -/
theorem eq_plain_or_isForeign {r : CaseRun} (h : r ∈ smallForms) :
    r = ⟨0x41, 0x5A, 1, 32⟩ ∨ r.isForeign = true := by
  rcases List.mem_cons.mp h with rfl | h
  · exact Or.inl rfl
  · exact Or.inr (List.all_eq_true.mp smallForms_foreign r h)

/-! ## The small form of one character -/

theorem toNat_ofNat_of_isValidChar {n : Nat} (h : n.isValidChar) : (Char.ofNat n).toNat = n := by
  rw [Char.ofNat, dif_pos h]
  exact UInt32.toNat_ofNatLT

theorem toNat_toLower (c : Char) :
    c.toLower.toNat = if 0x41 ≤ c.toNat ∧ c.toNat ≤ 0x5A then c.toNat + 32 else c.toNat := by
  have hcapital : (c.val ≥ 'A'.val ∧ c.val ≤ 'Z'.val) ↔ 0x41 ≤ c.toNat ∧ c.toNat ≤ 0x5A := by
    rw [ge_iff_le, UInt32.le_iff_toNat_le, UInt32.le_iff_toNat_le]
    exact Iff.rfl
  by_cases h : 0x41 ≤ c.toNat ∧ c.toNat ≤ 0x5A
  · have hval : c.toLower.toNat = (c.val + 32).toNat :=
      congrArg Char.toNat (dif_pos (hcapital.mpr h))
    have hlt : c.toNat + 32 < 2 ^ 32 := by have := h.2; omega
    rw [hval, if_pos h, UInt32.toNat_add, Char.toNat_val]
    exact Nat.mod_eq_of_lt hlt
  · rw [if_neg h]
    exact congrArg Char.toNat (dif_neg (mt hcapital.mp h))

theorem lowerChar_of_not_plain {c : Char} (h : ¬ c.toNat < 0x80) :
    lowerChar c = (smallForms.find? (·.covers c.toNat)).elim c
      fun run => Char.ofNat ((c.toNat : Int) + run.shift).toNat := by
  rw [lowerChar, if_neg h]
  cases smallForms.find? (·.covers c.toNat) <;> rfl

/-- **The run that a character is mapped by** — or none, in which case it is left alone. -/
theorem lowerChar_cases (c : Char) :
    (lowerChar c = c ∧ ∀ r ∈ smallForms, ¬ r.covers c.toNat = true) ∨
      ∃ r ∈ smallForms, r.covers c.toNat = true ∧
        ((lowerChar c).toNat : Int) = c.toNat + r.shift := by
  by_cases hplain : c.toNat < 0x80
  · have hlower : lowerChar c = c.toLower := by rw [lowerChar, if_pos hplain]
    by_cases hcapital : 0x41 ≤ c.toNat ∧ c.toNat ≤ 0x5A
    · refine Or.inr ⟨_, plain_mem_smallForms, ?_, ?_⟩
      · rw [CaseRun.covers_iff]
        exact ⟨hcapital.1, hcapital.2, Nat.mod_one _⟩
      · rw [hlower, toNat_toLower, if_pos hcapital]
        rfl
    · refine Or.inl ⟨?_, fun r hr hc => ?_⟩
      · rw [hlower, ← Char.toNat_inj, toNat_toLower, if_neg hcapital]
      · rw [CaseRun.covers_iff] at hc
        rcases eq_plain_or_isForeign hr with rfl | hforeign
        · exact hcapital ⟨hc.1, hc.2.1⟩
        · simp only [CaseRun.isForeign, Bool.and_eq_true, Nat.ble_eq] at hforeign
          omega
  · have hlower := lowerChar_of_not_plain hplain
    cases hfind : smallForms.find? (·.covers c.toNat) with
    | none =>
      rw [hfind] at hlower
      exact Or.inl ⟨hlower, fun r hr => List.find?_eq_none.mp hfind r hr⟩
    | some r =>
      rw [hfind, Option.elim_some] at hlower
      have hr := List.mem_of_find?_eq_some hfind
      have hc := List.find?_some (p := fun run : CaseRun => run.covers c.toNat) hfind
      refine Or.inr ⟨r, hr, hc, ?_⟩
      obtain ⟨hfirst, hlast, -⟩ := (r.covers_iff _).mp hc
      have hletters := List.all_eq_true.mp smallForms_letters r hr
      simp only [CaseRun.givesLetters, CaseRun.firstImage, CaseRun.lastImage, Bool.and_eq_true,
        Bool.or_eq_true, Nat.blt_eq] at hletters
      have hvalid : ((c.toNat : Int) + r.shift).toNat.isValidChar := by
        unfold Nat.isValidChar
        omega
      rw [hlower, toNat_ofNat_of_isValidChar hvalid]
      omega

/-- What a run gives lies between its first and its last small form. -/
theorem CaseRun.le_image {r : CaseRun} {m n : Nat} (hm : r.covers m = true)
    (hn : (n : Int) = m + r.shift) : r.firstImage ≤ n ∧ n ≤ r.lastImage := by
  obtain ⟨hfirst, hlast, -⟩ := (r.covers_iff m).mp hm
  rw [firstImage, lastImage]
  omega

/-- A small form is in no run. -/
theorem not_covers_lowerChar (c : Char) {r : CaseRun} (hr : r ∈ smallForms) :
    ¬ r.covers (lowerChar c).toNat = true := by
  rcases lowerChar_cases c with ⟨h, hnone⟩ | ⟨r', hr', hc, hshift⟩
  · rw [h]
    exact hnone r hr
  · have hmisses := List.all_eq_true.mp (List.all_eq_true.mp smallForms_misses r' hr') r hr
    exact CaseRun.not_covers_of_misses hmisses (List.all_eq_true.mp smallForms_letters r' hr') hc
      hshift

theorem lowerChar_eq_self {c : Char} (h : ∀ r ∈ smallForms, ¬ r.covers c.toNat = true) :
    lowerChar c = c := by
  rcases lowerChar_cases c with ⟨h', -⟩ | ⟨r, hr, hc, -⟩
  · exact h'
  · exact absurd hc (h r hr)

@[simp] theorem lowerChar_lowerChar (c : Char) : lowerChar (lowerChar c) = lowerChar c :=
  lowerChar_eq_self fun _ hr => not_covers_lowerChar c hr

theorem lowerChar_of_plain {c : Char} (h : c.toNat < 0x80) : lowerChar c = c.toLower := by
  rw [lowerChar, if_pos h]

/-- **Only the kelvin sign has a plain small form** without being plain itself. -/
theorem plain_of_plain_lowerChar {c : Char} (h : (lowerChar c).toNat < 0x80) :
    c.toNat < 0x80 ∨ c = '\u212A' := by
  rcases lowerChar_cases c with ⟨h', -⟩ | ⟨r, hr, hc, hshift⟩
  · exact Or.inl (h' ▸ h)
  · obtain ⟨hfirst, hlast, -⟩ := (r.covers_iff _).mp hc
    rcases eq_plain_or_isForeign hr with rfl | hforeign
    · exact Or.inl (Nat.lt_of_le_of_lt hlast (by decide))
    · simp only [CaseRun.isForeign, CaseRun.firstImage, Bool.and_eq_true, Bool.or_eq_true,
        Nat.ble_eq, Nat.beq_eq] at hforeign
      refine Or.inr (Char.toNat_inj.mp ?_)
      rw [show '\u212A'.toNat = 0x212A from rfl]
      omega

/-! ## Texts in small letters -/

theorem lowerAt_ne_nil (seen : Bool) (c : Char) (rest : List Char) : lowerAt seen c rest ≠ [] := by
  unfold lowerAt
  split_ifs
  all_goals exact List.cons_ne_nil _ _

theorem lower_eq_nil_iff : ∀ {cs : List Char}, lower cs = [] ↔ cs = []
  | [] => iff_of_true rfl rfl
  | c :: cs => by
    refine iff_of_false (fun hnil => ?_) (List.cons_ne_nil c cs)
    rw [lower, lowerFrom_cons, List.append_eq_nil_iff] at hnil
    exact lowerAt_ne_nil false c cs hnil.1

/-- **The character is left alone by `lower`** — in whatever text it stands. -/
structure IsSmall (c : Char) : Prop where
  not_sigma : c ≠ 'Σ'
  not_dotted : c ≠ 'İ'
  fixed : lowerChar c = c

theorem IsSmall.lowerAt_eq {c : Char} (h : IsSmall c) (seen : Bool) (rest : List Char) :
    lowerAt seen c rest = [c] := by
  rw [lowerAt, if_neg h.not_sigma, if_neg h.not_dotted, h.fixed]

theorem isSmall_lowerChar {c : Char} (h : c ≠ 'İ') : IsSmall (lowerChar c) where
  not_sigma hsigma := by
    have hany : smallForms.any (·.covers 'Σ'.toNat) = true := by decide +kernel
    obtain ⟨r, hr, hc⟩ := List.any_eq_true.mp hany
    exact not_covers_lowerChar c hr (hsigma ▸ hc)
  not_dotted hdotted := by
    rcases lowerChar_cases c with ⟨h', -⟩ | ⟨r, hr, hc, hshift⟩
    · exact h (h'.symm.trans hdotted)
    · obtain ⟨hfirst, hlast, -⟩ := (r.covers_iff _).mp hc
      have hletters := List.all_eq_true.mp smallForms_letters r hr
      simp only [CaseRun.givesLetters, CaseRun.firstImage, CaseRun.lastImage, Bool.and_eq_true,
        Bool.or_eq_true, Nat.blt_eq] at hletters
      rw [hdotted, show 'İ'.toNat = 0x130 from rfl] at hshift
      omega
  fixed := lowerChar_lowerChar c

/-- What the small form of a character is made of. -/
theorem mem_lowerAt {seen : Bool} {c d : Char} {rest : List Char} (h : d ∈ lowerAt seen c rest) :
    d ∈ ['σ', 'ς', 'i', '\u0307'] ∨ c ≠ 'İ' ∧ d = lowerChar c := by
  unfold lowerAt at h
  split at h
  · rw [List.mem_singleton] at h
    subst h
    split
    · exact Or.inl (by simp)
    · exact Or.inl (by simp)
  · split at h
    · exact Or.inl (by simp_all)
    · rename_i hdotted
      exact Or.inr ⟨hdotted, List.mem_singleton.mp h⟩

/-- A small form is made of those of the characters, and of what the two special ones become. -/
theorem mem_lowerFrom {d : Char} : ∀ {seen : Bool} {cs : List Char}, d ∈ lowerFrom seen cs →
    d ∈ ['σ', 'ς', 'i', '\u0307'] ∨ ∃ c ∈ cs, c ≠ 'İ' ∧ d = lowerChar c
  | _, [], h => by simp [lowerFrom] at h
  | seen, c :: cs, h => by
    rw [lowerFrom_cons, List.mem_append] at h
    rcases h with h | h
    · exact (mem_lowerAt h).imp_right fun hc => ⟨c, List.mem_cons_self, hc⟩
    · refine (mem_lowerFrom h).imp_right ?_
      rintro ⟨c', hc', h'⟩
      exact ⟨c', List.mem_cons_of_mem c hc', h'⟩

theorem isSmall_of_mem_lower {d : Char} {cs : List Char} (h : d ∈ lower cs) : IsSmall d := by
  rcases mem_lowerFrom h with hd | ⟨c, -, hdotted, rfl⟩
  · simp only [List.mem_cons, List.not_mem_nil, or_false] at hd
    rcases hd with rfl | rfl | rfl | rfl
    all_goals exact ⟨by decide, by decide, by decide +kernel⟩
  · exact isSmall_lowerChar hdotted

theorem lowerFrom_eq_self : ∀ {cs : List Char} (seen : Bool), (∀ c ∈ cs, IsSmall c) →
    lowerFrom seen cs = cs
  | [], _, _ => rfl
  | c :: cs, seen, h => by
    rw [lowerFrom_cons, (h c List.mem_cons_self).lowerAt_eq,
      lowerFrom_eq_self _ fun d hd => h d (List.mem_cons_of_mem c hd)]
    rfl

/-- **A text is its own small form exactly if it is left alone character by character.** -/
theorem lower_eq_self_iff {cs : List Char} : lower cs = cs ↔ ∀ c ∈ cs, IsSmall c :=
  ⟨fun h _ hc => isSmall_of_mem_lower (h ▸ hc), lowerFrom_eq_self false⟩

/-- **The small form of a small form is itself.** -/
@[simp] theorem lower_lower (cs : List Char) : lower (lower cs) = lower cs :=
  lower_eq_self_iff.mpr fun _ => isSmall_of_mem_lower

@[simp] theorem lowerString_lowerString (s : String) :
    lowerString (lowerString s) = lowerString s := by
  simp [lowerString]

theorem lowerString_eq_self_iff {s : String} : lowerString s = s ↔ ∀ c ∈ s.toList, IsSmall c := by
  rw [← lower_eq_self_iff, ← String.toList_inj, toList_lowerString]

/-- Two texts in small letters are in small letters together. -/
theorem lowerString_append {s s' : String} (h : lowerString s = s) (h' : lowerString s' = s') :
    lowerString (s ++ s') = s ++ s' := by
  rw [lowerString_eq_self_iff, String.toList_append]
  intro c hc
  rcases List.mem_append.mp hc with hc | hc
  · exact lowerString_eq_self_iff.mp h c hc
  · exact lowerString_eq_self_iff.mp h' c hc

end QuerySieve.Text
