import QuerySieve.Moment.Count

/-!
# Proofs/Moment/Calendar — counts of time lead to moments that exist

The year that is reckoned from a day of an era never falls as days go by, and it is right on the
first and the last day of every year; so a day lies between the days before its year and those
before the next one (`yearOfDay_bounds`).  A year that begins with March has the day that is at
times missing at its end, so what is left of the days is a day that its month has
(`isDate_dateOfDays`).  Counting the days of that date gives the same number again
(`daysOfDate_dateOfDays`), and so a moment is as far away as it was counted
(`instant?_of_ofSeconds?`).
-/

namespace QuerySieve.Moment

/-! ## Years -/

theorem yearOfDay_mono {day day' : Nat} (h : day ≤ day') (hera : day' < 146097) :
    yearOfDay day ≤ yearOfDay day' := by
  refine Nat.div_le_div_right ?_
  omega

/-- The first and the last day of a year lie in it. -/
theorem yearOfDay_ends : ∀ year < 400, yearOfDay (daysBefore year) = year ∧
    yearOfDay (daysBefore (year + 1) - 1) = year := by
  decide +kernel

/-- A year has one day more if the next one, in which it ends, is a leap year. -/
theorem daysBefore_succ : ∀ year < 400, daysBefore (year + 1) = daysBefore year +
    (if isLeap (year + 1) then 366 else 365) ∧ daysBefore (year + 1) ≤ 146097 := by
  decide +kernel

/-- **A day lies between the days before its year and those before the next one.** -/
theorem yearOfDay_bounds {day : Nat} (hera : day < 146097) : yearOfDay day < 400 ∧
    daysBefore (yearOfDay day) ≤ day ∧ day < daysBefore (yearOfDay day + 1) := by
  have hyear : yearOfDay day < 400 :=
    Nat.lt_succ_of_le (yearOfDay_mono (Nat.le_of_lt_succ hera) (by decide))
  refine ⟨hyear, Nat.le_of_not_lt fun hbefore => ?_, Nat.lt_of_not_le fun hafter => ?_⟩
  · -- a day before the first one of its year is no later than the last one of the year before
    cases hlast : yearOfDay day with
    | zero => exact Nat.not_lt_zero day (by rwa [hlast] at hbefore)
    | succ last =>
      rw [hlast] at hbefore hyear
      have hera' := (daysBefore_succ last (by omega)).2
      have hle := yearOfDay_mono (Nat.le_sub_one_of_lt hbefore) (by omega)
      rw [hlast, (yearOfDay_ends last (by omega)).2] at hle
      omega
  · have hnext : yearOfDay day + 1 < 400 := by
      by_cases hlast : yearOfDay day + 1 = 400
      · rw [hlast] at hafter
        have : daysBefore 400 = 146097 := rfl
        omega
      · omega
    have hle := yearOfDay_mono hafter hera
    rw [(yearOfDay_ends _ hnext).1] at hle
    omega

/-- **A day of an era is one of the days of its year**, of which only leap years have more than
365. -/
theorem dayOfYear_lt {day : Nat} (hera : day < 146097) :
    day - daysBefore (yearOfDay day) < 366 ∧
      (day - daysBefore (yearOfDay day) = 365 → isLeap (yearOfDay day + 1) = true) := by
  obtain ⟨hyear, hbefore, hafter⟩ := yearOfDay_bounds hera
  rw [(daysBefore_succ _ hyear).1] at hafter
  split at hafter
  · exact ⟨by omega, fun _ => ‹_›⟩
  · exact ⟨by omega, fun h => by omega⟩

/-! ## Months -/

/-- The day of a month that a day of a year is: the month has it, but for the last day of the year,
which is the 29th of February; and only the last two months belong to the next year. -/
theorem monthOfDay_cases : ∀ day < 366,
    (1 ≤ (monthOfDay day).1 ∧ (monthOfDay day).1 ≤ 12) ∧ 1 ≤ (monthOfDay day).2 ∧
    ((monthOfDay day).1 ≤ 2 ↔ 306 ≤ day) ∧
    ((monthOfDay day).2 ≤ daysIn 1 (monthOfDay day).1 ∨ day = 365 ∧ monthOfDay day = (2, 29)) := by
  decide +kernel

theorem daysIn_one_le (year month : Nat) : daysIn 1 month ≤ daysIn year month := by
  rw [daysIn, daysIn]
  by_cases hmonth : month = 2
  · rw [if_pos hmonth, if_pos hmonth]
    cases isLeap year <;> decide
  · exact Nat.le_of_eq (by rw [if_neg hmonth, if_neg hmonth])

theorem isLeap_congr {year year' : Nat} (h : year % 400 = year' % 400) :
    isLeap year = isLeap year' := by
  have h4 : year % 4 = year' % 4 := by omega
  have h100 : year % 100 = year' % 100 := by omega
  rw [isLeap, isLeap, h, h4, h100]

/-! ## Dates -/

theorem dateOfDays_eq {days month day now : Nat}
    (hdate : monthOfDay (days % 146097 - daysBefore (yearOfDay (days % 146097))) = (month, day))
    (hnow : 400 * (days / 146097) + yearOfDay (days % 146097) + (if month ≤ 2 then 1 else 0) =
      now + 400) : dateOfDays days = (now, month, day) := by
  unfold dateOfDays
  dsimp only
  rw [hdate]
  dsimp only
  rw [hnow, Nat.add_sub_cancel]

/-- The years that the days from the beginning of the year zero to the end of the year 9999 lead
to. -/
theorem year_bounds {days : Nat} (hfirst : 146037 ≤ days) (hlast : days ≤ 3798461) {next : Nat}
    (hnext : next = if 306 ≤ days % 146097 - daysBefore (yearOfDay (days % 146097)) then 1 else 0) :
    400 ≤ 400 * (days / 146097) + yearOfDay (days % 146097) + next ∧
      400 * (days / 146097) + yearOfDay (days % 146097) + next ≤ 9999 + 400 := by
  have hera : days % 146097 < 146097 := Nat.mod_lt days (by omega)
  obtain ⟨hyear, -⟩ := yearOfDay_bounds hera
  -- the first days are in the year 399 of an era, and so are the last ones
  have hstarted : 146037 ≤ days % 146097 → 399 ≤ yearOfDay (days % 146097) :=
    fun h => yearOfDay_mono h hera
  have hended : yearOfDay (days % 146097) = 399 →
      daysBefore (yearOfDay (days % 146097)) = 145731 := fun h => by rw [h]; rfl
  generalize yearOfDay (days % 146097) = year at *
  generalize daysBefore year = before at *
  split at hnext <;> omega

/-- **The days lead to a date that exists**, from the beginning of the year zero to the end of the
year 9999. -/
theorem isDate_dateOfDays {days : Nat} (hfirst : 146037 ≤ days) (hlast : days ≤ 3798461) :
    ∃ year month day, dateOfDays days = (year, month, day) ∧ isDate year month day = true := by
  obtain ⟨hday, hleap⟩ := dayOfYear_lt (Nat.mod_lt days (by omega : 0 < 146097))
  have hcases := monthOfDay_cases _ hday
  generalize hdate : monthOfDay _ = date at hcases
  obtain ⟨month, day⟩ := date
  obtain ⟨⟨hmonth, hmonth'⟩, hone, hnext, hhas⟩ := hcases
  have hyear := year_bounds hfirst hlast rfl
  simp only [← hnext] at hyear
  obtain ⟨now, hnow⟩ := Nat.exists_eq_add_of_le' hyear.1
  refine ⟨now, month, day, dateOfDays_eq hdate hnow, ?_⟩
  simp only [isDate, Bool.and_eq_true, decide_eq_true_eq]
  refine ⟨⟨⟨⟨by omega, hmonth⟩, hmonth'⟩, hone⟩, ?_⟩
  rcases hhas with hhas | ⟨hlastDay, heq⟩
  · exact Nat.le_trans hhas (daysIn_one_le now month)
  · obtain ⟨rfl, rfl⟩ := Prod.mk.inj heq
    rw [if_pos (Nat.le_refl 2)] at hnow
    have hsame : isLeap now = isLeap (yearOfDay (days % 146097) + 1) := isLeap_congr (by omega)
    have hlong : daysIn now 2 = 29 := by simp [daysIn, hsame, hleap hlastDay]
    exact Nat.le_of_eq hlong.symm

/-- The days before an era and a year of it. -/
theorem daysBefore_era (era year : Nat) :
    daysBefore (400 * era + year) = 146097 * era + daysBefore year := by
  unfold daysBefore
  omega

/-- A day of a year is found again from its month and the day of this month. -/
theorem monthOfDay_back : ∀ day < 366,
    (153 * (if (monthOfDay day).1 ≤ 2 then (monthOfDay day).1 + 9 else (monthOfDay day).1 - 3) + 2) /
      5 + ((monthOfDay day).2 - 1) = day := by
  decide +kernel

/-- **The date that lies some days after that first of March is as many days away.** -/
theorem daysOfDate_dateOfDays {days year month day : Nat} (hfirst : 146037 ≤ days)
    (hlast : days ≤ 3798461) (h : dateOfDays days = (year, month, day)) :
    daysOfDate year month day = days := by
  have hera : days % 146097 < 146097 := Nat.mod_lt days (by omega)
  have hbefore := (yearOfDay_bounds hera).2.1
  have hday := (dayOfYear_lt hera).1
  have hback := monthOfDay_back _ hday
  have hnext := (monthOfDay_cases _ hday).2.2.1
  have hyear := year_bounds hfirst hlast rfl
  have hinEra := daysBefore_era (days / 146097) (yearOfDay (days % 146097))
  generalize hdate : monthOfDay _ = date at hback hnext
  obtain ⟨m, d⟩ := date
  simp only [← hnext] at hyear
  obtain ⟨now, hnow⟩ := Nat.exists_eq_add_of_le' hyear.1
  rw [dateOfDays_eq hdate hnow] at h
  obtain ⟨rfl, rfl, rfl⟩ := by simpa only [Prod.mk.injEq] using h
  rw [daysOfDate]
  dsimp only at hback
  -- the first two months belong to a year that began with the March before
  by_cases hearly : m ≤ 2
  · rw [if_pos hearly] at hnow hback ⊢
    have hreckoned : 400 * (days / 146097) + yearOfDay (days % 146097) = now + 399 := by omega
    rw [hreckoned] at hinEra
    dsimp only
    omega
  · rw [if_neg hearly] at hnow hback ⊢
    rw [Nat.add_zero] at hnow
    rw [hnow] at hinEra
    dsimp only
    omega

/-! ## Moments -/

variable {m : Moment}

theorem isValid_iff : m.isValid = true ↔ isDate m.year m.month m.day = true ∧ m.hour < 24 ∧
    m.minute < 60 ∧ m.second < 60 ∧ m.micro < 1000000 ∧ ∀ o ∈ m.offset, o.natAbs < 24 * 60 := by
  cases hoffset : m.offset <;> simp [isValid, hoffset, and_assoc]

/-- **A count of seconds leads to a moment that exists**, or to none. -/
theorem isValid_of_ofSeconds? {seconds : Int} {micros : Nat}
    (h : ofSeconds? seconds micros = some m) : m.isValid = true := by
  rw [ofSeconds?] at h
  dsimp only at h
  generalize seconds + (micros / 1000000 : Nat) = whole at h
  split at h
  · rename_i hrange
    generalize hfromMarch : (whole + (daysTo1970 * 86400 : Nat)).toNat = fromMarch at h
    have hdays : daysTo1970 = 865565 := rfl
    obtain ⟨year, month, day, hdate, hexists⟩ :=
      @isDate_dateOfDays (fromMarch / 86400) (by omega) (by omega)
    rw [hdate] at h
    obtain rfl := Option.some.inj h
    refine isValid_iff.mpr ⟨hexists, ?_, ?_, ?_, Nat.mod_lt _ (by omega), ?_⟩
    · show fromMarch % 86400 / 3600 < 24
      omega
    · show fromMarch % 86400 % 3600 / 60 < 60
      omega
    · exact Nat.mod_lt _ (by omega)
    · rintro o ho
      obtain rfl := Option.some.inj ho
      decide
  · exact nomatch h

/-- **A moment is as many microseconds away as were counted.** -/
theorem instant?_of_ofSeconds? {seconds : Int} {micros : Nat}
    (h : ofSeconds? seconds micros = some m) :
    m.instant? = some ((seconds + (daysTo1970 * 86400 : Nat)) * 1000000 + micros) := by
  rw [ofSeconds?] at h
  dsimp only at h
  generalize hwhole : seconds + (micros / 1000000 : Nat) = whole at h
  split at h
  · rename_i hrange
    generalize hfromMarch : (whole + (daysTo1970 * 86400 : Nat)).toNat = fromMarch at h
    have hdays : daysTo1970 = 865565 := rfl
    generalize hdate : dateOfDays (fromMarch / 86400) = date at h
    obtain ⟨year, month, day⟩ := date
    obtain rfl := Option.some.inj h
    have hback := daysOfDate_dateOfDays (by omega) (by omega) hdate
    simp only [instant?, Option.map_some, hback, Option.some.injEq]
    omega
  · exact nomatch h

theorem isValid_of_ofCount? {n : Int} (h : ofCount? n = some m) : m.isValid = true := by
  rw [ofCount?] at h
  split at h
  · exact isValid_of_ofSeconds? h
  · exact isValid_of_ofSeconds? h

theorem isValid_of_ofNumber? {x : Binary64} (h : ofNumber? x = some m) : m.isValid = true := by
  cases x with
  | finite negative significand exponent =>
    rw [ofNumber?] at h
    split at h
    · exact isValid_of_ofSeconds? h
    · exact isValid_of_ofSeconds? h
  | _ => exact nomatch h

theorem isValid_of_readNotation? {cs : List Char} (h : readNotation? cs = some m) :
    m.isValid = true :=
  (Option.filter_eq_some_iff.mp h).2

theorem isValid_of_readCount? {cs : List Char} (h : readCount? cs = some m) :
    m.isValid = true := by
  rw [readCount?] at h
  dsimp only at h
  obtain ⟨count, -, h⟩ := Option.bind_eq_some_iff.mp h
  split at h
  · exact nomatch h
  · split at h
    · split at h
      · exact nomatch h
      · exact isValid_of_ofCount? h
    · obtain ⟨x, -, hx⟩ := Option.bind_eq_some_iff.mp h
      exact isValid_of_ofNumber? hx
    · exact nomatch h

/-- **A text that is read as a moment names one that exists.** -/
theorem isValid_of_read? {s : String} (h : read? s = some m) : m.isValid = true := by
  rw [read?] at h
  cases hwritten : readNotation? s.toList with
  | none =>
    rw [hwritten] at h
    exact isValid_of_readCount? h
  | some m' =>
    rw [hwritten] at h
    exact isValid_of_readNotation? (hwritten.trans h)

end QuerySieve.Moment
