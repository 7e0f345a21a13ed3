import QuerySieve.Proofs.Moment.Calendar

/-!
# Proofs/Moment/Notation — moments that are written are read back

Each number of a moment is written with a fixed width, so what follows it never matters: each reader
takes what was written and hands on the rest.  Only a fraction of a second ends where its digits
end, so no digit may follow it; and no point, or there would seem to be one.
-/

namespace QuerySieve.Moment

open Text (plainDigit? ofDigits?)

/-! ## Digits -/

theorem isDigit_digitChar_of_lt {n : Nat} (h : n < 10) : (Nat.digitChar n).isDigit = true := by
  rw [Nat.isDigit_digitChar, decide_eq_true h]

theorem plainDigit?_digitChar {n : Nat} (h : n < 10) : plainDigit? (Nat.digitChar n) = some n := by
  rw [plainDigit?, if_pos (isDigit_digitChar_of_lt h)]
  exact congrArg some (Nat.toNat_digitChar_sub_48_of_lt_ten h)

theorem ofDigits?_append (cs : List Char) {n : Nat} (h : n < 10) :
    ofDigits? 10 plainDigit? (cs ++ [Nat.digitChar n]) =
      (ofDigits? 10 plainDigit? cs).map (10 * · + n) := by
  rw [ofDigits?, List.foldl_append, ← ofDigits?]
  cases ofDigits? 10 plainDigit? cs with
  | none => rfl
  | some m => simp [plainDigit?_digitChar h, h]

theorem toList_padded_one {n : Nat} (h : n < 10) : (padded 1 n).toList = [Nat.digitChar n] := by
  rw [padded, Nat.toDigits_of_lt_base h]
  exact String.toList_ofList

/-- **A number with one digit more** has it at its end. -/
theorem toList_padded_succ (width n : Nat) : (padded (width + 2) n).toList =
    (padded (width + 1) (n / 10)).toList ++ [Nat.digitChar (n % 10)] := by
  simp only [padded, String.toList_ofList]
  by_cases h : n < 10
  · rw [Nat.toDigits_of_lt_base h, Nat.div_eq_of_lt h, Nat.mod_eq_of_lt h, Nat.toDigits_zero]
    show List.replicate (width + 1) '0' ++ _ = (List.replicate width '0' ++ ['0']) ++ _
    rw [List.replicate_succ']
  · rw [Nat.toDigits_of_base_le (by decide) (Nat.le_of_not_lt h), List.length_append,
      List.length_singleton, Nat.succ_sub_succ, List.append_assoc]

/-- **A number that fits into a width is written in digits, in just that width.** -/
theorem digits_padded (width : Nat) : ∀ n < Nat.pow 10 (width + 1),
    (padded (width + 1) n).toList.length = width + 1 ∧
    (∀ c ∈ (padded (width + 1) n).toList, c.isDigit = true) ∧
    ofDigits? 10 plainDigit? (padded (width + 1) n).toList = some n := by
  induction width with
  | zero =>
    intro n hn
    rw [toList_padded_one hn]
    refine ⟨rfl, List.forall_mem_singleton.mpr (isDigit_digitChar_of_lt hn), ?_⟩
    exact (ofDigits?_append [] hn).trans (by simp [ofDigits?])
  | succ width ih =>
    intro n hn
    have hfits : n < 10 * Nat.pow 10 (width + 1) := by rwa [Nat.mul_comm]
    obtain ⟨hlength, hdigits, hvalue⟩ := ih (n / 10) (Nat.div_lt_of_lt_mul hfits)
    have hlast : n % 10 < 10 := Nat.mod_lt n (by decide)
    rw [toList_padded_succ]
    refine ⟨?_, List.forall_mem_append.mpr ⟨hdigits, ?_⟩, ?_⟩
    · rw [List.length_append, hlength, List.length_singleton]
    · exact List.forall_mem_singleton.mpr (isDigit_digitChar_of_lt hlast)
    · rw [ofDigits?_append _ hlast, hvalue, Option.map_some, Nat.div_add_mod]

/-! ## Dates and times of day -/

variable {rest : List Char}

theorem toList_padded_two {n : Nat} (h : n < 100) :
    (padded 2 n).toList = [Nat.digitChar (n / 10), Nat.digitChar (n % 10)] := by
  rw [toList_padded_succ 0, toList_padded_one (by omega)]
  rfl

theorem twoDigits?_padded {n : Nat} (h : n < 100) :
    twoDigits? ((padded 2 n).toList ++ rest) = some (n, rest) := by
  have htens : n / 10 < 10 := by omega
  have hones : n % 10 < 10 := by omega
  rw [toList_padded_two h]
  show ((plainDigit? _).bind fun a => (plainDigit? _).bind fun b => some (10 * a + b, rest)) = _
  rw [plainDigit?_digitChar htens, plainDigit?_digitChar hones, Option.bind_some, Option.bind_some,
    Nat.div_add_mod]

/-- A number of four digits is written like two numbers of two digits. -/
theorem toList_padded_four (n : Nat) :
    (padded 4 n).toList = (padded 2 (n / 100)).toList ++ (padded 2 (n % 100)).toList := by
  have hhundreds : n / 10 / 10 = n / 100 := by omega
  have htens : n % 100 / 10 = n / 10 % 10 := by omega
  have hones : n % 100 % 10 = n % 10 := by omega
  have hlast : n % 100 < 100 := Nat.mod_lt n (by decide)
  rw [toList_padded_succ 2, toList_padded_succ 1, toList_padded_two hlast, hhundreds, htens,
    hones, List.append_assoc]
  rfl

theorem daysIn_le (year month : Nat) : daysIn year month ≤ 31 := by
  unfold daysIn
  repeat' split
  all_goals decide

/-- **A date that exists is read back.** -/
theorem readDate?_dateText {year month day : Nat} (h : isDate year month day = true) :
    readDate? ((dateText year month day).toList ++ rest) = some ((year, month, day), rest) := by
  simp only [isDate, Bool.and_eq_true, decide_eq_true_eq] at h
  obtain ⟨⟨⟨⟨hyear, -⟩, hmonth⟩, -⟩, hday⟩ := h
  have hdaysIn := daysIn_le year month
  have hyear' : 100 * (year / 100) + year % 100 = year := Nat.div_add_mod year 100
  have hmark : "-".toList = ['-'] := rfl
  simp only [dateText, String.toList_append, toList_padded_four, hmark, List.append_assoc,
    List.singleton_append]
  rw [readDate?, twoDigits?_padded (by omega)]
  simp only [Option.bind_eq_bind, Option.bind_some]
  rw [twoDigits?_padded (by omega)]
  simp only [Option.bind_some, List.cons_append]
  rw [twoDigits?_padded (by omega)]
  simp only [Option.bind_some]
  rw [twoDigits?_padded (by omega), Option.bind_some, hyear']

/-! ## Times of day -/

/-- Neither a digit nor a point stands at the beginning of what follows. -/
def Ends (rest : List Char) : Prop := ∀ c ∈ rest.head?, c.isDigit = false ∧ c ≠ '.' ∧ c ≠ ','

theorem Ends.takeWhile_isDigit (h : Ends rest) : rest.takeWhile Char.isDigit = [] := by
  cases rest with
  | nil => rfl
  | cons c cs => rw [List.takeWhile_cons, (h c rfl).1]; rfl

theorem Ends.readFraction? (h : Ends rest) : readFraction? rest = some (0, rest) := by
  cases rest with
  | nil => rfl
  | cons c cs => exact if_neg (not_or.mpr (h c rfl).2)

theorem millionthsOf_padded {micro : Nat} (h : micro < 1000000) :
    millionthsOf (padded 6 micro).toList = micro := by
  obtain ⟨hlength, -, hvalue⟩ := digits_padded 5 micro h
  rw [millionthsOf, List.take_of_length_le (Nat.le_of_eq hlength), hvalue, hlength]
  exact Nat.mul_one micro

/-- **Millionths that are written are read back.** -/
theorem readFraction?_padded {micro : Nat} (hmicro : micro < 1000000) (hrest : Ends rest) :
    readFraction? ('.' :: ((padded 6 micro).toList ++ rest)) = some (micro, rest) := by
  obtain ⟨hlength, hdigits, -⟩ := digits_padded 5 micro hmicro
  have htake : ((padded 6 micro).toList ++ rest).takeWhile Char.isDigit =
      (padded 6 micro).toList := by
    rw [List.takeWhile_append_of_pos hdigits, hrest.takeWhile_isDigit, List.append_nil]
  have hsome : ¬ (padded 6 micro).toList.isEmpty = true := by
    intro hempty
    rw [List.isEmpty_iff.mp hempty] at hlength
    exact nomatch hlength
  rw [readFraction?, if_pos (.inl rfl), htake, if_neg hsome, List.drop_left,
    millionthsOf_padded hmicro]

/-- **A time of day that exists is read back.** -/
theorem readTime?_timeText {hour minute second micro : Nat} (hhour : hour < 24)
    (hminute : minute < 60) (hsecond : second < 60) (hmicro : micro < 1000000)
    (hrest : Ends rest) :
    readTime? ((timeText hour minute second micro).toList ++ rest) =
      some ((hour, minute, second, micro), rest) := by
  have hmark : ":".toList = [':'] := rfl
  have hfraction :
      readFraction? ((if micro = 0 then "" else "." ++ padded 6 micro).toList ++ rest) =
        some (micro, rest) := by
    by_cases hzero : micro = 0
    · rw [if_pos hzero, hzero, String.toList_empty, List.nil_append, hrest.readFraction?]
    · have hpoint : ".".toList = ['.'] := rfl
      rw [if_neg hzero, String.toList_append, hpoint, List.append_assoc, List.singleton_append,
        readFraction?_padded hmicro hrest]
  simp only [timeText, String.toList_append, hmark, List.append_assoc, List.singleton_append]
  rw [readTime?, twoDigits?_padded (by omega)]
  simp only [Option.bind_eq_bind, Option.bind_some, List.cons_append]
  rw [twoDigits?_padded (by omega)]
  simp only [Option.bind_some]
  rw [twoDigits?_padded (by omega)]
  simp only [Option.bind_some]
  rw [hfraction, Option.bind_some]

/-! ## Offsets -/

theorem toList_offsetText (o : Int) : (offsetText o).toList = (if o < 0 then '-' else '+') ::
    ((padded 2 (o.natAbs / 60)).toList ++ ':' :: (padded 2 (o.natAbs % 60)).toList) := by
  rw [offsetText]
  split <;> simp

theorem readDistance?_padded {hours minutes : Nat} (hhours : hours < 100)
    (hminutes : minutes < 60) :
    readDistance? ((padded 2 hours).toList ++ ':' :: (padded 2 minutes).toList) =
      some (60 * hours + minutes) := by
  have hlast : twoDigits? (padded 2 minutes).toList = some (minutes, []) := by
    rw [← List.append_nil (padded 2 minutes).toList, twoDigits?_padded (by omega)]
  rw [readDistance?, twoDigits?_padded hhours]
  simp only [Option.bind_eq_bind, Option.bind_some]
  rw [hlast]
  simp [hminutes]

theorem readOffset?_plus (c : Char) (cs : List Char) : readOffset? ('+' :: c :: cs) =
    (readDistance? (c :: cs)).map fun n : Nat => some (n : Int) := rfl

theorem readOffset?_minus (c : Char) (cs : List Char) : readOffset? ('-' :: c :: cs) =
    (readDistance? (c :: cs)).map fun n : Nat => some (-(n : Int)) := rfl

/-- **An offset that is less than a day is read back.** -/
theorem readOffset?_offsetText {o : Int} (h : o.natAbs < 24 * 60) :
    readOffset? (offsetText o).toList = some (some o) := by
  have hhours : o.natAbs / 60 < 100 := by omega
  have hdistance := readDistance?_padded hhours (Nat.mod_lt o.natAbs (by decide : 0 < 60))
  rw [Nat.div_add_mod] at hdistance
  rw [toList_offsetText]
  rw [toList_padded_two hhours] at hdistance ⊢
  by_cases hnegative : o < 0
  · rw [if_pos hnegative]
    refine (readOffset?_minus _ _).trans ((congrArg (Option.map _) hdistance).trans ?_)
    exact congrArg (some ∘ some) (by omega : -(o.natAbs : Int) = o)
  · rw [if_neg hnegative]
    refine (readOffset?_plus _ _).trans ((congrArg (Option.map _) hdistance).trans ?_)
    exact congrArg (some ∘ some) (by omega : (o.natAbs : Int) = o)

theorem ends_offsetText (o : Int) : Ends (offsetText o).toList := by
  intro c hc
  rw [toList_offsetText] at hc
  obtain rfl := Option.some.inj hc
  split <;> decide

/-- A fraction may stand before the letter for universal time as well. -/
theorem ends_zoneText (o : Int) : Ends (zoneText o).toList := by
  rw [zoneText]
  split
  · rintro c hc
    obtain rfl := Option.some.inj hc
    decide
  · exact ends_offsetText o

theorem readOffset?_zoneText {o : Int} (h : o.natAbs < 24 * 60) :
    readOffset? (zoneText o).toList = some (some o) := by
  by_cases hzero : o = 0
  · rw [zoneText, if_pos hzero, hzero]
    rfl
  · rw [zoneText, if_neg hzero]
    exact readOffset?_offsetText h

/-! ## Moments -/

/-- **A moment that exists is read back.** -/
theorem read?_zonedText {m : Moment} (h : m.isValid = true) : read? m.zonedText = some m := by
  obtain ⟨hdate, hhour, hminute, hsecond, hmicro, hoffset⟩ := isValid_iff.mp h
  have hrest : Ends (m.offset.elim "" zoneText).toList ∧
      readOffset? (m.offset.elim "" zoneText).toList = some m.offset := by
    cases ho : m.offset with
    | none => exact ⟨nofun, rfl⟩
    | some o => exact ⟨ends_zoneText o, readOffset?_zoneText (hoffset o ho)⟩
  have hparts : readParts? m.zonedText.toList = some m := by
    have hmark : "T".toList = ['T'] := rfl
    simp only [zonedText, textWith, String.toList_append, hmark, List.append_assoc, List.singleton_append]
    rw [readParts?, readDate?_dateText hdate]
    simp only [Option.bind_eq_bind, Option.bind_some, List.cons_append, true_or, if_true]
    rw [readTime?_timeText hhour hminute hsecond hmicro hrest.1]
    simp only [Option.bind_some, hrest.2]
  rw [read?, readNotation?, hparts, Option.filter_some, if_pos h]
  rfl

end QuerySieve.Moment
