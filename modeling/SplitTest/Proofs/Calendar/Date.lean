import Mathlib.Algebra.GroupWithZero.Nat
import SplitTest.Calendar.Date

/-! Days and their fields.  The year, month and day of the month that are computed from the number
of a day give the day back, for every day of the calendar. -/

namespace SplitTest.Date

/-! ### Months -/

/-- The first months of a year, with the days of a month, make up the number of a day. -/
theorem monthAndDay_eq {lengths : List Nat} {n : Nat} (h : n < lengths.sum) (passed : Nat) :
    ∃ i length, lengths[i]? = some length ∧
      monthAndDay passed lengths n = (passed + i + 1, n - (lengths.take i).sum + 1) ∧
      (lengths.take i).sum ≤ n ∧ n - (lengths.take i).sum < length := by
  induction lengths generalizing n passed with
  | nil => simp at h
  | cons length rest ih =>
    by_cases hn : n < length
    · exact ⟨0, length, by simp, by simp [monthAndDay, hn], by simp, by simpa using hn⟩
    · have hrest : n - length < rest.sum := by
        rw [List.sum_cons] at h
        omega
      obtain ⟨i, l, hl, heq, hle, hlt⟩ := ih hrest (passed + 1)
      refine ⟨i + 1, l, by simpa using hl, ?_, ?_, ?_⟩
      · rw [monthAndDay, if_neg hn, heq, List.take_succ_cons, List.sum_cons]
        exact Prod.ext (by simp only; omega) (by simp only; omega)
      · rw [List.take_succ_cons, List.sum_cons]
        omega
      · rw [List.take_succ_cons, List.sum_cons]
        omega

theorem sum_monthLengths (year : Nat) :
    (monthLengths year).sum = if isLeap year then 366 else 365 := by
  unfold monthLengths
  cases isLeap year <;> rfl

theorem daysBeforeMonth_succ (year i : Nat) :
    daysBeforeMonth year (i + 1) = ((monthLengths year).take i).sum := by
  rw [daysBeforeMonth, Nat.add_sub_cancel, List.sum_eq_foldl]

/-! ### Years -/

/-- The number of a year by its place in the cycles of 400, 100 and 4 years. -/
def yearOf (a b c d : Nat) : Nat := 400 * a + 100 * b + 4 * c + d + 1

/-- Before a year lie the days of the cycles that have passed. -/
theorem daysBeforeYear_yearOf (a : Nat) {b c d : Nat} (hb : b ≤ 3) (hc : c ≤ 24) (hd : d ≤ 3) :
    daysBeforeYear (yearOf a b c d) = 146097 * a + 36524 * b + 1461 * c + 365 * d := by
  have h4 : (yearOf a b c d - 1) / 4 = 100 * a + 25 * b + c := by
    unfold yearOf
    omega
  have h100 : (yearOf a b c d - 1) / 100 = 4 * a + b := by
    unfold yearOf
    omega
  have h400 : (yearOf a b c d - 1) / 400 = a := by
    unfold yearOf
    omega
  rw [daysBeforeYear, h4, h100, h400, yearOf]
  omega

/-- The last year of four is a leap year, unless it ends a century that is not the last of four. -/
theorem isLeap_yearOf (a : Nat) {b c : Nat} (hc : c ≤ 24) (h : c < 24 ∨ b = 3) :
    isLeap (yearOf a b c 3) = true := by
  have h4 : yearOf a b c 3 % 4 = 0 := by
    unfold yearOf
    omega
  have h100 : yearOf a b c 3 % 100 ≠ 0 ∨ yearOf a b c 3 % 400 = 0 := by
    unfold yearOf
    omega
  simpa [isLeap, h4] using h100

/-- A whole that is one longer than four parts is cut into parts, the last of which is one longer
than the others. -/
theorem cut_in_four {n m : Nat} (hm : 0 < m) (h : n ≤ m * 4) :
    m * min (n / m) 3 + (n - min (n / m) 3 * m) = n ∧
      (n - min (n / m) 3 * m < m ∨ n - min (n / m) 3 * m = m ∧ min (n / m) 3 = 3) := by
  have hdiv := Nat.div_add_mod n m
  have hmod := Nat.mod_lt n hm
  rw [Nat.mul_comm _ m]
  by_cases hquotient : n / m ≤ 3
  · rw [Nat.min_eq_left hquotient]
    omega
  · have hfull : m * 4 ≤ n :=
      Nat.le_trans (Nat.mul_le_mul_left m (Nat.not_le.mp hquotient)) (Nat.mul_div_le n m)
    rw [Nat.min_eq_right (by omega)]
    omega

/-- The place of a day in the cycles.  A 366th day comes only at the end of a leap year. -/
theorem yearAndDay_eq (n : Nat) :
    ∃ a b c d day, yearAndDay n = (yearOf a b c d, day) ∧ b ≤ 3 ∧ c ≤ 24 ∧ d ≤ 3 ∧
      146097 * a + 36524 * b + 1461 * c + 365 * d + day = n ∧
      (day < 365 ∨ day = 365 ∧ d = 3 ∧ (c < 24 ∨ b = 3)) := by
  let inCycle := n % 146097
  let b := min (inCycle / 36524) 3
  let inCentury := inCycle - b * 36524
  let inFour := inCentury % 1461
  let d := min (inFour / 365) 3
  have hcycle : inCycle < 146097 := Nat.mod_lt _ (by decide)
  have hfour : inFour < 1461 := Nat.mod_lt _ (by decide)
  have hn : 146097 * (n / 146097) + inCycle = n := Nat.div_add_mod _ _
  have hsplit : 1461 * (inCentury / 1461) + inFour = inCentury := Nat.div_add_mod _ _
  obtain ⟨hcenturies, hlong⟩ : 36524 * b + inCentury = inCycle ∧
    (inCentury < 36524 ∨ inCentury = 36524 ∧ b = 3) := cut_in_four (by decide) (by omega)
  obtain ⟨hyears, hleap⟩ : 365 * d + (inFour - d * 365) = inFour ∧
    (inFour - d * 365 < 365 ∨ inFour - d * 365 = 365 ∧ d = 3) := cut_in_four (by decide) (by omega)
  have hb : b ≤ 3 := Nat.min_le_right _ _
  have hd : d ≤ 3 := Nat.min_le_right _ _
  have heq : yearAndDay n = (yearOf (n / 146097) b (inCentury / 1461) d, inFour - d * 365) := by
    rw [yearOf, Nat.mul_comm 400, Nat.mul_comm 100, Nat.mul_comm 4]
    rfl
  -- The equations say all that is needed of the places; their definitions would be split again.
  clear_value inCycle b inCentury inFour d
  exact ⟨n / 146097, b, inCentury / 1461, d, inFour - d * 365, heq, hb, by omega, hd, by omega,
    by omega⟩

/-- The year of a day and the number of the day in it. -/
theorem yearAndDay_spec (n : Nat) :
    ∃ year day, yearAndDay n = (year, day) ∧ 1 ≤ year ∧ daysBeforeYear year + day = n ∧
      day < (monthLengths year).sum := by
  obtain ⟨a, b, c, d, day, heq, hb, hc, hd, hn, hday⟩ := yearAndDay_eq n
  refine ⟨yearOf a b c d, day, heq, by unfold yearOf; omega, ?_, ?_⟩
  · rw [daysBeforeYear_yearOf a hb hc hd, hn]
  · rw [sum_monthLengths]
    rcases hday with hday | ⟨hday, rfl, hleap⟩
    · split <;> omega
    · rw [if_pos (isLeap_yearOf a hc hleap)]
      omega

/-! ### Fields -/

/-- What the fields of a day are: a month of the year, a day of that month, and as many days before
it as the day's number says. -/
structure IsFields (d : Date) (year month day : Nat) : Prop where
  fields : d.fields = (year, month, day)
  year_pos : 1 ≤ year
  month_pos : 1 ≤ month
  day_pos : 1 ≤ day
  length : ∃ length, (monthLengths year)[month - 1]? = some length ∧ day ≤ length
  number : daysBeforeYear year + daysBeforeMonth year month + (day - 1) = d.number

theorem exists_fields (d : Date) : ∃ year month day, IsFields d year month day := by
  obtain ⟨year, n, hyear, hpos, hn, hlt⟩ := yearAndDay_spec d.number
  obtain ⟨i, length, hlength, hmonth, hle, hday⟩ := monthAndDay_eq hlt 0
  refine ⟨year, i + 1, n - ((monthLengths year).take i).sum + 1, ?_, hpos, by omega, by omega,
    ⟨length, hlength, hday⟩, ?_⟩
  · rw [Date.fields, hyear]
    simp only [hmonth, Nat.zero_add]
  · rw [daysBeforeMonth_succ]
    omega

theorem isFields (d : Date) : IsFields d d.year d.month d.dayOfMonth := by
  obtain ⟨year, month, day, h⟩ := d.exists_fields
  have hyear : d.year = year := congrArg Prod.fst h.fields
  have hmonth : d.month = month := congrArg (·.2.1) h.fields
  have hday : d.dayOfMonth = day := congrArg (·.2.2) h.fields
  rwa [hyear, hmonth, hday]

/-- The day of a day's own fields is the day. -/
theorem ofFields?_fields (d : Date) : ofFields? d.year d.month d.dayOfMonth = some d := by
  have h := d.isFields
  obtain ⟨length, hlength, hday⟩ := h.length
  have hmonth : monthLength? d.year d.month = some length := by
    rw [monthLength?, if_neg (Nat.ne_of_gt h.month_pos), hlength]
  have hrange : (1 ≤ d.year && 1 ≤ d.dayOfMonth && d.dayOfMonth ≤ length) = true := by
    simpa using ⟨⟨h.year_pos, h.day_pos⟩, hday⟩
  rw [ofFields?, hmonth]
  simp only [h.number, d.number.isLt, hrange, dite_true, if_true]

theorem year_le (d : Date) : d.year ≤ 9999 := by
  have hnumber := d.isFields.number
  have hlt : d.number.val < 3652059 := d.number.isLt
  simp only [daysBeforeYear] at hnumber
  omega

theorem month_le (d : Date) : d.month ≤ 12 := by
  obtain ⟨length, hlength, -⟩ := d.isFields.length
  have hlt : d.month - 1 < 12 := (List.getElem?_eq_some_iff.mp hlength).1
  omega

theorem dayOfMonth_le (d : Date) : d.dayOfMonth ≤ 31 := by
  obtain ⟨length, hlength, hday⟩ := d.isFields.length
  have hmem := List.mem_of_getElem? hlength
  have hall : ∀ l ∈ monthLengths d.year, l ≤ 31 := by
    unfold monthLengths
    cases isLeap d.year <;> decide
  exact Nat.le_trans hday (hall length hmem)

/-- The day with a number is the day that has it. -/
theorem ofNumber?_eq_some_iff {n : Int} {d : Date} :
    ofNumber? n = some d ↔ (d.number : Int) = n := by
  obtain ⟨day⟩ := d
  have hday : day.val < count := day.isLt
  unfold ofNumber?
  constructor
  · intro h
    split at h
    · rename_i hrange
      cases h
      exact Int.toNat_of_nonneg hrange.1
    · simp at h
  · rintro rfl
    simp [hday]

end SplitTest.Date
