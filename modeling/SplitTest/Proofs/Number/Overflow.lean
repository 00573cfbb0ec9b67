import Mathlib.Algebra.Order.Ring.Nat
import Mathlib.Tactic.Ring
import SplitTest.Number.Double

/-! Which numbers have a nearest finite value.  A place on the grid is an exponent and a significand
of 53 bits, so a number lies below the value at a place exactly if the last value at or below the
number has a smaller place.  The sizes that round to an infinity begin at `2^1024 - 2^970`, halfway
between the largest finite value and the place after it. -/

namespace SplitTest.Double

/-! ### Places as exponents and significands -/

/-- Place `k` has the significand `m` and the exponent `s`; the significand has all of its bits
unless the exponent is the least. -/
structure IsPlace (s m k : Nat) : Prop where
  place : k = s * 2 ^ 52 + m
  lt : m < 2 ^ 53
  full : s = 0 ∨ 2 ^ 52 ≤ m

theorem exists_isPlace (k : Nat) : ∃ s m, IsPlace s m k := by
  by_cases hk : k < 2 ^ 52
  · exact ⟨0, k, by omega, by omega, .inl rfl⟩
  · exact ⟨k / 2 ^ 52 - 1, 2 ^ 52 + k % 2 ^ 52, by omega, by omega, .inr (by omega)⟩

theorem IsPlace.units_eq {s m k : Nat} (h : IsPlace s m k) : units k = m * 2 ^ s := by
  obtain ⟨rfl, hlt, hfull⟩ := h
  simp only [units, Nat.pow_eq]
  split
  · obtain rfl : s = 0 := by omega
    simp
  · have hexponent : (s * 2 ^ 52 + m) / 2 ^ 52 - 1 = s := by omega
    have hsignificand : 2 ^ 52 + (s * 2 ^ 52 + m) % 2 ^ 52 = m := by omega
    rw [hexponent, hsignificand]

/-- The last place at or below a number keeps its 53 leading bits. -/
theorem isPlace_floorPlace (q : Nat) :
    IsPlace (q.log2 - 52) (q / 2 ^ (q.log2 - 52)) (floorPlace q) := by
  have hpos : 0 < 2 ^ (q.log2 - 52) := Nat.two_pow_pos _
  refine ⟨rfl, ?_, ?_⟩
  · rw [Nat.div_lt_iff_lt_mul hpos, ← Nat.pow_add]
    exact Nat.lt_log2_self.trans_le (Nat.pow_le_pow_right (by decide) (by omega))
  · by_cases hsmall : q.log2 ≤ 52
    · exact .inl (by omega)
    · have hq : q ≠ 0 := by
        rintro rfl
        simp at hsmall
      rw [Nat.le_div_iff_mul_le hpos, ← Nat.pow_add, Nat.add_sub_cancel' (by omega)]
      exact .inr (Nat.log2_self_le hq)

/-- A number is below the value at a place exactly if the last place at or below it is smaller. -/
theorem floorPlace_lt_iff (q k : Nat) : floorPlace q < k ↔ q < units k := by
  obtain ⟨s, m, hk⟩ := exists_isPlace k
  have hq := isPlace_floorPlace q
  generalize q.log2 - 52 = t at hq
  have hpos : 0 < 2 ^ t := Nat.two_pow_pos t
  have hbelow : q < (q / 2 ^ t + 1) * 2 ^ t := by
    rw [← Nat.div_lt_iff_lt_mul hpos]
    exact Nat.lt_succ_self _
  have habove : q / 2 ^ t * 2 ^ t ≤ q := Nat.div_mul_le_self q _
  rw [hk.units_eq, hq.place, hk.place]
  -- The larger exponent has the larger value, and with equal exponents the significands decide.
  rcases lt_trichotomy t s with hlt | rfl | hgt
  · have hfull : 2 ^ 52 ≤ m := hk.full.resolve_left (by omega)
    have hvalue : q < m * 2 ^ s := by
      calc
        q < (q / 2 ^ t + 1) * 2 ^ t := hbelow
        _ ≤ 2 ^ 53 * 2 ^ t := Nat.mul_le_mul_right _ hq.lt
        _ = 2 ^ 52 * 2 ^ (t + 1) := by ring
        _ ≤ m * 2 ^ s := Nat.mul_le_mul hfull (Nat.pow_le_pow_right (by decide) hlt)
    have hplace := hq.lt
    exact iff_of_true (by omega) hvalue
  · rw [← Nat.div_lt_iff_lt_mul hpos]
    omega
  · have hfull : 2 ^ 52 ≤ q / 2 ^ t := hq.full.resolve_left (by omega)
    have hvalue : m * 2 ^ s ≤ q := by
      calc
        m * 2 ^ s ≤ 2 ^ 53 * 2 ^ s := Nat.mul_le_mul_right _ hk.lt.le
        _ = 2 ^ 52 * 2 ^ (s + 1) := by ring
        _ ≤ q / 2 ^ t * 2 ^ t := Nat.mul_le_mul hfull (Nat.pow_le_pow_right (by decide) hgt)
        _ ≤ q := habove
    have hplace := hk.lt
    exact iff_of_false (by omega) hvalue.not_gt

/-- The exponent of the largest finite value. -/
def lastExponent : Nat := 2045

/-- The distance between the largest finite values. -/
def largestStep : Nat := 2 ^ lastExponent

theorem largestStep_pos : 0 < largestStep :=
  Nat.two_pow_pos lastExponent

theorem units_le {k : Nat} (h : k < places) : units k ≤ (2 ^ 53 - 1) * largestStep := by
  obtain ⟨s, m, hk⟩ := exists_isPlace k
  have hexponent : s ≤ lastExponent := by
    have hplaces : places = (lastExponent + 2) * 2 ^ 52 := rfl
    have hplace := hk.place
    have hfull := hk.full
    omega
  calc
    units k = m * 2 ^ s := hk.units_eq
    _ ≤ m * largestStep := Nat.mul_le_mul_left m (Nat.pow_le_pow_right (by decide) hexponent)
    _ ≤ (2 ^ 53 - 1) * largestStep := Nat.mul_le_mul_right _ (Nat.le_sub_one_of_lt hk.lt)

theorem units_last : units (places - 1) = (2 ^ 53 - 1) * largestStep := by
  have h : IsPlace lastExponent (2 ^ 53 - 1) (places - 1) :=
    ⟨by decide +kernel, by decide, .inr (by decide)⟩
  rw [h.units_eq, largestStep]

theorem units_places : units places = 2 ^ 53 * largestStep := by
  have h : IsPlace (lastExponent + 1) (2 ^ 52) places :=
    ⟨by decide +kernel, by decide, .inr le_rfl⟩
  rw [h.units_eq, largestStep]
  ring

/-! ### Overflow -/

/-- The least size that rounds to an infinity. -/
def overflow : Nat := 2 ^ 1024 - 2 ^ 970

theorem one_pos : 0 < one := by
  decide +kernel

theorem two_mul_overflow : 2 * (overflow * one) = (2 ^ 54 - 1) * largestStep := by
  decide +kernel

theorem units_lt_overflow {k : Nat} (h : k < places) : units k < overflow * one := by
  have hdouble : 2 * units k < (2 ^ 54 - 1) * largestStep := by
    have hlast := units_le h
    have hstep := largestStep_pos
    omega
  rw [← two_mul_overflow] at hdouble
  exact Nat.lt_of_mul_lt_mul_left hdouble

theorem nearestPlace_bounds (n den : Nat) :
    floorPlace (n / den) ≤ nearestPlace n den ∧
      nearestPlace n den ≤ floorPlace (n / den) + 1 := by
  unfold nearestPlace
  simp only
  split
  · omega
  · split
    · omega
    · split <;> omega

/-- A number has a nearest place on the grid exactly if it is below the least size that rounds to an
infinity; half a step above the largest value the even place, which is off the grid, is taken. -/
theorem nearestPlace_lt_places_iff {num den : Nat} (hden : 0 < den) :
    nearestPlace (num * one) den < places ↔ num < overflow * den := by
  have hscaled : num < overflow * den ↔ 2 * (num * one) < (2 ^ 54 - 1) * (largestStep * den) := by
    rw [← Nat.mul_assoc _ largestStep, ← two_mul_overflow, Nat.mul_assoc 2,
      Nat.mul_lt_mul_left (by decide), Nat.mul_right_comm, Nat.mul_lt_mul_right one_pos]
  rw [hscaled]
  generalize num * one = n
  have hfloor := floorPlace_lt_iff (n / den)
  have hlast := hfloor (places - 1)
  have hbeyond := hfloor places
  rw [units_last, Nat.div_lt_iff_lt_mul hden, Nat.mul_assoc] at hlast
  rw [units_places, Nat.div_lt_iff_lt_mul hden, Nat.mul_assoc] at hbeyond
  have hstep : 0 < largestStep * den := Nat.mul_pos largestStep_pos hden
  obtain ⟨hfloor_le, hle_next⟩ := nearestPlace_bounds n den
  rcases Nat.lt_trichotomy (floorPlace (n / den)) (places - 1) with hbelow | hat | habove
  · have hn := hlast.mp hbelow
    generalize largestStep * den = step at *
    exact iff_of_true (by omega) (by omega)
  -- Next to the largest value it is the distance that decides.
  · have hodd : (places - 1) % 2 ≠ 0 := by decide +kernel
    have hnext : places - 1 + 1 = places := rfl
    have hplaces : places = 2047 * 2 ^ 52 := rfl
    have hn := hbeyond.mp (by omega)
    have hn' := hlast.not.mp (by omega)
    simp only [nearestPlace, hat, hnext, units_last, units_places, Nat.mul_assoc, if_neg hodd]
    generalize largestStep * den = step at *
    split
    · omega
    · split <;> omega
  · have hn := hbeyond.not.mp (by omega)
    generalize largestStep * den = step at *
    exact iff_of_false (by omega) (by omega)

theorem isFinite_atPlace (negative : Bool) (k : Nat) :
    (atPlace negative k).isFinite = true ↔ k < places := by
  unfold atPlace
  split <;> simp_all [isFinite]

/-- A quotient has a finite value exactly if it is below the least size that rounds to an
infinity. -/
theorem isFinite_nearest_iff (negative : Bool) {num den : Nat} (hden : 0 < den) :
    (nearest negative num den).isFinite = true ↔ num < overflow * den := by
  rw [nearest, isFinite_atPlace, nearestPlace_lt_places_iff hden]

/-! ### Quotients and products -/

/-- The absolute value in units of `2^-1074`, if finite. -/
def size : Double → Nat
  | finite _ k => units k
  | _ => 0

theorem ofQuotient?_eq_some_iff {num : Int} {den : Nat} {x : Double} :
    ofQuotient? num den = some x ↔
      x = nearest (num < 0) num.natAbs den ∧ x.isFinite = true := by
  unfold ofQuotient?
  generalize nearest (num < 0) num.natAbs den = y
  simp only
  split
  · rename_i hfinite
    rw [Option.some.injEq]
    constructor
    · rintro rfl
      exact ⟨rfl, hfinite⟩
    · rintro ⟨rfl, -⟩
      rfl
  · rename_i hinfinite
    constructor
    · rintro ⟨⟩
    · rintro ⟨rfl, hfinite⟩
      exact absurd hfinite hinfinite

/-- A quotient of whole numbers has a value exactly if it is below the least size that rounds to an
infinity. -/
theorem exists_ofQuotient?_iff {num : Int} {den : Nat} (hden : 0 < den) :
    (∃ x, ofQuotient? num den = some x) ↔ num.natAbs < overflow * den := by
  rw [← isFinite_nearest_iff (num < 0) hden]
  simp only [ofQuotient?_eq_some_iff, exists_eq_left]

theorem isFinite_of_ofInt? {n : Int} {x : Double} (h : ofInt? n = some x) : x.isFinite = true :=
  (ofQuotient?_eq_some_iff.mp h).2

theorem exists_ofInt?_iff {n : Int} : (∃ x, ofInt? n = some x) ↔ n.natAbs < overflow := by
  rw [← Nat.mul_one overflow]
  exact exists_ofQuotient?_iff Nat.one_pos

/-- A product is finite exactly if the sizes multiply to less than the least one that rounds to an
infinity. -/
theorem isFinite_mul_iff {x y : Double} (hx : x.isFinite = true) (hy : y.isFinite = true) :
    (x.mul y).isFinite = true ↔ x.size * y.size < overflow * (one * one) := by
  cases x with
  | finite s j =>
    cases y with
    | finite t k =>
      have hmul : (finite s j).mul (finite t k) =
          nearest (s != t) (units j * units k) (one * one) := rfl
      rw [hmul, isFinite_nearest_iff _ (Nat.mul_pos one_pos one_pos)]
      rfl
    | infinity t => simp [isFinite] at hy
    | nan => simp [isFinite] at hy
  | infinity s => simp [isFinite] at hx
  | nan => simp [isFinite] at hx

/-- A finite value stays finite when it is divided by a positive whole number. -/
theorem isFinite_divNat {x : Double} {n : Nat} (hn : 0 < n) :
    (x.divNat n).isFinite = x.isFinite := by
  cases x with
  | finite s k =>
    have hscaled : units k < overflow * (one * n) := by
      rw [← Nat.mul_assoc]
      exact (units_lt_overflow k.isLt).trans_le (Nat.le_mul_of_pos_right _ hn)
    have hfinite := (isFinite_nearest_iff s (Nat.mul_pos one_pos hn)).mpr hscaled
    exact hfinite
  | infinity s => rfl
  | nan => rfl

end SplitTest.Double
