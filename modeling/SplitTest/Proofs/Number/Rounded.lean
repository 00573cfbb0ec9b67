import Mathlib.Algebra.Order.Field.Power
import Mathlib.Algebra.Order.Field.Rat
import Mathlib.Data.Rat.Floor
import Mathlib.Tactic.Linarith
import SplitTest.Proofs.Number.Nearest

/-! Rounding against exact numbers.  A decimal is read as the finite value closest to it, the one
at an even place if there are two, and as an infinity from the overflow threshold on. -/

namespace SplitTest.Double

/-! ### Values as numbers -/

def signed (negative : Bool) (r : ℚ) : ℚ := if negative then -r else r

/-- The number at a place of the grid. -/
def magnitude (k : Nat) : ℚ := units k / one

/-- The number that a finite value is. -/
def value : Double → ℚ
  | finite s k => signed s (magnitude k.val)
  | _ => 0

/-- The place of a finite value is even. -/
def hasEvenPlace : Double → Bool
  | finite _ k => k.val % 2 == 0
  | _ => false

/-- No finite value is closer to the number, and of two that are as close this is the one at the
even place. -/
structure IsNearest (q : ℚ) (x : Double) : Prop where
  isFinite : x.isFinite = true
  closest : ∀ y : Double, y.isFinite = true → |x.value - q| ≤ |y.value - q|
  even : ∀ y : Double, y.isFinite = true → y.value ≠ x.value → |y.value - q| = |x.value - q| →
    x.hasEvenPlace = true

@[simp] theorem signed_zero (s : Bool) : signed s 0 = 0 := by
  cases s <;> simp [signed]

@[simp] theorem abs_signed (s : Bool) (r : ℚ) : |signed s r| = |r| := by
  cases s <;> simp [signed]

theorem signed_signed (s : Bool) (r : ℚ) : signed s (signed s r) = r := by
  cases s <;> simp [signed]

theorem abs_signed_sub_signed (s : Bool) (r r' : ℚ) : |signed s r - signed s r'| = |r - r'| := by
  cases s with
  | false => rfl
  | true => rw [signed, signed, if_pos rfl, if_pos rfl, neg_sub_neg, abs_sub_comm]

theorem abs_signed_sub_signed_of_ne {s s' : Bool} (h : s ≠ s') {r r' : ℚ} (hr : 0 ≤ r)
    (hr' : 0 ≤ r') : |signed s r - signed s' r'| = r + r' := by
  obtain rfl : s' = !s := Bool.eq_not_of_ne h.symm
  cases s with
  | false => simpa [signed] using abs_of_nonneg (add_nonneg hr hr')
  | true => simpa [signed, abs_sub_comm, add_comm] using abs_of_nonneg (add_nonneg hr hr')

theorem magnitude_nonneg (k : Nat) : 0 ≤ magnitude k :=
  div_nonneg (Nat.cast_nonneg _) (Nat.cast_nonneg _)

@[simp] theorem magnitude_zero : magnitude 0 = 0 := by
  have hunits : units 0 = 0 := by decide
  rw [magnitude, hunits, Nat.cast_zero, zero_div]

theorem units_strictMono : StrictMono units :=
  strictMono_nat_of_lt_succ units_lt_succ

theorem magnitude_strictMono : StrictMono magnitude := by
  intro j k h
  have hone : (0 : ℚ) < one := Nat.cast_pos.mpr one_pos
  exact (div_lt_div_iff_of_pos_right hone).mpr (Nat.cast_lt.mpr (units_strictMono h))

theorem abs_value_lt {x : Double} (h : x.isFinite = true) : |x.value| < overflow := by
  cases x with
  | finite s k =>
    have hone : (0 : ℚ) < one := Nat.cast_pos.mpr one_pos
    rw [value, abs_signed, abs_of_nonneg (magnitude_nonneg _), magnitude, div_lt_iff₀ hone,
      ← Nat.cast_mul, Nat.cast_lt]
    exact units_lt_overflow k.isLt
  | infinity s => cases h
  | nan => cases h

/-! ### The nearest place -/

/-- The nearest place among all places, on the grid or beyond it. -/
theorem nearestPlace_closest {num den : Nat} (hden : 0 < den) (j : Nat) :
    ((units (nearestPlace num den) * den : Nat) - num : Int).natAbs ≤
        ((units j * den : Nat) - num : Int).natAbs ∧
      (((units j * den : Nat) - num : Int).natAbs =
          ((units (nearestPlace num den) * den : Nat) - num : Int).natAbs →
        j = nearestPlace num den ∨ nearestPlace num den % 2 = 0) := by
  have hfloor := floorPlace_lt_iff (num / den)
  have hbelow : units (floorPlace (num / den)) * den ≤ num := by
    rw [← Nat.le_div_iff_mul_le hden, ← Nat.not_lt, ← hfloor]
    exact lt_irrefl _
  have habove : num < units (floorPlace (num / den) + 1) * den := by
    rw [← Nat.div_lt_iff_lt_mul hden, ← hfloor]
    exact Nat.lt_succ_self _
  have hmono {i j : Nat} (h : i < j) : units i * den < units j * den :=
    Nat.mul_lt_mul_of_pos_right (units_strictMono h) hden
  unfold nearestPlace
  simp only
  generalize floorPlace (num / den) = k at hbelow habove ⊢
  -- The number lies between two neighbours, and any other place is beyond one of them.
  rcases Nat.lt_trichotomy j k with hj | rfl | hj
  · have hfar := hmono hj
    split_ifs <;> omega
  · split_ifs <;> omega
  · rcases Nat.eq_or_lt_of_le (Nat.succ_le_of_lt hj) with rfl | hj
    · rw [Nat.succ_eq_add_one]
      split_ifs <;> omega
    · have hfar := hmono hj
      rw [Nat.succ_eq_add_one] at hfar
      split_ifs <;> omega

theorem abs_div_sub_div {a b c d : Nat} (hc : 0 < c) (hd : 0 < d) :
    |(a / c : ℚ) - b / d| = (((a * d : Nat) - (b * c : Nat) : Int).natAbs : ℚ) / (c * d : Nat) := by
  have hc' : (0 : ℚ) < c := Nat.cast_pos.mpr hc
  have hd' : (0 : ℚ) < d := Nat.cast_pos.mpr hd
  rw [div_sub_div _ _ hc'.ne' hd'.ne', abs_div, abs_of_pos (mul_pos hc' hd'), Nat.cast_natAbs]
  push_cast
  rw [mul_comm (c : ℚ) b]

/-- Distances from a quotient are compared without the denominators. -/
theorem abs_magnitude_sub_le_iff {num den : Nat} (hden : 0 < den) (i j : Nat) :
    |magnitude i - num / den| ≤ |magnitude j - num / den| ↔
      ((units i * den : Nat) - (num * one : Nat) : Int).natAbs ≤
        ((units j * den : Nat) - (num * one : Nat) : Int).natAbs := by
  have hpos : (0 : ℚ) < (one * den : Nat) := Nat.cast_pos.mpr (Nat.mul_pos one_pos hden)
  rw [magnitude, magnitude, abs_div_sub_div one_pos hden, abs_div_sub_div one_pos hden,
    div_le_div_iff_of_pos_right hpos, Nat.cast_le]

/-- A place that is nearest to a size makes a value nearest to the number of that size. -/
theorem isNearest_finite {k : Fin places} {r : ℚ} (hr : 0 ≤ r) (negative : Bool)
    (hclosest : ∀ j, |magnitude k - r| ≤ |magnitude j - r|)
    (heven : ∀ j, |magnitude j - r| = |magnitude k - r| → j = k.val ∨ k.val % 2 = 0) :
    IsNearest (signed negative r) (finite negative k) := by
  refine ⟨rfl, fun y hy => ?_, fun y hy hne hsame => ?_⟩
  · cases y with
    | finite s j =>
      calc
        |signed negative (magnitude k) - signed negative r| = |magnitude k - r| :=
          abs_signed_sub_signed ..
        _ ≤ |magnitude j - r| := hclosest j
        _ = |(|signed s (magnitude j)| - |signed negative r|)| := by
          rw [abs_signed, abs_signed, abs_of_nonneg (magnitude_nonneg j), abs_of_nonneg hr]
        _ ≤ |signed s (magnitude j) - signed negative r| := abs_abs_sub_abs_le _ _
    | infinity s => cases hy
    | nan => cases hy
  · cases y with
    | finite s j =>
      -- A value of the other sign is as close only if it is zero, which has both signs.
      have hvalue : (finite s j).value = signed negative (magnitude j) := by
        by_cases hs : s = negative
        · rw [hs, value]
        have hzero := hclosest 0
        rw [magnitude_zero, zero_sub, abs_neg, abs_of_nonneg hr] at hzero
        rw [value, value, abs_signed_sub_signed,
          abs_signed_sub_signed_of_ne hs (magnitude_nonneg j) hr]
          at hsame
        have hnull : magnitude j = 0 := le_antisymm (by linarith) (magnitude_nonneg j)
        rw [value, hnull, signed_zero, signed_zero]
      rw [hvalue, value, abs_signed_sub_signed, abs_signed_sub_signed] at hsame
      rcases heven j hsame with heq | heven
      · exact absurd (by rw [hvalue, heq, value]) hne
      · exact beq_iff_eq.mpr heven
    | infinity s => cases hy
    | nan => cases hy

/-- The value nearest to a quotient, if it is not beyond all of them. -/
theorem isNearest_nearest (negative : Bool) {num den : Nat} (hden : 0 < den)
    (hfinite : num < overflow * den) :
    IsNearest (signed negative (num / den)) (nearest negative num den) := by
  have hplace := (nearestPlace_lt_places_iff hden).mpr hfinite
  have hspec (j : Nat) := @nearestPlace_closest (num * one) den hden j
  have hsize (i j : Nat) := @abs_magnitude_sub_le_iff num den hden i j
  have hx : nearest negative num den = finite negative ⟨_, hplace⟩ := by
    rw [nearest, atPlace, dif_pos hplace]
  rw [hx]
  generalize nearestPlace (num * one) den = k at hplace hspec ⊢
  generalize num * one = n at hspec hsize
  refine isNearest_finite (by positivity) negative (fun j => ?_) fun j hsame => ?_
  · exact (hsize k j).mpr (hspec j).1
  · exact (hspec j).2 (le_antisymm ((hsize j k).mp hsame.le) (hspec j).1)

/-! ### Decimals -/

theorem nearestDecimal_eq_nearest (negative : Bool) (n : Nat) (e : Int) :
    ∃ num den : Nat, 0 < den ∧ nearestDecimal negative n e = nearest negative num den ∧
      (num / den : ℚ) = n * 10 ^ e := by
  unfold nearestDecimal
  split
  · rename_i hnonneg
    obtain ⟨k, rfl⟩ := Int.eq_ofNat_of_zero_le hnonneg
    exact ⟨_, _, Nat.one_pos, rfl, by simp⟩
  · rename_i hneg
    obtain ⟨k, rfl⟩ : ∃ k : Nat, e = -k := ⟨e.natAbs, by omega⟩
    refine ⟨_, _, Nat.pow_pos (by decide), rfl, ?_⟩
    simp [div_eq_mul_inv]

theorem nearest_of_overflow (negative : Bool) {num den : Nat} (hden : 0 < den)
    (h : overflow * den ≤ num) : nearest negative num den = infinity negative := by
  have hplace := (nearestPlace_lt_places_iff hden).not.mpr (Nat.not_lt.mpr h)
  rw [nearest, atPlace, dif_neg hplace]

/-- The digits of a number bound it on both sides. -/
theorem pow_length_natText {n : Nat} (hn : 0 < n) :
    10 ^ ((Text.natText n).length - 1) ≤ n ∧ n < 10 ^ (Text.natText n).length := by
  constructor
  · rcases Nat.eq_zero_or_pos ((Text.natText n).length - 1) with hone | hmore
    · rw [hone]
      exact hn
    · by_contra hlt
      have hshort := Text.length_natText_le hmore (Nat.not_le.mp hlt)
      omega
  · by_contra hle
    exact lt_irrefl _ (Text.lt_length_natText (Nat.not_lt.mp hle))

theorem decimal_bounds {n : Nat} (hn : 0 < n) (e : Int) :
    (10 : ℚ) ^ ((Text.natText n).length + e - 1) ≤ n * 10 ^ e ∧
      n * 10 ^ e < (10 : ℚ) ^ ((Text.natText n).length + e) := by
  obtain ⟨hlow, hhigh⟩ := pow_length_natText hn
  have hwidth : 0 < (Text.natText n).length := Text.lt_length_natText hn
  generalize (Text.natText n).length = width at hlow hhigh hwidth ⊢
  have hpos : (0 : ℚ) < 10 ^ e := by positivity
  constructor
  · rw [show (width + e - 1 : Int) = (width - 1 : Nat) + e by omega, zpow_add₀ (by norm_num),
      zpow_natCast]
    exact mul_le_mul_of_nonneg_right (by exact_mod_cast hlow) hpos.le
  · rw [zpow_add₀ (by norm_num), zpow_natCast]
    exact mul_lt_mul_of_pos_right (by exact_mod_cast hhigh) hpos

theorem overflow_pos : 0 < overflow := by
  decide +kernel

theorem overflow_le : overflow ≤ 10 ^ 310 := by
  decide +kernel

theorem two_mul_le_magnitude : 2 * (10 : ℚ) ^ (-331 : Int) ≤ magnitude 1 := by
  have hone : (0 : ℚ) < one := Nat.cast_pos.mpr one_pos
  have hbound : (2 * one : ℕ) ≤ 10 ^ 331 := by decide +kernel
  have hunits : units 1 = 1 := by decide
  rw [magnitude, hunits, Nat.cast_one, le_div_iff₀ hone]
  generalize one = u at hone hbound ⊢
  rw [mul_right_comm, zpow_neg, ← div_eq_mul_inv, div_le_one (zpow_pos (by norm_num) _)]
  exact_mod_cast hbound

/-- A size below half of the least positive value is read as zero. -/
theorem isNearest_zero {r : ℚ} (hr : 0 ≤ r) (h : 2 * r ≤ magnitude 1) (negative : Bool) :
    IsNearest (signed negative r) (finite negative ⟨0, places_pos⟩) := by
  refine isNearest_finite hr negative (fun j => ?_) fun j _ => .inr rfl
  rw [magnitude_zero, zero_sub, abs_neg, abs_of_nonneg hr]
  rcases Nat.eq_zero_or_pos j with rfl | hj
  · rw [magnitude_zero, zero_sub, abs_neg, abs_of_nonneg hr]
  · have hone := magnitude_strictMono.monotone (Nat.succ_le_of_lt hj)
    exact le_abs.mpr (.inl (by linarith))

/-- A decimal is read as the value nearest to it, or as an infinity if it is beyond all of them. -/
theorem isNearest_ofDecimal (negative : Bool) (n : Nat) (e : Int) :
    ((n * 10 ^ e : ℚ) < overflow →
        IsNearest (signed negative (n * 10 ^ e)) (ofDecimal negative n e)) ∧
      (overflow ≤ (n * 10 ^ e : ℚ) → ofDecimal negative n e = infinity negative) := by
  have hoverflow : (0 : ℚ) < overflow := Nat.cast_pos.mpr overflow_pos
  rcases Nat.eq_zero_or_pos n with rfl | hn
  · rw [ofDecimal_zero, Nat.cast_zero, zero_mul]
    refine ⟨fun _ => isNearest_zero le_rfl ?_ negative, fun h => absurd h hoverflow.not_ge⟩
    rw [mul_zero]
    exact magnitude_nonneg 1
  obtain ⟨hlow, hhigh⟩ := decimal_bounds hn e
  rw [ofDecimal_eq hn]
  generalize ((Text.natText n).length : Int) + e = width at hlow hhigh ⊢
  have hr : (0 : ℚ) ≤ n * 10 ^ e := by positivity
  have hten : (1 : ℚ) ≤ 10 := by norm_num
  split_ifs with hwide hnarrow
  · have hlarge : (overflow : ℚ) ≤ n * 10 ^ e := by
      calc
        (overflow : ℚ) ≤ 10 ^ (310 : Int) := by exact_mod_cast overflow_le
        _ ≤ 10 ^ (width - 1) := zpow_le_zpow_right₀ hten (by omega)
        _ ≤ n * 10 ^ e := hlow
    exact ⟨fun h => absurd h hlarge.not_gt, fun _ => rfl⟩
  · have hsmall : (n * 10 ^ e : ℚ) ≤ 10 ^ (-331 : Int) :=
      hhigh.le.trans (zpow_le_zpow_right₀ hten (by omega))
    have hhalf := two_mul_le_magnitude
    refine ⟨fun _ => isNearest_zero hr (by linarith) negative, fun h => ?_⟩
    have hone : (10 : ℚ) ^ (-331 : Int) < 1 := zpow_lt_one_of_neg₀ (by norm_num) (by decide)
    have hlarge : (1 : ℚ) ≤ overflow := Nat.one_le_cast.mpr overflow_pos
    exact absurd (hlarge.trans (h.trans hsmall)) hone.not_ge
  · obtain ⟨num, den, hden, hnearest, hquotient⟩ := nearestDecimal_eq_nearest negative n e
    have hden' : (0 : ℚ) < den := Nat.cast_pos.mpr hden
    rw [hnearest, ← hquotient, div_lt_iff₀ hden', le_div_iff₀ hden']
    constructor
    · intro hfinite
      exact isNearest_nearest negative hden (by exact_mod_cast hfinite)
    · intro hinfinite
      exact nearest_of_overflow negative hden (by exact_mod_cast hinfinite)

/-! ### Whole parts -/

/-- A number without its fraction. -/
def truncated (q : ℚ) : ℤ := if 0 ≤ q then ⌊q⌋ else ⌈q⌉

@[simp] theorem truncated_natCast (n : Nat) : truncated n = n := by
  rw [truncated, if_pos (Nat.cast_nonneg n), Int.floor_natCast]

theorem truncated_neg (q : ℚ) : truncated (-q) = -truncated q := by
  unfold truncated
  rcases lt_trichotomy q 0 with hneg | rfl | hpos
  · rw [if_pos (by linarith), if_neg (by linarith), Int.floor_neg]
  · simp
  · rw [if_neg (by linarith), if_pos hpos.le, Int.ceil_neg]

theorem truncated_signed (s : Bool) (q : ℚ) :
    truncated (signed s q) = if s then -truncated q else truncated q := by
  cases s with
  | false => rfl
  | true => exact truncated_neg q

theorem truncate?_eq {x : Double} (h : x.isFinite = true) :
    x.truncate? = some (truncated x.value) := by
  cases x with
  | finite s k =>
    have hfloor : truncated (magnitude k) = (units k.val / one : Nat) := by
      rw [truncated, if_pos (magnitude_nonneg _), magnitude, Rat.floor_natCast_div_natCast,
        Int.natCast_div]
    rw [value, truncated_signed, hfloor]
    rfl
  | infinity s => cases h
  | nan => cases h

/-- Every whole number with at most 53 bits is on the grid. -/
theorem exists_units_eq {m : Nat} (hm : m < 2 ^ 53) : ∃ k < places, units k = m * one := by
  rcases Nat.eq_zero_or_pos m with rfl | hpos
  · exact ⟨0, places_pos, by simp [units]⟩
  -- The significand is the number, moved up until it has all of its bits.
  obtain ⟨b, hb⟩ : ∃ b, m.log2 + b = 52 := by
    have hlog := (Nat.log2_lt hpos.ne').mpr hm
    exact ⟨52 - m.log2, by omega⟩
  have hlow : 2 ^ 52 ≤ m * 2 ^ b := by
    rw [← hb, Nat.pow_add]
    exact Nat.mul_le_mul_right _ (Nat.log2_self_le hpos.ne')
  have hhigh : m * 2 ^ b < 2 ^ 53 := by
    rw [show 53 = m.log2 + 1 + b by omega, Nat.pow_add]
    exact Nat.mul_lt_mul_of_pos_right Nat.lt_log2_self (Nat.two_pow_pos b)
  obtain ⟨k, hk⟩ : ∃ k, k = (1074 - b) * 2 ^ 52 + m * 2 ^ b := ⟨_, rfl⟩
  have hplace : IsPlace (1074 - b) (m * 2 ^ b) k := ⟨hk, hhigh, .inr hlow⟩
  have hunit : 2 ^ (b + (1074 - b)) = one := by
    generalize hsum : b + (1074 - b) = a
    obtain rfl : a = 1074 := by omega
    decide +kernel
  refine ⟨k, ?_, ?_⟩
  · have hplaces : places = 2047 * 2 ^ 52 := rfl
    omega
  · rw [hplace.units_eq, Nat.mul_assoc, ← Nat.pow_add, hunit]

theorem exists_magnitude_eq {m : Nat} (hm : m < 2 ^ 53) : ∃ k < places, magnitude k = m := by
  obtain ⟨k, hk, hunits⟩ := exists_units_eq hm
  have hone : (0 : ℚ) < one := Nat.cast_pos.mpr one_pos
  exact ⟨k, hk, by rw [magnitude, hunits, Nat.cast_mul, mul_div_cancel_right₀ _ hone.ne']⟩

theorem IsNearest.value_eq {q : ℚ} {x : Double} (h : IsNearest q x) {y : Double}
    (hy : y.isFinite = true) (hvalue : y.value = q) : x.value = q := by
  have hclosest := h.closest y hy
  rw [hvalue, sub_self, abs_zero] at hclosest
  exact sub_eq_zero.mp (abs_nonpos_iff.mp hclosest)

/-- A fraction below a half is dropped from a number with at most 53 bits before the point, whether
or not the number is rounded first. -/
theorem IsNearest.truncated_eq {q : ℚ} {x : Double} (h : IsNearest q x) (hsize : |q| < 2 ^ 53)
    (hfraction : Int.fract |q| < 1 / 2) : truncated x.value = truncated q := by
  obtain ⟨s, r, hr, rfl⟩ : ∃ s r, 0 ≤ r ∧ signed s r = q := by
    rcases le_total 0 q with hq | hq
    · exact ⟨false, q, hq, rfl⟩
    · exact ⟨true, -q, neg_nonneg.mpr hq, neg_neg q⟩
  rw [abs_signed, abs_of_nonneg hr] at hsize hfraction
  obtain ⟨m, hm⟩ := Int.eq_ofNat_of_zero_le (Int.floor_nonneg.mpr hr)
  have hfloor : (m : ℚ) = r - Int.fract r := by
    rw [Int.self_sub_fract, hm]
    rfl
  have hnonneg := Int.fract_nonneg r
  have hsmall : m < 2 ^ 53 := by
    have hle : (m : ℚ) < 2 ^ 53 := by linarith
    exact_mod_cast hle
  obtain ⟨k, hk, hvalue⟩ := exists_magnitude_eq hsmall
  have hclosest := h.closest (finite s ⟨k, hk⟩) rfl
  rw [value.eq_1, hvalue, abs_signed_sub_signed, hfloor, sub_sub_cancel_left, abs_neg,
    abs_of_nonneg hnonneg] at hclosest
  -- The size of the value, with the sign of the number, lies between the whole part and the next.
  obtain ⟨z, hz⟩ : ∃ z, signed s z = x.value := ⟨signed s x.value, signed_signed s _⟩
  rw [← hz, abs_signed_sub_signed, abs_le] at hclosest
  have hpart : ⌊z⌋ = m := by
    rw [Int.floor_eq_iff]
    constructor
    · push_cast
      linarith
    · push_cast
      linarith
  have hwhole {y : ℚ} (hy : ⌊y⌋ = m) : truncated y = m := by
    rw [truncated, if_pos, hy]
    exact Int.floor_nonneg.mp (hy ▸ Int.natCast_nonneg m)
  rw [← hz, truncated_signed, truncated_signed, hwhole hpart, hwhole hm]

end SplitTest.Double
