import SplitTest.Number.Shortest
import SplitTest.Proofs.Number.Overflow
import SplitTest.Proofs.Text.Digits

/-! The value nearest to a decimal depends on the number alone, not on how many zeros it is written
with, and the value nearest to a value is the value itself.  So the digits that
`Double.shortestDigits` finds denote the value they are found for. -/

namespace SplitTest

/-! ### Digits of multiples of ten -/

theorem Text.natText_mul_ten {n : Nat} (hn : 0 < n) :
    (natText (n * 10)).toList = (natText n).toList ++ ['0'] := by
  simp only [natText, Nat.toString_eq_repr, Nat.toList_repr]
  rw [Nat.toDigits_of_base_le (by decide) (by omega), Nat.mul_div_cancel _ (by decide),
    Nat.mul_mod_left]
  rfl

theorem Text.length_natText_mul_ten {n : Nat} (hn : 0 < n) :
    (natText (n * 10)).length = (natText n).length + 1 := by
  rw [← String.length_toList, natText_mul_ten hn, List.length_append, String.length_toList]
  rfl

theorem Text.lt_length_natText {n k : Nat} (h : 10 ^ k ≤ n) : k < (natText n).length := by
  rcases Nat.eq_zero_or_pos k with rfl | hk
  · rw [natText, Nat.toString_eq_repr]
    exact Nat.length_repr_pos
  · rw [natText, Nat.toString_eq_repr, ← Nat.not_le, Nat.length_repr_le_iff hk, Nat.not_lt]
    exact h

namespace Double

/-! ### The grid -/

theorem units_lt_succ (k : Nat) : units k < units (k + 1) := by
  obtain ⟨s, m, hk⟩ := exists_isPlace k
  have hplace := hk.place
  have hlt := hk.lt
  have hpos : 0 < 2 ^ s := Nat.two_pow_pos s
  rw [hk.units_eq]
  by_cases hnext : m + 1 < 2 ^ 53
  · have hsucc : IsPlace s (m + 1) (k + 1) := by
      refine ⟨by omega, hnext, ?_⟩
      rcases hk.full with h | h
      · exact .inl h
      · exact .inr (by omega)
    rw [hsucc.units_eq]
    exact Nat.mul_lt_mul_of_pos_right (by omega) hpos
  -- The significand is full, so the next place has the next exponent.
  · have hsucc : IsPlace (s + 1) (2 ^ 52) (k + 1) := ⟨by omega, by decide, .inr le_rfl⟩
    rw [hsucc.units_eq, show 2 ^ 52 * 2 ^ (s + 1) = 2 ^ 53 * 2 ^ s by ring]
    exact Nat.mul_lt_mul_of_pos_right hlt hpos

theorem floorPlace_units (k : Nat) : floorPlace (units k) = k := by
  have hlow := (floorPlace_lt_iff (units k) k).not.mpr (lt_irrefl _)
  have hhigh := (floorPlace_lt_iff (units k) (k + 1)).mpr (units_lt_succ k)
  omega

theorem nearestPlace_units (k : Nat) : nearestPlace (units k) 1 = k := by
  have hstep := units_lt_succ k
  simp only [nearestPlace, Nat.div_one, Nat.mul_one, floorPlace_units]
  rw [if_pos (by omega)]

theorem units_pos {k : Nat} (hk : 0 < k) : 0 < units k := by
  obtain ⟨j, rfl⟩ : ∃ j, k = j + 1 := ⟨k - 1, by omega⟩
  exact Nat.zero_lt_of_lt (units_lt_succ j)

/-! ### Scaling -/

theorem nearestPlace_mul (num den : Nat) {c : Nat} (hc : 0 < c) :
    nearestPlace (num * c) (den * c) = nearestPlace num den := by
  simp only [nearestPlace, Nat.mul_div_mul_right num den hc, ← Nat.mul_assoc, ← Nat.sub_mul,
    Nat.mul_lt_mul_right hc]

theorem nearest_mul (negative : Bool) (num den : Nat) {c : Nat} (hc : 0 < c) :
    nearest negative (num * c) (den * c) = nearest negative num den := by
  rw [nearest, Nat.mul_right_comm, nearestPlace_mul _ _ hc, nearest]

/-- The value nearest to `n * 10 ^ e`, whatever its size. -/
def nearestDecimal (negative : Bool) (n : Nat) (e : Int) : Double :=
  if 0 ≤ e then nearest negative (n * Nat.pow 10 e.toNat) 1
  else nearest negative n (Nat.pow 10 (-e).toNat)

theorem ofDecimal_zero (negative : Bool) (e : Int) :
    ofDecimal negative 0 e = finite negative ⟨0, places_pos⟩ := by
  rw [ofDecimal, if_pos rfl]

theorem ofDecimal_eq {n : Nat} (hn : 0 < n) (negative : Bool) (e : Int) :
    ofDecimal negative n e =
      if 310 < ((Text.natText n).length : Int) + e then infinity negative
      else if ((Text.natText n).length : Int) + e < -330 then
        finite negative ⟨0, places_pos⟩
      else nearestDecimal negative n e :=
  if_neg hn.ne'

theorem nearestDecimal_mul_ten (negative : Bool) (n : Nat) (e : Int) :
    nearestDecimal negative (n * 10) e = nearestDecimal negative n (e + 1) := by
  unfold nearestDecimal
  rcases lt_trichotomy e (-1) with hlow | rfl | hhigh
  · rw [if_neg (by omega), if_neg (by omega), show (-e).toNat = (-(e + 1)).toNat + 1 by omega]
    exact nearest_mul negative n _ (by decide)
  · rw [if_neg (by decide), if_pos (by decide),
      show Nat.pow 10 (- -1 : Int).toNat = 1 * 10 from rfl,
      show Nat.pow 10 (-1 + 1 : Int).toNat = 1 from rfl,
      nearest_mul _ _ _ (by decide), Nat.mul_one]
  · rw [if_pos (by omega), if_pos (by omega), show (e + 1).toNat = e.toNat + 1 by omega,
      Nat.mul_assoc, Nat.mul_comm 10]
    rfl

/-- A zero at the end of the digits is a factor of ten. -/
theorem ofDecimal_mul_ten (negative : Bool) (n : Nat) (e : Int) :
    ofDecimal negative (n * 10) e = ofDecimal negative n (e + 1) := by
  rcases Nat.eq_zero_or_pos n with rfl | hn
  · rw [Nat.zero_mul, ofDecimal_zero, ofDecimal_zero]
  have hwidth : ((Text.natText (n * 10)).length : Int) + e =
      (Text.natText n).length + (e + 1) := by
    rw [Text.length_natText_mul_ten hn]
    push_cast
    ring
  rw [ofDecimal_eq (by omega), ofDecimal_eq hn, hwidth, nearestDecimal_mul_ten]

theorem ofDecimal_mul_pow (negative : Bool) (n j : Nat) (e : Int) :
    ofDecimal negative (n * 10 ^ j) e = ofDecimal negative n (e + j) := by
  induction j generalizing e with
  | zero => simp
  | succ j ih =>
    rw [Nat.pow_succ, ← Nat.mul_assoc, ofDecimal_mul_ten, ih]
    congr 1
    push_cast
    ring

theorem atPlace_of_false {j : Nat} {k : Fin places} (h : atPlace false j = finite false k)
    (negative : Bool) : atPlace negative j = finite negative k := by
  unfold atPlace at h ⊢
  split at h
  · rename_i hj
    rw [dif_pos hj]
    cases h
    rfl
  · cases h

theorem nearestDecimal_of_false {n : Nat} {e : Int} {k : Fin places}
    (h : nearestDecimal false n e = finite false k) (negative : Bool) :
    nearestDecimal negative n e = finite negative k := by
  unfold nearestDecimal at h ⊢
  split
  · rw [if_pos ‹_›] at h
    exact atPlace_of_false h negative
  · rw [if_neg ‹_›] at h
    exact atPlace_of_false h negative

/-- A decimal and the same one below zero have the same place. -/
theorem ofDecimal_of_false {n : Nat} {e : Int} {k : Fin places}
    (h : ofDecimal false n e = finite false k) (negative : Bool) :
    ofDecimal negative n e = finite negative k := by
  rcases Nat.eq_zero_or_pos n with rfl | hn
  · rw [ofDecimal_zero] at h ⊢
    cases h
    rfl
  rw [ofDecimal_eq hn] at h ⊢
  generalize ((Text.natText n).length : Int) + e = width at h ⊢
  split
  · rw [if_pos ‹_›] at h
    cases h
  · rw [if_neg ‹_›] at h
    split
    · rw [if_pos ‹_›] at h
      cases h
      rfl
    · rw [if_neg ‹_›] at h
      exact nearestDecimal_of_false h negative

/-! ### Shortest digits -/

/-- The power of five that makes every unit a whole number of the decimals with as many places. -/
def fivePower : Nat := Nat.pow 5 1074

theorem fivePower_pos : 0 < fivePower := by
  decide +kernel

theorem fivePower_mul_one : fivePower * one = Nat.pow 10 (- -1074 : Int).toNat := by
  decide +kernel

theorem le_fivePower : 10 ^ 744 ≤ fivePower := by
  decide +kernel

theorem mul_fivePower_lt {u : Nat} (h : u < overflow * one) : u * fivePower < 10 ^ 1384 := by
  have hbound : overflow * one * fivePower ≤ 10 ^ 1384 := by decide +kernel
  exact (Nat.mul_lt_mul_of_pos_right h fivePower_pos).trans_le hbound

/-- The digits of the exact value are within the bounds on sizes that can be read. -/
theorem length_exact_bounds {k : Nat} (hk : 0 < k) (hplace : k < places) :
    744 < (Text.natText (units k * fivePower)).length ∧
      (Text.natText (units k * fivePower)).length ≤ 1384 := by
  constructor
  · exact Text.lt_length_natText (le_fivePower.trans (Nat.le_mul_of_pos_left _ (units_pos hk)))
  · exact Text.length_natText_le (by decide) (mul_fivePower_lt (units_lt_overflow hplace))

theorem nearest_exact (k : Fin places) {c den : Nat} (hc : 0 < c) (hden : c * one = den) :
    nearest false (units k.val * c) den = finite false k := by
  have hpos : 0 < den := hden ▸ Nat.mul_pos hc one_pos
  have hplace := nearestPlace_mul (units k.val) 1 hpos
  rw [nearestPlace_units, Nat.one_mul] at hplace
  rw [nearest, Nat.mul_assoc, hden, hplace, atPlace, dif_pos k.isLt]

theorem ofDecimal_exact {k : Fin places} (hk : 0 < k.val) :
    ofDecimal false (units k.val * fivePower) (-1074) = finite false k := by
  obtain ⟨hlow, hhigh⟩ := length_exact_bounds hk k.isLt
  rw [ofDecimal_eq (Nat.mul_pos (units_pos hk) fivePower_pos), if_neg (by omega),
    if_neg (by omega), nearestDecimal, if_neg (by decide)]
  exact nearest_exact k fivePower_pos fivePower_mul_one

/-- The fewest of at most seventeen digits that read back as the value at a place. -/
def fewestDigits? (k : Fin places) : Option (Nat × Int) :=
  (List.range 17).findSome? fun i =>
    let e := pointPlace (units k.val) - (i + 1 : Nat)
    ((neighbours (units k.val) e).find? fun c => ofDecimal false c e = finite false k).map (·, e)

theorem shortestDigits_eq (k : Fin places) :
    shortestDigits k = (fewestDigits? k).getD (units k.val * fivePower, -1074) := by
  delta shortestDigits fewestDigits? fivePower
  rfl

theorem ofDecimal_shortestDigits {k : Fin places} (hk : 0 < k.val) (negative : Bool) :
    ofDecimal negative (shortestDigits k).1 (shortestDigits k).2 = finite negative k := by
  apply ofDecimal_of_false
  rw [shortestDigits_eq]
  cases hfound : fewestDigits? k with
  | none => exact ofDecimal_exact hk
  | some digits =>
    obtain ⟨i, -, hi⟩ := List.exists_of_findSome?_eq_some hfound
    obtain ⟨c, hc, rfl⟩ := Option.map_eq_some_iff.mp hi
    simpa using List.find?_some hc

theorem shortestDigits_pos {k : Fin places} (hk : 0 < k.val) : 0 < (shortestDigits k).1 := by
  rw [Nat.pos_iff_ne_zero]
  intro hzero
  have hread := ofDecimal_shortestDigits hk false
  rw [hzero, ofDecimal_zero] at hread
  cases hread
  exact Nat.lt_irrefl 0 hk

end Double

end SplitTest
