import SplitTest.Log.Record
import SplitTest.Proofs.Calendar.Instant
import SplitTest.Proofs.Number.Rounded

/-! The times of log records.  The fraction of the second in which a record is made is rounded to
microseconds, and the rounding adds a second at most; so a record that is made since the start of
1970 and before the last second of the calendar has a time. -/

namespace SplitTest.Double

/-! ### Rounding below a value of the grid -/

theorem nearestPlace_le {num den k : Nat} (hden : 0 < den) (h : num ≤ units k * den) :
    nearestPlace num den ≤ k := by
  rcases h.lt_or_eq with hlt | rfl
  · have hfloor : floorPlace (num / den) < k :=
      (floorPlace_lt_iff _ _).mpr ((Nat.div_lt_iff_lt_mul hden).mpr hlt)
    exact (nearestPlace_bounds num den).2.trans hfloor
  · have hplace := nearestPlace_mul (units k) 1 hden
    rw [Nat.one_mul, nearestPlace_units] at hplace
    exact hplace.le

/-- What is at most a finite value is at most this value when it is rounded. -/
theorem nearest_le (num : Nat) {den j : Nat} (hden : 0 < den) (hj : j < places)
    (h : num * one ≤ units j * den) :
    ∃ k : Fin places, nearest false num den = finite false k ∧ units k ≤ units j := by
  have hplace : nearestPlace (num * one) den ≤ j := nearestPlace_le hden h
  rw [nearest]
  generalize nearestPlace (num * one) den = k at hplace ⊢
  have hk : k < places := hplace.trans_lt hj
  exact ⟨⟨k, hk⟩, by rw [atPlace, dif_pos hk], units_strictMono.monotone hplace⟩

theorem roundDiv_le {num den m : Nat} (hden : 0 < den) (h : num ≤ m * den) :
    roundDiv num den ≤ m := by
  have hquotient : num / den ≤ m := Nat.div_le_of_le_mul (by rwa [Nat.mul_comm] at h)
  rcases hquotient.lt_or_eq with hlt | heq
  · unfold roundDiv
    simp only
    split
    · omega
    · split
      · omega
      · split <;> omega
  · have hsplit := Nat.div_add_mod num den
    have hremainder : num % den = 0 := by
      rw [heq, Nat.mul_comm] at hsplit
      omega
    simp [roundDiv, hremainder, hden, heq]

end SplitTest.Double

namespace SplitTest.Log.Record

open Double (one nearest_le)

/-- The record is made since the start of 1970 and before the last second of the calendar. -/
def IsDated (r : Record) : Prop :=
  ∃ n : Nat, r.created.units? = some (n : Int) ∧ n < 253402300799 * one

theorem exists_timeAt (s : Nat) (micro : Fin 1000000) (h : s < 253402300800) :
    ∃ t, timeAt? s micro = some t := by
  have hday : ((epochDay * secondsPerDay + s : Int) / secondsPerDay) =
      ((epochDay + s / secondsPerDay : Nat) : Int) := by
    simp only [epochDay, secondsPerDay]
    omega
  have hcount : epochDay + s / secondsPerDay < Date.count := by
    simp only [epochDay, secondsPerDay, Date.count]
    omega
  have hdate : Date.ofNumber? (epochDay + s / secondsPerDay : Nat) = some ⟨⟨_, hcount⟩⟩ :=
    Date.ofNumber?_eq_some_iff.mpr rfl
  exact ⟨_, by rw [timeAt?, DateTime.ofClock?, hday, hdate]; rfl⟩

/-- A fraction of a second has a million microseconds at most. -/
theorem exists_micros {a : Nat} (h : a < one) :
    ∃ x : Double, Double.ofQuotient? a one = some x ∧
      ∃ m : Nat, m ≤ 1000000 ∧ (x.mul (Double.ofNat 1000000)).round? = some (m : Int) := by
  obtain ⟨first, hfirst, hunits⟩ := Double.exists_units_eq (show 1 < 2 ^ 53 by decide)
  obtain ⟨last, hlast, hmillions⟩ := Double.exists_units_eq (show 1000000 < 2 ^ 53 by decide)
  rw [Nat.one_mul] at hunits
  obtain ⟨i, hfraction, hi⟩ := nearest_le a Double.one_pos hfirst (by
    rw [hunits]
    exact Nat.mul_le_mul_right one h.le)
  obtain ⟨j, hmillion, hj⟩ := nearest_le 1000000 Nat.one_pos hlast (by
    rw [hmillions, Nat.mul_one])
  obtain ⟨k, hproduct, hk⟩ := nearest_le (Double.units i * Double.units j)
    (Nat.mul_pos Double.one_pos Double.one_pos) hlast (calc
      _ ≤ one * Double.units last * one :=
        Nat.mul_le_mul_right one (Nat.mul_le_mul (hunits ▸ hi) hj)
      _ = Double.units last * (one * one) := by ring)
  refine ⟨.finite false i, ?_, Double.roundDiv (Double.units k) one,
    Double.roundDiv_le Double.one_pos (hmillions ▸ hk), ?_⟩
  · refine Double.ofQuotient?_eq_some_iff.mpr ⟨?_, rfl⟩
    rw [← hfraction, Int.natAbs_natCast, decide_eq_false (Int.not_lt.mpr (Int.natCast_nonneg a))]
  · have hmul : (Double.finite false i).mul (Double.ofNat 1000000) = .finite false k := by
      rw [Double.ofNat, hmillion, ← hproduct]
      rfl
    rw [hmul]
    rfl

theorem time?_eq {r : Record} {n m : Int} {x : Double} {micro : Fin 1000000} {t : DateTime}
    (hcreated : r.created.units? = some n)
    (hfraction : Double.ofQuotient? (n.tmod one) one = some x)
    (hmicros : (x.mul (Double.ofNat 1000000)).round? = some m)
    (hmicro : micro.val = (m % 1000000).toNat)
    (htime : timeAt? (n.tdiv one + m / 1000000) micro = some t) :
    r.time? = some { t with offset := some 0 } := by
  rw [time?]
  refine Option.bind_eq_some_iff.mpr ⟨n, hcreated, ?_⟩
  refine Option.bind_eq_some_iff.mpr ⟨x, hfraction, ?_⟩
  refine Option.bind_eq_some_iff.mpr ⟨m, hmicros, ?_⟩
  refine Option.bind_eq_some_iff.mpr ⟨t, ?_, rfl⟩
  exact (congrArg (timeAt? _) (Fin.ext hmicro.symm)).trans htime

theorem exists_time {r : Record} (h : r.IsDated) : ∃ t, r.time? = some t := by
  obtain ⟨n, hcreated, hn⟩ := h
  obtain ⟨x, hfraction, m, hm, hmicros⟩ := exists_micros (Nat.mod_lt n Double.one_pos)
  have hwhole : n / one < 253402300799 := (Nat.div_lt_iff_lt_mul Double.one_pos).mpr hn
  let micro : Fin 1000000 := ⟨((m : Int) % 1000000).toNat, by omega⟩
  obtain ⟨t, ht⟩ := exists_timeAt (n / one + m / 1000000) micro (by omega)
  have hmicro : micro.val = ((m : Int) % 1000000).toNat := rfl
  refine ⟨{ t with offset := some 0 }, time?_eq hcreated ?_ hmicros hmicro ?_⟩
  · rw [Int.tmod_eq_emod_of_nonneg (Int.natCast_nonneg n), ← Int.natCast_emod]
    exact hfraction
  · rw [Int.tdiv_eq_ediv_of_nonneg (Int.natCast_nonneg n), ← Int.natCast_ediv]
    exact ht

end SplitTest.Log.Record
