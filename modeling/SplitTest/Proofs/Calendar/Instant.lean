import SplitTest.Proofs.Calendar.Date
import SplitTest.Calendar.DateTime

/-! Instants.  A time denotes the number of seconds from the start of the calendar that its clock
shows, less its offset, and a fraction of a second.  Moving a time into UTC keeps the instant, and
of each instant there is at most one time without an offset. -/

namespace SplitTest.DateTime

/-- The number of seconds from the start of the calendar in UTC. -/
def instant (t : DateTime) : Int := t.clock - t.offset.getD 0

/-- Two times denote the same instant. -/
structure SameInstant (t u : DateTime) : Prop where
  instant : t.instant = u.instant
  micro : t.micro = u.micro

theorem micro_pos : 0 < 1000000 := by decide

/-- The time without its fraction of a second. -/
def truncated (t : DateTime) : DateTime := { t with micro := ⟨0, micro_pos⟩ }

@[simp] theorem truncated_micro (t : DateTime) : t.truncated.micro = 0 := rfl

/-- A time with an offset that lies below a day, or without one. -/
def IsZoned (t : DateTime) : Prop := ∀ offset ∈ t.offset, offset.natAbs < secondsPerDay

namespace SameInstant

variable {t u v : DateTime}

theorem refl (t : DateTime) : SameInstant t t := ⟨rfl, rfl⟩

theorem symm (h : SameInstant t u) : SameInstant u t := ⟨h.instant.symm, h.micro.symm⟩

theorem trans (h : SameInstant t u) (h' : SameInstant u v) : SameInstant t v :=
  ⟨h.instant.trans h'.instant, h.micro.trans h'.micro⟩

end SameInstant

/-- The number of days and the second of the day are found in the number of seconds. -/
theorem ofClock?_eq_some_iff {n : Int} {micro : Fin 1000000} {u : DateTime} :
    ofClock? n micro = some u ↔ u.offset = none ∧ u.micro = micro ∧ (u.clock : Int) = n := by
  obtain ⟨date, second, micro', offset⟩ := u
  have hclock : ((clock ⟨date, second, micro', offset⟩ : Nat) : Int) = n ↔
      (date.number : Int) = n / 86400 ∧ second.val = (n % 86400).toNat := by
    have hsecond : second.val < 86400 := second.isLt
    simp only [clock, secondsPerDay]
    omega
  rw [ofClock?, Option.map_eq_some_iff, hclock]
  constructor
  · rintro ⟨d, hd, heq⟩
    obtain ⟨rfl, rfl, rfl, rfl⟩ := DateTime.mk.inj heq
    exact ⟨rfl, rfl, Date.ofNumber?_eq_some_iff.mp hd, rfl⟩
  · rintro ⟨rfl, rfl, hnumber, hsecond⟩
    refine ⟨date, Date.ofNumber?_eq_some_iff.mpr hnumber, ?_⟩
    congr 1
    exact Fin.ext hsecond.symm

theorem ofClock?_instant {t u : DateTime} (hu : u.offset = none) (h : SameInstant t u) :
    ofClock? t.instant t.micro = some u := by
  refine ofClock?_eq_some_iff.mpr ⟨hu, h.micro.symm, ?_⟩
  rw [h.instant, instant, hu, Option.getD_none, Int.sub_zero]

/-- Without an offset there is one time for an instant only. -/
theorem SameInstant.eq {t u : DateTime} (ht : t.offset = none) (hu : u.offset = none)
    (h : SameInstant t u) : t = u :=
  Option.some.inj ((ofClock?_instant ht (.refl t)).symm.trans (ofClock?_instant hu h))

/-- The counterpart of a time in UTC is the time without an offset that denotes the same
instant. -/
theorem toUtc_eq_ok_iff {t u : DateTime} :
    t.toUtc = .ok u ↔ t.IsZoned ∧ u.offset = none ∧ SameInstant t u := by
  cases hoffset : t.offset with
  | none =>
    have hzoned : t.IsZoned := fun _ h => by simp [hoffset] at h
    simp only [toUtc, hoffset, Except.ok.injEq, hzoned, true_and]
    constructor
    · rintro rfl
      exact ⟨hoffset, .refl t⟩
    · rintro ⟨hu, h⟩
      exact h.eq hoffset hu
  | some offset =>
    have hzoned : t.IsZoned ↔ ¬86400 ≤ offset.natAbs := by
      simp [IsZoned, hoffset, secondsPerDay]
    have hinstant : (t.clock : Int) - offset = t.instant := by simp [instant, hoffset]
    simp only [toUtc, hoffset, hinstant, hzoned]
    split
    · rename_i hlarge
      simp [hlarge]
    · rename_i hsmall
      simp only [hsmall, not_false_eq_true, true_and]
      constructor
      · intro h
        split at h
        · rename_i u' hclock
          obtain rfl := Except.ok.inj h
          obtain ⟨hu, hmicro, hseconds⟩ := ofClock?_eq_some_iff.mp hclock
          exact ⟨hu, by simp [instant, hu, hseconds], hmicro.symm⟩
        · simp at h
      · rintro ⟨hu, h⟩
        rw [ofClock?_instant hu h]

/-! ### The fields of a time -/

/-- The time of a time's own day and clock is the time, with the offset that is given. -/
theorem ofFields?_fields (t : DateTime) (offset : Option Int) :
    ofFields? t.date t.hour t.minute t.secondOfMinute t.micro offset = some { t with offset } := by
  have hsecond : t.second.val < 86400 := t.second.isLt
  have hrange : t.hour < 24 ∧ t.minute < 60 ∧ t.secondOfMinute < 60 ∧ t.micro.val < 1000000 := by
    simp only [hour, minute, secondOfMinute]
    omega
  have hclock : t.hour * 3600 + t.minute * 60 + t.secondOfMinute = t.second := by
    simp only [hour, minute, secondOfMinute]
    omega
  simp only [ofFields?, hrange, hclock]
  rfl

end SplitTest.DateTime
