import SplitTest.Proofs.Calendar.Stamp
import SplitTest.Results.Cell

/-! Times that are written and read back.  A time with an offset is written as a literal in UTC or
as a text with its zone; either way the cell that holds the text is read as the same instant. -/

namespace SplitTest

open Text

/-- A form that spells a time loses nothing of it. -/
structure TimeSpelling.Spells (form : TimeSpelling) (t : DateTime) : Prop where
  offset : form.zone.offset.getD 0 = t.offset.getD 0
  fraction : form.fraction = true ∨ t.micro = 0

namespace DateTime

variable {t u : DateTime}

theorem meaning_sameInstant {form : TimeSpelling} (h : form.Spells t) :
    SameInstant (form.meaning t) t := by
  refine ⟨?_, ?_⟩
  · simp only [instant, TimeSpelling.meaning, h.offset]
    rfl
  · rcases h.fraction with hfraction | hmicro
    · simp [TimeSpelling.meaning, hfraction]
    · simp [TimeSpelling.meaning, hmicro]

/-- A time with an offset of whole minutes below a day, or without one. -/
def InWholeMinutes (t : DateTime) : Prop :=
  ∀ offset ∈ t.offset, offset.natAbs % 60 = 0 ∧ offset.natAbs < secondsPerDay

theorem exists_zoneSpelling (h : t.InWholeMinutes) : ∃ zone : ZoneSpelling, zone.offset = t.offset ∧
    zone.text = match t.offset with | none => "" | some offset => offsetText offset := by
  cases hoffset : t.offset with
  | none => exact ⟨.absent, rfl, rfl⟩
  | some offset =>
    obtain ⟨hminutes, hday⟩ := h offset hoffset
    have hlt : offset.natAbs < 86400 := hday
    have hhours : offset.natAbs / 3600 < 24 := by omega
    have hrest : offset.natAbs / 60 % 60 < 60 := by omega
    have hsum : offset.natAbs / 3600 * 3600 + offset.natAbs / 60 % 60 * 60 = offset.natAbs := by
      omega
    refine ⟨.minutes (decide (0 ≤ offset)) ⟨_, hhours⟩ ⟨_, hrest⟩, ?_, ?_⟩
    · simp only [ZoneSpelling.offset, hsum, decide_eq_true_eq, Option.some.injEq]
      split <;> omega
    · have hsign : ZoneSpelling.sign (decide (0 ≤ offset)) = if offset < 0 then "-" else "+" := by
        by_cases hneg : offset < 0
        · simp [ZoneSpelling.sign, hneg]
        · simp [ZoneSpelling.sign, hneg, Int.not_lt.mp hneg]
      simp [ZoneSpelling.text, offsetText, hsign, hminutes]

/-- The ISO text is one of the spellings of a time. -/
theorem exists_spells_isoText (h : t.InWholeMinutes) :
    ∃ form : TimeSpelling, form.Spells t ∧ form.text t = t.isoText := by
  obtain ⟨zone, hoffset, htext⟩ := exists_zoneSpelling h
  refine ⟨⟨false, decide (t.micro.val ≠ 0), zone⟩, ⟨?_, ?_⟩, ?_⟩
  · rw [hoffset]
  · by_cases hmicro : t.micro.val = 0
    · exact .inr (Fin.ext hmicro)
    · exact .inl (decide_eq_true hmicro)
  · have hfraction (s : String) : (if decide (t.micro.val ≠ 0) = true then s else "") =
        if t.micro.val = 0 then "" else s := by
      by_cases hmicro : t.micro.val = 0 <;> simp [hmicro]
    simp only [TimeSpelling.text, TimeSpelling.separator, TimeSpelling.fractionText, htext,
      hfraction]
    rfl

end DateTime

/-! ### Reading written times -/

namespace Cell

open DateTime

variable {reference : Lenient.Reference} {t u : DateTime}

theorem toTime_text {s : String} (hread : Lenient.read? reference s = some t)
    (hutc : t.toUtc = .ok u) :
    toTime reference (.text s) = .ok (some u) := by
  simp only [toTime, toTimeBy, Value.display, hread, hutc]

/-- A stamp is read as the time to the second that its clock shows. -/
theorem toTime_stampText (hyear : 1000 ≤ t.date.year) :
    toTime reference (.text t.stampText) = .ok (some { t.truncated with offset := none }) := by
  have hread : Lenient.read? reference (TimeSpelling.stamp.text t) =
      some (TimeSpelling.stamp.meaning t) :=
    Lenient.read?_text .stamp t
  rw [← stampText_eq hyear] at hread
  exact toTime_text hread rfl

/-- Every spelling of a time is read as its counterpart in UTC. -/
theorem toTime_spelling {form : TimeSpelling} (hform : form.Spells t) (hu : u.offset = none)
    (h : SameInstant t u) : toTime reference (.text (form.text t)) = .ok (some u) := by
  refine toTime_text (Lenient.read?_text form t) (toUtc_eq_ok_iff.mpr ⟨?_, hu, ?_⟩)
  · exact form.zone.natAbs_lt
  · exact (meaning_sameInstant hform).trans h

/-- A time and its counterpart in UTC.  The time is read back from its literal to the second, and
from each of its ISO texts to the microsecond; so all texts of one instant are read alike. -/
theorem toTime_of_written (reference : Lenient.Reference) (hzone : t.InWholeMinutes)
    (hu : u.offset = none) (h : SameInstant t u)
    (hyear : 1000 ≤ u.date.year) :
    (∀ d : Dialect, ∃ s, (d.formatTimestamp t).map Sql.text =
        .ok (String.singleton Literal.quote ++ s ++ String.singleton Literal.quote) ∧
      toTime reference (.text s) = .ok (some u.truncated)) ∧
    toTime reference (.text t.isoText) = .ok (some u) ∧
    (∀ form : TimeSpelling, form.Spells t → toTime reference (.text (form.text t)) = .ok (some u)) ∧
    ∀ (t' : DateTime) (form form' : TimeSpelling), SameInstant t t' → form.Spells t →
      form'.Spells t' → toTime reference (.text (form.text t)) =
        toTime reference (.text (form'.text t')) := by
  have hspelling {form : TimeSpelling} {t' : DateTime} (hform : form.Spells t')
      (h' : SameInstant t t') : toTime reference (.text (form.text t')) = .ok (some u) :=
    toTime_spelling hform hu (h'.symm.trans h)
  refine ⟨fun d => ⟨u.stampText, ?_, ?_⟩, ?_, fun form hform => hspelling hform (.refl t), ?_⟩
  · have hutc : t.toUtc = .ok u :=
      toUtc_eq_ok_iff.mpr ⟨fun offset ho => (hzone offset ho).2, hu, h⟩
    exact d.formatTimestamp_text hutc
  · rw [toTime_stampText hyear, ← hu]
    rfl
  · obtain ⟨form, hform, htext⟩ := exists_spells_isoText hzone
    rw [← htext]
    exact hspelling hform (.refl t)
  · intro t' form form' h' hform hform'
    rw [hspelling hform (.refl t), hspelling hform' h']

/-- On New Year's Eve west of Greenwich, in the new year of UTC. -/
theorem toTime_of_written_new_year :
    let t : DateTime := ⟨⟨⟨737789, by decide⟩⟩, ⟨73815, by decide⟩, 250, some (-19800)⟩
    let u : DateTime := ⟨⟨⟨737790, by decide⟩⟩, ⟨7215, by decide⟩, 250, none⟩
    let reference : Lenient.Reference := ⟨u.date, 2021⟩
    t.isoText = "2020-12-31T20:30:15.000250-05:30" ∧ t.InWholeMinutes ∧ u.offset = none ∧
      SameInstant t u ∧ 1000 ≤ u.date.year ∧ toTime reference (.text t.isoText) = .ok (some u) := by
  intro t u reference
  have hzone : t.InWholeMinutes := by
    rintro _ ⟨⟩
    decide
  have h : SameInstant t u := ⟨by decide +kernel, rfl⟩
  have hyear : 1000 ≤ u.date.year := by decide +kernel
  exact ⟨by decide +kernel, hzone, rfl, h, hyear,
    (toTime_of_written reference hzone rfl h hyear).2.1⟩

end Cell

end SplitTest
