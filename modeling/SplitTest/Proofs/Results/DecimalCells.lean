import SplitTest.Proofs.Number.FieldText
import SplitTest.Results.Cell

/-! Counts in text cells.  A count without a point and an exponent is read digit by digit, and one
with either of them, or with too many digits, through the floating point number nearest to it.  The
second way gives the whole part of what is written unless rounding moves it across a whole
number. -/

namespace SplitTest

open Double

theorem FieldNumber.abs_value (t : FieldNumber) :
    |t.value| = Text.numberOf t.digits * 10 ^ t.power := by
  rw [value, abs_signed, abs_of_nonneg (by positivity)]

namespace Cell

theorem toInt_of_intOfText?_eq_none {t : FieldNumber} (h : intOfText? t.text = none) :
    toInt (.text t.text) =
      .ok ((ofDecimal t.sign.isMinus (Text.numberOf t.digits) t.power).truncate?.getD 0) := by
  rw [toInt, intOfText, h, FieldNumber.ofText?_text, Option.bind_some]

theorem toInt_rounded {t : FieldNumber} (h : intOfText? t.text = none) :
    (|t.value| < overflow →
        ∃ x, IsNearest t.value x ∧ toInt (.text t.text) = .ok (truncated x.value)) ∧
      (overflow ≤ |t.value| → toInt (.text t.text) = .ok 0) := by
  obtain ⟨hnear, hfar⟩ := isNearest_ofDecimal t.sign.isMinus (Text.numberOf t.digits) t.power
  rw [toInt_of_intOfText?_eq_none h, t.abs_value]
  constructor
  · intro hlt
    have hx := hnear hlt
    exact ⟨_, hx, by rw [truncate?_eq hx.isFinite, Option.getD_some]⟩
  · intro hle
    rw [hfar hle]
    rfl

/-- Three kinds of texts are read as the whole parts of their numbers: those with neither a point
nor an exponent, those of numbers that are floating point numbers, and those of numbers with at most
53 bits before the point and a fraction below a half.  A text with a point or an exponent is always
read as the whole part of the nearest floating point number, or as zero beyond all of these. -/
theorem toInt_of_fieldNumber (t : FieldNumber) :
    (t.isWhole = true → t.whole.length ≤ digitLimit →
        toInt (.text t.text) = .ok (truncated t.value)) ∧
      (∀ x : Double, x.isFinite = true → x.value = t.value →
        toInt (.text t.text) = .ok (truncated t.value)) ∧
      (|t.value| < 2 ^ 53 → Int.fract |t.value| < 1 / 2 →
        toInt (.text t.text) = .ok (truncated t.value)) ∧
      (¬(t.isWhole = true ∧ t.whole.length ≤ digitLimit) →
        (|t.value| < overflow →
          ∃ x, IsNearest t.value x ∧ toInt (.text t.text) = .ok (truncated x.value)) ∧
        (overflow ≤ |t.value| → toInt (.text t.text) = .ok 0)) := by
  have hint := t.intOfText?_text
  have hwhole (h : t.isWhole = true ∧ t.whole.length ≤ digitLimit) :
      toInt (.text t.text) = .ok (truncated t.value) := by
    rw [if_pos h] at hint
    rw [toInt, intOfText, hint]
  have hrounded (h : ¬(t.isWhole = true ∧ t.whole.length ≤ digitLimit)) :=
    toInt_rounded (hint.trans (if_neg h))
  refine ⟨fun h hlimit => hwhole ⟨h, hlimit⟩, fun x hx hvalue => ?_, fun hsize hfraction => ?_,
    hrounded⟩
  · by_cases h : t.isWhole = true ∧ t.whole.length ≤ digitLimit
    · exact hwhole h
    · obtain ⟨y, hy, hread⟩ := (hrounded h).1 (hvalue ▸ abs_value_lt hx)
      rw [hread, hy.value_eq hx hvalue]
  · by_cases h : t.isWhole = true ∧ t.whole.length ≤ digitLimit
    · exact hwhole h
    · have hsmall : (2 ^ 53 : ℚ) ≤ overflow := by
        have hle : 2 ^ 53 ≤ overflow := by decide +kernel
        exact_mod_cast hle
      obtain ⟨y, hy, hread⟩ := (hrounded h).1 (hsize.trans_le hsmall)
      rw [hread, hy.truncated_eq hsize hfraction]

/-- A count as a printer of decimals gives it, between blanks. -/
def paddedCount : FieldNumber where
  before := [' ']
  sign := .plus
  whole := ['1', '2', '3']
  fraction := some ['0', '0']
  exponent := none
  after := ['\n']
  isSpace_before := List.forall_mem_singleton.mpr rfl
  isSpace_after := List.forall_mem_singleton.mpr rfl
  isRun_whole := List.all_eq_true.mp (by decide)
  isRun_fraction := List.all_eq_true.mp (by decide)
  ne_nil := by decide

theorem toInt_of_fieldNumber_padded :
    paddedCount.text = " +123.00\n" ∧ toInt (.text paddedCount.text) = .ok 123 := by
  have hnumber : Text.numberOf paddedCount.digits = 12300 := by decide +kernel
  have hpower : paddedCount.power = -2 := by decide
  have hvalue : paddedCount.value = (123 : ℕ) := by
    rw [FieldNumber.value, hnumber, hpower]
    norm_num [signed, paddedCount, Sign.isMinus]
  have hread := (toInt_of_fieldNumber paddedCount).2.2.1
  rw [hvalue, truncated_natCast] at hread
  exact ⟨by decide +kernel, hread (by norm_num) (by norm_num)⟩

/-- The least count that is no floating point number. -/
def longCount : FieldNumber where
  before := []
  sign := .absent
  whole := "9007199254740993".toList
  fraction := some ['0', '0']
  exponent := none
  after := []
  isSpace_before := List.forall_mem_nil _
  isSpace_after := List.forall_mem_nil _
  isRun_whole := List.all_eq_true.mp (by decide)
  isRun_fraction := List.all_eq_true.mp (by decide)
  ne_nil := by decide

/-- The count goes to the floating point number below it, which is at an even place. -/
theorem longCount_off_by_one :
    longCount.text = "9007199254740993.00" ∧ longCount.value = 9007199254740993 ∧
      truncated longCount.value = 9007199254740993 ∧
      toInt (.text longCount.text) = .ok 9007199254740992 := by
  have hnumber : Text.numberOf longCount.digits = 900719925474099300 := by decide +kernel
  have hpower : longCount.power = -2 := by decide
  have hvalue : longCount.value = (9007199254740993 : ℕ) := by
    rw [FieldNumber.value, hnumber, hpower]
    norm_num [signed, longCount, Sign.isMinus]
  have hint : intOfText? longCount.text = none := by
    rw [FieldNumber.intOfText?_text, if_neg (by decide)]
  have hrounded : (ofDecimal false 900719925474099300 (-2)).truncate? =
      some 9007199254740992 := by decide +kernel
  have hread : toInt (.text longCount.text) = .ok 9007199254740992 := by
    have hsign : longCount.sign.isMinus = false := rfl
    rw [toInt_of_intOfText?_eq_none hint, hnumber, hpower, hsign, hrounded, Option.getD_some]
  rw [hvalue, truncated_natCast]
  exact ⟨by decide +kernel, rfl, rfl, hread⟩

end Cell

end SplitTest
