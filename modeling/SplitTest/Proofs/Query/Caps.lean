import SplitTest.Proofs.Number.Printed
import SplitTest.Proofs.Number.Rounded
import SplitTest.Proofs.Query.Accepted
import SplitTest.Proofs.Sql.Readable
import SplitTest.Query.Metric

/-! Caps in queries.  The cap of an accepted metric is not below zero, but it need not be a number:
not-a-number is not below zero either, and neither is infinity.  A cap that is a number is written
as one and read back as the cap; the other two are written by their names. -/

namespace SplitTest

open Text

/-! ### Numbers in queries -/

/-- A text is a number in SQL: digits, with or without a fraction and an exponent, that stand for
`n * 10 ^ e`. -/
def Sql.IsNumber (text : String) (n : Nat) (e : Int) : Prop :=
  ∃ p : NumberParts, text.toList = p.chars ∧ p.Denotes n e

theorem Sql.isNumber_natText (n : Nat) : IsNumber (natText n) n 0 := by
  refine ⟨⟨(natText n).toList, [], []⟩, ?_, ?_, ?_, .inl ⟨rfl, rfl⟩⟩
  · simp [NumberParts.chars, NumberParts.fractionChars, NumberParts.exponentChars]
  · simpa using Digits.natText n
  · rcases Nat.eq_zero_or_pos n with rfl | hn
    · exact .inl rfl
    · obtain ⟨d, ds, hds, -⟩ := (Digits.natText n).eq_cons
      have hhead := head?_natText hn
      rw [hds] at hhead
      exact .inr ⟨d, ds, hds, by simpa using hhead⟩

/-- A number begins with a digit. -/
theorem Sql.not_isNumber {text : String} (h : text.toList.head?.any Char.isDigit = false) (n : Nat)
    (e : Int) : ¬IsNumber text n e := by
  rintro ⟨p, hchars, hp⟩
  obtain ⟨d, rest, hd, hdigit⟩ := hp.exists_head
  rw [hchars, hd, List.head?_cons, Option.any_some, hdigit] at h
  cases h

namespace Double

theorem exists_place {x : Double} (hfinite : x.isFinite = true) (hneg : x.isNegative = false)
    (hzero : x.isZero = false) : ∃ k : Fin places, 0 < k.val ∧ x = finite false k := by
  cases x with
  | finite s k =>
    have hk : k.val ≠ 0 := by simpa [isZero] using hzero
    obtain rfl : s = false := by simpa [isNegative, hk] using hneg
    exact ⟨k, Nat.pos_of_ne_zero hk, rfl⟩
  | infinity s => cases hfinite
  | nan => cases hfinite

variable {k : Fin places}

theorem exists_units_of_isWhole (h : (finite false k).isWhole = true) :
    ∃ n, units k.val = n * one ∧ numberText (finite false k) = natText n := by
  have hmod : units k.val % one = 0 := by simpa [isWhole] using h
  refine ⟨units k.val / one, (Nat.div_mul_cancel (Nat.dvd_of_mod_eq_zero hmod)).symm, ?_⟩
  rw [numberText, if_pos h]
  rfl

/-- A whole number on the grid is read as itself. -/
theorem ofDecimal_of_units {n : Nat} (hk : 0 < k.val) (h : units k.val = n * one) :
    ofDecimal false n 0 = finite false k := by
  have hn : 0 < n := by
    have hpos := units_pos hk
    rw [h] at hpos
    exact Nat.pos_of_mul_pos_right hpos
  have hlength : (natText n).length ≤ 310 := by
    have hlt := units_lt_overflow k.isLt
    rw [h] at hlt
    exact length_natText_le (by decide) ((Nat.lt_of_mul_lt_mul_right hlt).trans_le overflow_le)
  have hplace : nearestPlace (n * 1 * one) 1 = k.val := by
    rw [Nat.mul_one, ← h, nearestPlace_units]
  rw [ofDecimal_eq hn, if_neg (by omega), if_neg (by omega), nearestDecimal, if_pos (by decide)]
  exact (congrArg (atPlace false) hplace).trans (dif_pos k.isLt)

theorem exists_isNumber_numberText (hk : 0 < k.val) :
    ∃ n e, Sql.IsNumber (numberText (finite false k)) n e ∧
      ofDecimal false n e = finite false k := by
  cases hwhole : (finite false k).isWhole with
  | true =>
    obtain ⟨n, hunits, htext⟩ := exists_units_of_isWhole hwhole
    exact ⟨n, 0, htext ▸ Sql.isNumber_natText n, ofDecimal_of_units hk hunits⟩
  | false =>
    obtain ⟨m, e, ⟨p, n, x, hchars, hp, -, hsame⟩, hread⟩ := exists_spells_magnitudeText k
    have htext : numberText (finite false k) = magnitudeText k := by
      rw [numberText, hwhole, if_neg Bool.false_ne_true, text, if_neg Bool.false_ne_true,
        String.empty_append]
    exact ⟨n, x, ⟨p, htext ▸ hchars, hp⟩, (hsame false).trans (hread false)⟩

theorem value_of_units {n : Nat} (h : units k.val = n * one) : (finite false k).value = n := by
  have hone : (one : ℚ) ≠ 0 := Nat.cast_ne_zero.mpr one_pos.ne'
  rw [value, signed, if_neg Bool.false_ne_true, magnitude, h, Nat.cast_mul,
    mul_div_cancel_right₀ _ hone]

theorem isFinite_of_isWhole {x : Double} (h : x.isWhole = true) : x.isFinite = true := by
  cases x with
  | finite s k => rfl
  | infinity s => cases h
  | nan => cases h

/-- The names of infinity and not-a-number are no numbers. -/
theorem isFinite_of_isNumber {x : Double} (hneg : x.isNegative = false) {n : Nat} {e : Int}
    (h : Sql.IsNumber (numberText x) n e) : x.isFinite = true := by
  cases x with
  | finite s k => rfl
  | infinity s =>
    obtain rfl : s = false := hneg
    have htext : numberText (infinity false) = "inf" := rfl
    exact absurd (htext ▸ h) (Sql.not_isNumber (by decide +kernel) n e)
  | nan =>
    have htext : numberText nan = "nan" := rfl
    exact absurd (htext ▸ h) (Sql.not_isNumber (by decide +kernel) n e)

/-- How a cap is written: where it is finite, as a number in SQL that is read as the cap, in plain
digits that stand for the cap if it is whole. -/
structure WrittenAs (x : Double) (literal : String) : Prop where
  isNumber_iff : (∃ n e, Sql.IsNumber literal n e) ↔ x.isFinite = true
  readsBack : x.isFinite = true → ∃ n e, Sql.IsNumber literal n e ∧ ofDecimal false n e = x
  whole : x.isWhole = true → ∃ n : Nat, Digits literal.toList n ∧ x.value = n

theorem writtenAs_numberText {x : Double} (hneg : x.isNegative = false)
    (hzero : x.isZero = false) : x.WrittenAs (numberText x) := by
  have hread (h : x.isFinite = true) :
      ∃ n e, Sql.IsNumber (numberText x) n e ∧ ofDecimal false n e = x := by
    obtain ⟨k, hk, rfl⟩ := exists_place h hneg hzero
    exact exists_isNumber_numberText hk
  refine ⟨⟨?_, fun h => ?_⟩, hread, fun h => ?_⟩
  · rintro ⟨n, e, hnumber⟩
    exact isFinite_of_isNumber hneg hnumber
  · obtain ⟨n, e, hnumber, -⟩ := hread h
    exact ⟨n, e, hnumber⟩
  · obtain ⟨k, hk, rfl⟩ := exists_place (isFinite_of_isWhole h) hneg hzero
    obtain ⟨n, hunits, htext⟩ := exists_units_of_isWhole h
    exact ⟨n, htext ▸ Digits.natText n, value_of_units hunits⟩

theorem value_nonneg {x : Double} (hneg : x.isNegative = false) : 0 ≤ x.value := by
  cases x with
  | finite s k =>
    cases s with
    | false => exact magnitude_nonneg k.val
    | true =>
      have hk : k.val = 0 := by simpa [isNegative] using hneg
      simp [value, hk]
  | infinity s => exact le_rfl
  | nan => exact le_rfl

end Double

/-! ### Values of a user -/

namespace MetricDefinition

/-- The value of a user before it is capped. -/
def uncapped (m : MetricDefinition) (column : Sql) : Sql :=
  match m.type with
  | .count => if m.hasColumn then .concat ["COUNT(DISTINCT ", column, ")"] else "COUNT(*)"
  | .duration | .revenue => .concat ["MAX(", column, ")"]
  | .binomial => "1"

variable {m : MetricDefinition}

theorem aggregateValue_of_uncapped (column : Sql)
    (h : m.type = .binomial ∨ m.capOrZero.isZero = true) :
    m.aggregateValue column = m.uncapped column := by
  unfold aggregateValue uncapped
  cases htype : m.type with
  | binomial => rfl
  | count | duration | revenue =>
    have hzero : m.capOrZero.isZero = true := h.resolve_left (by simp [htype])
    exact if_pos hzero

theorem aggregateValue_of_capped (column : Sql) (htype : m.type ≠ .binomial)
    (hzero : m.capOrZero.isZero = false) : (m.aggregateValue column).text =
      "LEAST(" ++ numberText m.capOrZero ++ ", " ++ (m.uncapped column).text ++ ")" := by
  have hcapped : m.aggregateValue column =
      .concat ["LEAST(", numberText m.capOrZero, ", ", m.uncapped column, ")"] := by
    unfold aggregateValue uncapped capValue
    rw [hzero]
    cases h : m.type with
    | binomial => exact absurd h htype
    | _ => rfl
  simp [hcapped, String.append_assoc]

/-- The cap of an accepted metric is a number that is not negative, or it is infinite or
not-a-number.  The value of a user is limited by it unless it is zero or the metric only counts
users; the limit is written as a number exactly if the cap is one. -/
theorem aggregateValue_of_read {v : Value} (h : read v = .ok m) (column : Sql) :
    (m.capOrZero = .nan ∨ m.capOrZero = .infinity false ∨
      m.capOrZero.isFinite = true ∧ 0 ≤ m.capOrZero.value) ∧
    (m.type = .binomial ∨ m.capOrZero.isZero = true →
      m.aggregateValue column = m.uncapped column) ∧
    (m.type ≠ .binomial → m.capOrZero.isZero = false →
      (m.aggregateValue column).text =
        "LEAST(" ++ numberText m.capOrZero ++ ", " ++ (m.uncapped column).text ++ ")" ∧
      m.capOrZero.WrittenAs (numberText m.capOrZero)) := by
  have hneg := (isValid_of_read h).cap
  refine ⟨?_, aggregateValue_of_uncapped column, fun htype hzero =>
    ⟨aggregateValue_of_capped column htype hzero, Double.writtenAs_numberText hneg hzero⟩⟩
  have hvalue := Double.value_nonneg hneg
  cases hcap : m.capOrZero with
  | finite s k => exact .inr (.inr ⟨rfl, hcap ▸ hvalue⟩)
  | infinity s =>
    rw [hcap] at hneg
    obtain rfl : s = false := hneg
    exact .inr (.inl rfl)
  | nan => exact .inl rfl

section CapTexts

/-- A metric that counts orders, its cap stated as a text. -/
def cappedOrders (cap : String) : Value :=
  .object [("id", .text "m"), ("name", .text "Orders"), ("type", .text "count"),
    ("table", .text "orders"), ("cap", .text cap)]

/-- A whole cap is written in digits, however it is stated. -/
theorem aggregateValue_of_read_power :
    ∃ m, read (cappedOrders "1e21") = .ok m ∧
      (m.aggregateValue "m.value").text = "LEAST(1000000000000000000000, COUNT(*))" ∧
      m.capOrZero.WrittenAs "1000000000000000000000" := by
  let m := { minimal "m" "Orders" .count "orders" with cap := some (.ofDecimal false 1 21) }
  have hread : read (cappedOrders "1e21") = .ok m := by decide +kernel
  have hliteral : numberText m.capOrZero = "1000000000000000000000" := by decide +kernel
  have hbare : (m.uncapped "m.value").text = "COUNT(*)" := by decide +kernel
  obtain ⟨-, -, hcapped⟩ := aggregateValue_of_read hread "m.value"
  obtain ⟨htext, hwritten⟩ := hcapped (by decide) (by decide +kernel)
  rw [hliteral] at htext hwritten
  rw [hbare] at htext
  exact ⟨m, hread, htext.trans (by decide +kernel), hwritten⟩

/-- What has no number in SQL is accepted as a cap, and the name of not-a-number or infinity is
written in its place. -/
theorem cap_without_number :
    read (cappedOrders "nan") = .ok { minimal "m" "Orders" .count "orders" with cap := some .nan } ∧
    read (cappedOrders "1e400") =
      .ok { minimal "m" "Orders" .count "orders" with cap := some (.infinity false) } ∧
    ({ minimal "m" "Orders" .count "orders" with cap := some .nan }.aggregateValue "m.value").text =
      "LEAST(nan, COUNT(*))" ∧
    ∀ n e, ¬Sql.IsNumber "nan" n e := by
  refine ⟨by decide +kernel, by decide +kernel, by decide +kernel, ?_⟩
  exact Sql.not_isNumber (by decide +kernel)

end CapTexts

end MetricDefinition

end SplitTest
