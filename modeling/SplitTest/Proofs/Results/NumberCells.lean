import SplitTest.Proofs.Number.Overflow
import SplitTest.Results.Cell

/-! Cells as numbers.  Two kinds of cells cost their row: an infinite number read as a whole one,
and a whole number beyond the floating point numbers read as one of these.  Every other cell has a
number, which is finite, and which is zero where the cell holds no number or not a finite one. -/

namespace SplitTest

def Value.isInfinite : Value → Bool
  | .float (.infinity _) | .decimal (.infinity _) => true
  | _ => false

/-- A value that is a finite number, or the text of one. -/
def Value.isFiniteNumber : Value → Bool
  | .int _ | .bool _ | .decimal (.finite ..) => true
  | .float x => x.isFinite
  | .text s => (intOfText? s).isSome || (Double.ofText? s).any Double.isFinite
  | _ => false

theorem Double.truncate?_of_not_isFinite {x : Double} (h : x.isFinite = false) :
    x.truncate? = none := by
  cases x with
  | finite s k => cases h
  | infinity s => rfl
  | nan => rfl

namespace Cell

theorem isFinite_finite (x : Double) : (finite x).isFinite = true := by
  unfold finite
  split
  · assumption
  · rfl

theorem finite_of_not_isFinite {x : Double} (h : x.isFinite = false) : finite x = Double.zero := by
  rw [finite, h]
  rfl

theorem isFinite_ofNat_bool (b : Bool) : (Double.ofNat (if b then 1 else 0)).isFinite = true := by
  rw [Double.ofNat, Double.isFinite_nearest_iff false Nat.one_pos]
  cases b <;> decide +kernel

/-- The only cells that cannot be read as whole numbers are the infinite ones. -/
theorem toInt_eq_error_iff {v : Value} {f : Fault} :
    toInt v = .error f ↔ v.isInfinite = true ∧ f = .numberTooLarge := by
  cases v with
  | float x => cases x <;> simp [toInt, wholePart, Value.isInfinite, eq_comm]
  | decimal d => cases d <;> simp [toInt, Value.isInfinite, eq_comm]
  | _ => simp [toInt, Value.isInfinite]

theorem toDouble_int_eq_error_iff {n : Int} {f : Fault} :
    toDouble (.int n) = .error f ↔ Double.overflow ≤ n.natAbs ∧ f = .numberTooLarge := by
  rw [← Nat.not_lt, ← Double.exists_ofInt?_iff, toDouble]
  cases Double.ofInt? n <;> simp [eq_comm]

theorem exists_toDouble {v : Value} (h : ∀ n, v ≠ .int n) : ∃ x, toDouble v = .ok x := by
  cases v with
  | int n => exact absurd rfl (h n)
  | _ => exact ⟨_, rfl⟩

/-- The only cells that cannot be read as floating point numbers are whole numbers that have
none. -/
theorem toDouble_eq_error_iff {v : Value} {f : Fault} :
    toDouble v = .error f ↔
      (∃ n, v = .int n ∧ Double.overflow ≤ n.natAbs) ∧ f = .numberTooLarge := by
  constructor
  · intro h
    by_cases hint : ∃ n, v = .int n
    · obtain ⟨n, rfl⟩ := hint
      obtain ⟨hlarge, hf⟩ := toDouble_int_eq_error_iff.mp h
      exact ⟨⟨n, rfl, hlarge⟩, hf⟩
    · obtain ⟨x, hx⟩ := exists_toDouble (not_exists.mp hint)
      cases hx.symm.trans h
  · rintro ⟨⟨n, rfl, hlarge⟩, hf⟩
    exact toDouble_int_eq_error_iff.mpr ⟨hlarge, hf⟩

/-- What is read as a floating point number is finite. -/
theorem isFinite_of_toDouble {v : Value} {x : Double} (h : toDouble v = .ok x) :
    x.isFinite = true := by
  cases v with
  | int n =>
    rw [toDouble] at h
    cases hread : Double.ofInt? n with
    | none =>
      rw [hread] at h
      cases h
    | some y =>
      rw [hread] at h
      exact Except.ok.inj h ▸ Double.isFinite_of_ofInt? hread
  | bool b => exact Except.ok.inj h ▸ isFinite_ofNat_bool b
  | float y => exact Except.ok.inj h ▸ isFinite_finite y
  | decimal d => exact Except.ok.inj h ▸ isFinite_finite _
  | text s => exact Except.ok.inj h ▸ isFinite_finite _
  | _ => exact Except.ok.inj h ▸ rfl

/-! ### Cells without a number -/

theorem intOfText_of_not_finite {s : String} (h : (Value.text s).isFiniteNumber = false) :
    intOfText s = 0 := by
  obtain ⟨hint, hfloat⟩ := Bool.or_eq_false_iff.mp h
  rw [Option.isSome_eq_false_iff, Option.isNone_iff_eq_none] at hint
  rw [intOfText, hint]
  cases hread : Double.ofText? s with
  | none => rfl
  | some x =>
    rw [hread] at hfloat
    simp [Double.truncate?_of_not_isFinite hfloat]

/-- A cell without a finite number is read as zero. -/
theorem toInt_of_not_isFiniteNumber {v : Value} (h : v.isFiniteNumber = false)
    (hinfinite : v.isInfinite = false) : toInt v = .ok 0 := by
  cases v with
  | int n => cases h
  | bool b => cases h
  | float x =>
    cases x with
    | finite s k => cases h
    | infinity s => cases hinfinite
    | nan => rfl
  | decimal d =>
    cases d with
    | finite s n e => cases h
    | infinity s => cases hinfinite
    | nan s q p => rfl
  | text s => exact congrArg Except.ok (intOfText_of_not_finite h)
  | _ => rfl

theorem toDouble_of_not_isFiniteNumber {v : Value} (h : v.isFiniteNumber = false) :
    toDouble v = .ok Double.zero := by
  cases v with
  | int n => cases h
  | bool b => cases h
  | float x => exact congrArg Except.ok (finite_of_not_isFinite h)
  | decimal d =>
    cases d with
    | finite s n e => cases h
    | infinity s => rfl
    | nan s q p => cases q <;> rfl
  | text s =>
    have hfloat := (Bool.or_eq_false_iff.mp h).2
    show Except.ok (finite ((Double.ofText? s).getD Double.zero)) = _
    cases hread : Double.ofText? s with
    | none => rfl
    | some x =>
      rw [hread] at hfloat
      exact congrArg Except.ok (finite_of_not_isFinite hfloat)
  | _ => rfl

/-- A cell is read as a whole number unless it is an infinite number, and as a floating point number
unless it is a whole number that has none; there is no other fault.  A floating point number that
is read is finite, and a cell without a finite number is read as zero. -/
theorem numbers_of_value (v : Value) :
    (∀ f, toInt v = .error f ↔ v.isInfinite = true ∧ f = .numberTooLarge) ∧
    (∀ f, toDouble v = .error f ↔
      (∃ n, v = .int n ∧ Double.overflow ≤ n.natAbs) ∧ f = .numberTooLarge) ∧
    (∀ x, toDouble v = .ok x → x.isFinite = true) ∧
    (v.isFiniteNumber = false →
      toDouble v = .ok Double.zero ∧ (v.isInfinite = false → toInt v = .ok 0)) :=
  ⟨fun _ => toInt_eq_error_iff, fun _ => toDouble_eq_error_iff, fun _ => isFinite_of_toDouble,
    fun h => ⟨toDouble_of_not_isFiniteNumber h, toInt_of_not_isFiniteNumber h⟩⟩

/-- An infinite number costs its row, the text of one does not. -/
theorem infinity_not_read :
    toInt (.float (.infinity false)) = .error .numberTooLarge ∧ toInt (.text "inf") = .ok 0 ∧
    toDouble (.int Double.overflow) = .error .numberTooLarge := by
  refine ⟨rfl, by decide +kernel, toDouble_eq_error_iff.mpr ⟨⟨_, rfl, ?_⟩, rfl⟩⟩
  exact Nat.le_of_eq (Int.natAbs_natCast _).symm

end Cell

end SplitTest
