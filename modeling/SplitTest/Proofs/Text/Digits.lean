import Mathlib.Algebra.GroupWithZero.Nat
import SplitTest.Number.Numeral

/-! Runs of decimal digits and the numbers that they denote.  A number that is written down, with
leading zeros or without, is such a run, and every reader of digits gives the number back. -/

namespace SplitTest

open Text

/-! ### Characters -/

def digitValue (c : Char) : Nat := c.toNat - 48

theorem isDigit_iff_toNat {c : Char} : c.isDigit = true ↔ 48 ≤ c.toNat ∧ c.toNat ≤ 57 := by
  simp [Char.isDigit, UInt32.le_iff_toNat_le]

theorem ne_of_isDigit {c d : Char} (hc : c.isDigit = true) (hd : d.isDigit = false) : c ≠ d := by
  rintro rfl
  exact Bool.false_ne_true (hd.symm.trans hc)

theorem asciiDigit?_eq (c : Char) :
    asciiDigit? c = if c.isDigit then some (digitValue c) else none := by
  have hrange : ('0' ≤ c && c ≤ '9') = c.isDigit := by
    simp only [Char.isDigit, Char.le_def, ge_iff_le]
  rw [asciiDigit?, hrange, digitValue]

/-- Among the digits of all scripts the ASCII digits come first. -/
theorem digit?_of_isDigit {c : Char} (h : c.isDigit = true) : digit? c = some (digitValue c) := by
  obtain ⟨hlow, hhigh⟩ := isDigit_iff_toNat.mp h
  have hfirst : (decide (48 ≤ c.toNat) && decide (c.toNat < 48 + 10)) = true := by
    simp
    omega
  simp [digit?, zeros, hfirst, digitValue]

theorem asciiDigit_of_isDigit {c : Char} (h : c.isDigit = true) : Numeral.asciiDigit c = c := by
  obtain ⟨hlow, hhigh⟩ := isDigit_iff_toNat.mp h
  have hlt : digitValue c < 10 := by
    unfold digitValue
    omega
  have hback : 48 + digitValue c = c.toNat := by
    unfold digitValue
    omega
  simp only [Numeral.asciiDigit, digit?_of_isDigit h, digitChar, if_pos hlt, hback,
    Char.ofNat_toNat]

/-! ### Digits of any script -/

/-- The value of a decimal digit of any script. -/
def Text.digitOf (c : Char) : Nat := (digit? c).getD 0

/-- The number that a run of digits of any script denotes. -/
def Text.numberOf (cs : List Char) : Nat := ofDigits (cs.map digitOf)

theorem Text.digit?_eq_some {c : Char} {d : Nat} :
    digit? c = some d ↔ Text.isDigit c = true ∧ digitOf c = d := by
  rw [Text.isDigit, digitOf]
  generalize digit? c = found
  cases found <;> simp

theorem Text.mapM_digit?_eq_some {cs : List Char} {ds : List Nat} :
    cs.mapM digit? = some ds ↔ (∀ c ∈ cs, Text.isDigit c = true) ∧ cs.map digitOf = ds := by
  induction cs generalizing ds with
  | nil => simp
  | cons c cs ih =>
    simp only [List.mapM_cons, Option.bind_eq_bind, Option.bind_eq_some_iff, digit?_eq_some, ih,
      List.forall_mem_cons, List.map_cons]
    constructor
    · rintro ⟨_, ⟨hc, rfl⟩, _, ⟨hcs, rfl⟩, hds⟩
      exact ⟨⟨hc, hcs⟩, Option.some.inj hds⟩
    · rintro ⟨⟨hc, hcs⟩, rfl⟩
      exact ⟨_, ⟨hc, rfl⟩, _, ⟨hcs, rfl⟩, rfl⟩

/-- A run of ASCII digits that denotes `n`. -/
structure Digits (cs : List Char) (n : Nat) : Prop where
  ne_nil : cs ≠ []
  isDigit : ∀ c ∈ cs, c.isDigit = true
  value : Nat.ofDigitChars 10 cs 0 = n

theorem Digits.eq_cons {cs : List Char} {n : Nat} (h : Digits cs n) :
    ∃ d ds, cs = d :: ds ∧ d.isDigit = true ∧ ∀ c ∈ ds, c.isDigit = true := by
  obtain ⟨d, ds, rfl⟩ := List.exists_cons_of_ne_nil h.ne_nil
  exact ⟨d, ds, rfl, List.forall_mem_cons.mp h.isDigit⟩

/-! ### Written numbers -/

theorem Text.toList_zeroPad (w n : Nat) :
    (zeroPad w n).toList = List.replicate (w - (natText n).length) '0' ++ (natText n).toList := by
  rw [zeroPad, padLeft, String.toList_append, String.toList_ofList]

theorem Text.length_natText_le {n k : Nat} (hk : 0 < k) (h : n < 10 ^ k) :
    (natText n).length ≤ k := by
  rw [natText, Nat.toString_eq_repr]
  exact (Nat.length_repr_le_iff hk).mpr h

/-- A number below `10 ^ w` is written with `w` digits. -/
theorem Text.length_zeroPad {w n : Nat} (hw : 0 < w) (h : n < 10 ^ w) :
    (zeroPad w n).toList.length = w := by
  have hle := length_natText_le hw h
  rw [toList_zeroPad, List.length_append, List.length_replicate, String.length_toList]
  omega

namespace Digits

theorem natText (n : Nat) : Digits (Text.natText n).toList n := by
  have htext : (Text.natText n).toList = Nat.toDigits 10 n := by
    rw [Text.natText, Nat.toString_eq_repr, Nat.toList_repr]
  refine ⟨htext ▸ Nat.toDigits_ne_nil, fun c hc => ?_, ?_⟩
  · exact Nat.isDigit_of_mem_toDigits (by decide) (by decide) (htext ▸ hc)
  · rw [htext, Nat.ofDigitChars_ten_toDigits]

/-- Zeros in front change nothing. -/
theorem zeros_append {cs : List Char} {n : Nat} (h : Digits cs n) (k : Nat) :
    Digits (List.replicate k '0' ++ cs) n := by
  refine ⟨List.append_ne_nil_of_right_ne_nil _ h.ne_nil, fun c hc => ?_, ?_⟩
  · rcases List.mem_append.mp hc with hzero | hc
    · rw [List.eq_of_mem_replicate hzero]
      rfl
    · exact h.isDigit c hc
  · rw [Nat.ofDigitChars_append, Nat.ofDigitChars_replicate_zero, Nat.mul_zero, h.value]

theorem append_zeros {cs : List Char} {n : Nat} (h : Digits cs n) (k : Nat) :
    Digits (cs ++ List.replicate k '0') (n * 10 ^ k) := by
  refine ⟨List.append_ne_nil_of_left_ne_nil h.ne_nil _, fun c hc => ?_, ?_⟩
  · rcases List.mem_append.mp hc with hc | hzero
    · exact h.isDigit c hc
    · rw [List.eq_of_mem_replicate hzero]
      rfl
  · rw [Nat.ofDigitChars_append, Nat.ofDigitChars_replicate_zero, h.value, Nat.mul_comm]

theorem zeroPad (w n : Nat) : Digits (Text.zeroPad w n).toList n := by
  rw [toList_zeroPad]
  exact (natText n).zeros_append _

/-! ### Digits read back -/

variable {cs : List Char} {n : Nat}

theorem ofDigits_map (h : Digits cs n) : ofDigits (cs.map digitValue) = n := by
  rw [← h.value, Nat.ofDigitChars_eq_foldl, ofDigits, List.foldl_map]
  rfl

theorem mapM_digit? (h : Digits cs n) : (cs.mapM digit?).map ofDigits = some n := by
  have hall : cs.mapM digit? = some (cs.map digitValue) := by
    have hdigit := h.isDigit
    clear h
    induction cs with
    | nil => rfl
    | cons c cs ih =>
      obtain ⟨hc, hcs⟩ := List.forall_mem_cons.mp hdigit
      simp [List.mapM_cons, digit?_of_isDigit hc, ih hcs]
  rw [hall, Option.map_some, h.ofDigits_map]

theorem map_asciiDigit (h : Digits cs n) : cs.map Numeral.asciiDigit = cs :=
  (List.map_congr_left fun c hc => asciiDigit_of_isDigit (h.isDigit c hc)).trans (List.map_id cs)

end Digits

/-- A run of digits ends where no digit follows. -/
theorem splitDigits_append {ds rest : List Char} (hds : ∀ c ∈ ds, c.isDigit = true)
    (hrest : ∀ c ∈ rest.head?, c.isDigit = false) :
    Numeral.splitDigits (ds ++ rest) = (ds.map digitValue, rest) := by
  induction ds with
  | nil =>
    cases rest with
    | nil => rfl
    | cons c rest =>
      have hc : c.isDigit = false := hrest c rfl
      simp [Numeral.splitDigits, asciiDigit?_eq, hc]
  | cons d ds ih =>
    obtain ⟨hd, hds⟩ := List.forall_mem_cons.mp hds
    simp [Numeral.splitDigits, asciiDigit?_eq, hd, ih hds]

theorem splitDigits_of_forall {cs : List Char} (hcs : ∀ c ∈ cs, c.isDigit = true) :
    Numeral.splitDigits cs = (cs.map digitValue, []) := by
  simpa using @splitDigits_append cs [] hcs (by simp)

theorem Numeral.splitSign_cons {c : Char} (hc : c.isDigit = true) (cs : List Char) :
    splitSign (c :: cs) = (false, c :: cs) := by
  have hminus : c ≠ '-' := ne_of_isDigit hc rfl
  have hplus : c ≠ '+' := ne_of_isDigit hc rfl
  simp [splitSign, hminus, hplus]

/-! ### Whole numbers with a sign -/

/-- A sign and a run of digits make a whole number unless there are too many digits. -/
theorem Numeral.int?_of_splitDigits {cs rest : List Char} {negative : Bool} {ds : List Nat}
    (hsign : splitSign cs = (negative, rest)) (hsplit : splitDigits rest = (ds, []))
    (hne : ds ≠ []) : int? cs =
      if ds.length ≤ digitLimit then some (if negative then -(ofDigits ds : Int) else ofDigits ds)
      else none := by
  obtain ⟨d, rest, rfl⟩ := List.exists_cons_of_ne_nil hne
  unfold int?
  simp only [hsign, hsplit]

theorem toList_toString_int (k : Int) :
    (toString k).toList = (if k < 0 then ['-'] else []) ++ (natText k.natAbs).toList := by
  rw [Int.toString_eq_repr, Int.repr_eq_if]
  by_cases hneg : k < 0
  · rw [if_neg (by omega), if_pos hneg, String.toList_append, show (-k).toNat = k.natAbs by omega]
    rfl
  · rw [if_pos (by omega), if_neg hneg, show k.toNat = k.natAbs by omega]
    rfl

/-- The characters of the text of a whole number. -/
def IsIntChar (c : Char) : Prop := c.isDigit = true ∨ c = '-'

theorem isIntChar_of_mem {k : Int} {c : Char} (hc : c ∈ (toString k).toList) : IsIntChar c := by
  rw [toList_toString_int] at hc
  rcases List.mem_append.mp hc with hsign | hdigit
  · split at hsign
    · exact .inr (List.mem_singleton.mp hsign)
    · simp at hsign
  · exact .inl ((Digits.natText k.natAbs).isDigit c hdigit)

end SplitTest
