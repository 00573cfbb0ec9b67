import SplitTest.Proofs.Json.Text
import SplitTest.Proofs.Number.Printed

/-! Numbers in JSON.  The characters of a number are split off where nothing follows that a number
could go on with, and whole numbers and numbers with a point or an exponent are read as what was
written. -/

namespace SplitTest.Value

open Text

/-- No number goes on with the text. -/
def EndsNumber (rest : List Char) : Prop :=
  ∀ c ∈ rest.head?, c.isDigit = false ∧ c ≠ '.' ∧ c ≠ 'e' ∧ c ≠ 'E'

theorem isNumberDigit_eq (c : Char) : isNumberDigit c = c.isDigit := by
  rw [isNumberDigit, asciiDigit?_eq]
  split <;> simp_all

theorem splitRun_append {ds rest : List Char} (hds : ∀ c ∈ ds, c.isDigit = true)
    (hrest : ∀ c ∈ rest.head?, c.isDigit = false) : splitRun (ds ++ rest) = (ds, rest) := by
  have hdigit : ∀ c ∈ ds, isNumberDigit c = true := by
    intro c hc
    rw [isNumberDigit_eq, hds c hc]
  rw [splitRun, List.takeWhile_append_of_pos hdigit, List.dropWhile_append_of_pos hdigit]
  cases rest with
  | nil => simp
  | cons c rest =>
    have hc : isNumberDigit c = false := by rw [isNumberDigit_eq, hrest c rfl]
    simp [hc]

def signChars (negative : Bool) : List Char := if negative then ['-'] else []

theorem splitMinus_append (negative : Bool) {cs : List Char} (h : cs.head? ≠ some '-') :
    splitMinus (signChars negative ++ cs) = (signChars negative, cs) := by
  cases negative with
  | true => rfl
  | false =>
    cases cs with
    | nil => rfl
    | cons c cs =>
      have hc : c ≠ '-' := fun heq => h (heq ▸ rfl)
      simp [splitMinus, signChars, hc]

end SplitTest.Value
namespace SplitTest.NumberParts

open Value

variable {p : NumberParts} {n : Nat} {e : Int}

theorem splitWhole_append (h : p.Denotes n e) {rest : List Char}
    (hrest : ∀ c ∈ rest.head?, c.isDigit = false) :
    splitWhole (p.whole ++ rest) = (p.whole, rest) := by
  rcases h.leading with hzero | ⟨d, ds, hwhole, hd⟩
  · rw [hzero]
    rfl
  · have hrun := splitRun_append h.whole_isDigit hrest
    rw [hwhole] at hrun ⊢
    simpa [splitWhole, hd] using hrun

theorem splitFraction_append (h : p.Denotes n e) {rest : List Char}
    (hrest : ∀ c ∈ rest.head?, c.isDigit = false ∧ c ≠ '.') :
    splitFraction (p.fractionChars ++ rest) = (p.fractionChars, rest) := by
  unfold fractionChars
  split
  · cases rest with
    | nil => rfl
    | cons c rest =>
      have hc := (hrest c rfl).2
      simp [splitFraction, hc]
  · have hrun := splitRun_append h.fraction_isDigit fun c hc => (hrest c hc).1
    obtain ⟨d, ds, hfraction⟩ := List.exists_cons_of_ne_nil ‹p.fraction ≠ []›
    rw [hfraction] at hrun ⊢
    simp only [List.cons_append] at hrun ⊢
    simp [splitFraction, hrun]

theorem splitExponent_append (h : p.Denotes n e) {rest : List Char} (hrest : EndsNumber rest) :
    splitExponent (p.exponentChars ++ rest) = (p.exponentChars, rest) := by
  unfold exponentChars
  rcases h.exponent with ⟨hnil, -⟩ | ⟨x, hx, -⟩
  · rw [if_pos hnil]
    cases rest with
    | nil => rfl
    | cons c rest =>
      obtain ⟨-, -, he, hE⟩ := hrest c rfl
      simp [splitExponent, he, hE]
  · rw [if_neg hx.ne_nil]
    have hends : ∀ c ∈ rest.head?, c.isDigit = false := fun c hc => (hrest c hc).1
    generalize p.exponent = cs at hx
    cases hx with
    | @plus ds k hds | @minus ds k hds =>
      have hrun := splitRun_append hds.isDigit hends
      obtain ⟨d, ds', rfl, -⟩ := hds.eq_cons
      simp only [List.cons_append] at hrun ⊢
      simp [splitExponent, splitExponentSign, hrun]

theorem head?_exponentChars_append (p : NumberParts) {rest : List Char} (hrest : EndsNumber rest) :
    ∀ c ∈ (p.exponentChars ++ rest).head?, c.isDigit = false ∧ c ≠ '.' := by
  intro c hc
  rw [List.head?_append, Option.mem_def, Option.or_eq_some_iff] at hc
  rcases hc with hc | ⟨-, hc⟩
  · rw [p.head?_exponentChars c hc]
    decide
  · exact ⟨(hrest c hc).1, (hrest c hc).2.1⟩

theorem head?_fractionChars_append (p : NumberParts) {rest : List Char}
    (hrest : ∀ c ∈ rest.head?, c.isDigit = false) :
    ∀ c ∈ (p.fractionChars ++ rest).head?, c.isDigit = false := by
  unfold fractionChars
  split
  · exact hrest
  · intro c hc
    obtain rfl : '.' = c := by simpa using hc
    rfl

/-- The characters of a number are split off. -/
theorem splitNumber_append (h : p.Denotes n e) (negative : Bool) {rest : List Char}
    (hrest : EndsNumber rest) :
    splitNumber (signChars negative ++ (p.chars ++ rest)) =
      (signChars negative ++ p.chars, rest) := by
  have hexponent := p.head?_exponentChars_append hrest
  have hfraction := p.head?_fractionChars_append fun c hc => (hexponent c hc).1
  have hminus : (p.chars ++ rest).head? ≠ some '-' := by
    obtain ⟨d, ds, hchars, hd⟩ := h.exists_head
    rw [hchars]
    rintro ⟨⟩
    contradiction
  have hwhole : p.whole.isEmpty = false := by simp [h.whole_ne_nil]
  rw [splitNumber, splitMinus_append negative hminus]
  simp only [chars, List.append_assoc, splitWhole_append h hfraction,
    splitFraction_append h hexponent, splitExponent_append h hrest, hwhole]
  rfl

end SplitTest.NumberParts

namespace SplitTest.Value

open Text

variable {p : NumberParts} {n : Nat} {e : Int}

/-- A number with a point or an exponent is read as a floating point number. -/
theorem ofNumberChars_float (h : p.Denotes n e) (hshape : p.fraction ≠ [] ∨ p.exponent ≠ [])
    (negative : Bool) :
    ofNumberChars (signChars negative ++ p.chars) =
      some (float (Double.ofDecimal negative n e)) := by
  have hmark : (signChars negative ++ p.chars).any
      (fun c => c == '.' || c == 'e' || c == 'E') = true := by
    simp only [NumberParts.chars, NumberParts.fractionChars, NumberParts.exponentChars]
    rcases hshape with hshape | hshape <;> simp [hshape]
  rw [ofNumberChars, if_pos hmark, signChars, Double.ofNumeral?_of_denotes h]
  rfl

/-- The digits of a whole number as a number without a point or an exponent. -/
def wholeParts (n : Nat) : NumberParts := ⟨(natText n).toList, [], []⟩

theorem denotes_wholeParts (n : Nat) : (wholeParts n).Denotes n 0 := by
  refine ⟨by simpa [wholeParts] using Digits.natText n, ?_, .inl ⟨rfl, rfl⟩⟩
  rcases Nat.eq_zero_or_pos n with rfl | hn
  · exact .inl rfl
  · have hhead := head?_natText hn
    obtain ⟨d, ds, hchars, -⟩ := (Digits.natText n).eq_cons
    refine .inr ⟨d, ds, hchars, fun hzero => ?_⟩
    rw [hchars, hzero] at hhead
    exact hhead rfl

theorem toList_toString_eq (k : Int) :
    (toString k).toList = signChars (k < 0) ++ (wholeParts k.natAbs).chars := by
  rw [toList_toString_int]
  simp [signChars, wholeParts, NumberParts.chars, NumberParts.fractionChars,
    NumberParts.exponentChars]

/-- The text of a whole number is read as the number. -/
theorem ofNumberChars_int (k : Int) : ofNumberChars (toString k).toList = some (int k) := by
  have hmark : (toString k).toList.any (fun c => c == '.' || c == 'e' || c == 'E') = false := by
    rw [List.any_eq_false]
    intro c hc
    rcases isIntChar_of_mem hc with hdigit | rfl
    · have hpoint : c ≠ '.' := ne_of_isDigit hdigit rfl
      have he : c ≠ 'e' := ne_of_isDigit hdigit rfl
      have hE : c ≠ 'E' := ne_of_isDigit hdigit rfl
      simp [hpoint, he, hE]
    · decide
  have hdigits := Digits.natText k.natAbs
  have hsign : Numeral.splitSign (toString k).toList =
      (decide (k < 0), (natText k.natAbs).toList) := by
    rw [toList_toString_int]
    obtain ⟨d, ds, hchars, hd, -⟩ := hdigits.eq_cons
    by_cases hneg : k < 0
    · simp [hneg, Numeral.splitSign]
    · simp [hneg, hchars, Numeral.splitSign_cons hd]
  have hsize : (if k < 0 then -(k.natAbs : Int) else k.natAbs) = k := by
    split <;> omega
  rw [ofNumberChars, hmark, if_neg Bool.false_ne_true, hsign]
  simp only [splitDigits_of_forall hdigits.isDigit, hdigits.ofDigits_map, decide_eq_true_eq, hsize]

/-! ### ASCII -/

theorem isAscii_of_isDigit {cs : List Char} (h : ∀ c ∈ cs, c.isDigit = true) : IsAscii cs := by
  intro c hc
  obtain ⟨-, hhigh⟩ := isDigit_iff_toNat.mp (h c hc)
  omega

theorem isAscii_of_denotes (h : p.Denotes n e) : IsAscii p.chars := by
  have hexponent : IsAscii p.exponent := by
    rcases h.exponent with ⟨hnil, -⟩ | ⟨x, hx, -⟩
    · rw [hnil]
      exact List.forall_mem_nil _
    · generalize p.exponent = cs at hx
      cases hx with
      | plus hds | minus hds =>
        exact isAscii_cons.mpr ⟨by decide, isAscii_of_isDigit hds.isDigit⟩
  have hfraction := isAscii_of_isDigit h.fraction_isDigit
  simp only [NumberParts.chars, NumberParts.fractionChars, NumberParts.exponentChars,
    isAscii_append]
  refine ⟨⟨isAscii_of_isDigit h.whole_isDigit, ?_⟩, ?_⟩
  · split
    · exact List.forall_mem_nil _
    · exact isAscii_cons.mpr ⟨by decide, hfraction⟩
  · split
    · exact List.forall_mem_nil _
    · exact isAscii_cons.mpr ⟨by decide, hexponent⟩

theorem isAscii_signed (h : p.Denotes n e) (negative : Bool) :
    IsAscii (signChars negative ++ p.chars) := by
  rw [isAscii_append]
  refine ⟨?_, isAscii_of_denotes h⟩
  cases negative <;> decide

theorem isAscii_toString (k : Int) : IsAscii (toString k).toList := by
  rw [toList_toString_eq]
  exact isAscii_signed (denotes_wholeParts k.natAbs) _

/-- The text of a finite number is a sign and the parts of a decimal that it is nearest to. -/
theorem exists_denotes_jsonDouble (negative : Bool) (k : Fin Double.places) :
    ∃ (p : NumberParts) (n : Nat) (e : Int),
      (jsonDouble (.finite negative k)).toList = signChars negative ++ p.chars ∧
      p.Denotes n e ∧ (p.fraction ≠ [] ∨ p.exponent ≠ []) ∧
      Double.ofDecimal negative n e = .finite negative k := by
  obtain ⟨m, e, ⟨p, n, x, hchars, hdenotes, hshape, hdecimal⟩, hread⟩ :=
    Double.exists_spells_magnitudeText k
  refine ⟨p, n, x, ?_, hdenotes, hshape, by rw [hdecimal, hread]⟩
  rw [← hchars]
  cases negative <;> simp [jsonDouble, Double.text, signChars]

theorem isAscii_jsonDouble (x : Double) : IsAscii (jsonDouble x).toList := by
  cases x with
  | nan => decide
  | infinity s => cases s <;> decide
  | finite s k =>
    obtain ⟨p, n, e, htext, hdenotes, -⟩ := exists_denotes_jsonDouble s k
    rw [htext]
    exact isAscii_signed hdenotes s

end SplitTest.Value
