import Mathlib.Data.List.Basic
import Mathlib.Data.List.TakeWhile
import SplitTest.Proofs.Number.Nearest

/-! Floating point numbers read back from their texts.  A text without a sign is taken apart into
the digits before the point, those after it and the exponent; `NumberParts.Denotes` says which
decimal these stand for.  However the digits of a value are laid out, with zeros before or behind
them or with an exponent, they stand for a decimal that the value is nearest to. -/

namespace SplitTest

open Text

/-! ### Parts of a number text -/

/-- The parts of a number text without a sign. -/
structure NumberParts where
  whole : List Char
  fraction : List Char
  /-- The sign and the digits of the exponent; nothing where there is none. -/
  exponent : List Char

namespace NumberParts

/-- The characters of the exponent. -/
def exponentChars (p : NumberParts) : List Char :=
  if p.exponent = [] then [] else 'e' :: p.exponent

def fractionChars (p : NumberParts) : List Char :=
  if p.fraction = [] then [] else '.' :: p.fraction

def chars (p : NumberParts) : List Char :=
  p.whole ++ p.fractionChars ++ p.exponentChars

/-- An exponent: a sign and digits. -/
inductive IsExponent : List Char → Int → Prop
  | plus {ds : List Char} {k : Nat} (h : Digits ds k) : IsExponent ('+' :: ds) k
  | minus {ds : List Char} {k : Nat} (h : Digits ds k) : IsExponent ('-' :: ds) (-k)

/-- The parts stand for `n * 10 ^ e`. -/
structure Denotes (p : NumberParts) (n : Nat) (e : Int) : Prop where
  digits : Digits (p.whole ++ p.fraction) n
  /-- Only a zero by itself has a zero in front. -/
  leading : p.whole = ['0'] ∨ ∃ d ds, p.whole = d :: ds ∧ d ≠ '0'
  exponent : (p.exponent = [] ∧ e = -p.fraction.length) ∨
    ∃ x, IsExponent p.exponent x ∧ e = x - p.fraction.length

theorem IsExponent.ne_nil {cs : List Char} {x : Int} (h : IsExponent cs x) : cs ≠ [] := by
  cases h <;> simp

theorem IsExponent.exponent?_eq {cs : List Char} {x : Int} (h : IsExponent cs x) :
    Numeral.exponent? ('e' :: cs) = some x := by
  cases h with
  | @plus ds k h | @minus ds k h =>
    obtain ⟨d, rest, hds, -⟩ := h.eq_cons
    have hrun := splitDigits_of_forall h.isDigit
    have hvalue := h.ofDigits_map
    rw [hds, List.map_cons] at hrun hvalue
    simp [Numeral.exponent?, Numeral.splitSign, hds, hrun, hvalue]

end NumberParts

namespace NumberParts

variable {p : NumberParts} {n : Nat} {e : Int}

theorem Denotes.whole_ne_nil (h : p.Denotes n e) : p.whole ≠ [] := by
  rcases h.leading with hzero | ⟨d, ds, hwhole, -⟩
  · simp [hzero]
  · simp [hwhole]

theorem Denotes.whole_isDigit (h : p.Denotes n e) : ∀ c ∈ p.whole, c.isDigit = true :=
  fun c hc => h.digits.isDigit c (List.mem_append_left _ hc)

theorem Denotes.fraction_isDigit (h : p.Denotes n e) : ∀ c ∈ p.fraction, c.isDigit = true :=
  fun c hc => h.digits.isDigit c (List.mem_append_right _ hc)

theorem head?_exponentChars (p : NumberParts) :
    ∀ c ∈ p.exponentChars.head?, c = 'e' := by
  intro c hc
  unfold exponentChars at hc
  split at hc
  · simp at hc
  · simpa using hc.symm

theorem Denotes.exponent?_eq (h : p.Denotes n e) :
    Numeral.exponent? p.exponentChars = some (e + p.fraction.length) := by
  unfold exponentChars
  rcases h.exponent with ⟨hnil, rfl⟩ | ⟨x, hx, rfl⟩
  · simp [hnil, Numeral.exponent?]
  · rw [if_neg hx.ne_nil, hx.exponent?_eq]
    simp

theorem Denotes.exists_head (h : p.Denotes n e) :
    ∃ d rest, p.chars = d :: rest ∧ d.isDigit = true := by
  obtain ⟨d, ds, hwhole⟩ := List.exists_cons_of_ne_nil h.whole_ne_nil
  refine ⟨d, _, by rw [chars, hwhole]; rfl, h.whole_isDigit d ?_⟩
  rw [hwhole]
  exact List.mem_cons_self

/-- The parts are read as the decimal they stand for. -/
theorem Denotes.decimal?_eq (h : p.Denotes n e) : Numeral.decimal? p.chars = some (n, e) := by
  have hvalue := h.digits.ofDigits_map
  rw [List.map_append] at hvalue
  have hdigit : ∀ c ∈ p.exponentChars.head?, c.isDigit = false := by
    intro c hc
    rw [p.head?_exponentChars c hc]
    rfl
  have hwhole : (p.whole.map digitValue).isEmpty = false := by
    simp [h.whole_ne_nil]
  by_cases hfraction : p.fraction = []
  · have hchars : p.chars = p.whole ++ p.exponentChars := by
      simp [chars, fractionChars, hfraction]
    have htail := p.head?_exponentChars
    have hexponent := h.exponent?_eq
    have hsplit := splitDigits_append h.whole_isDigit hdigit
    rw [hchars]
    generalize p.exponentChars = tail at htail hexponent hsplit
    cases tail with
    | nil => simp_all [Numeral.decimal?]
    | cons c rest =>
      obtain rfl : c = 'e' := htail c rfl
      simp_all [Numeral.decimal?]
  · have hchars : p.chars = p.whole ++ '.' :: (p.fraction ++ p.exponentChars) := by
      simp [chars, fractionChars, hfraction]
    have hpoint : ∀ c ∈ ('.' :: (p.fraction ++ p.exponentChars)).head?, c.isDigit = false := by
      intro c hc
      obtain rfl : '.' = c := by simpa using hc
      rfl
    simp [Numeral.decimal?, hchars, splitDigits_append h.whole_isDigit hpoint,
      splitDigits_append h.fraction_isDigit hdigit, hwhole, h.exponent?_eq, hvalue]

end NumberParts

/-! ### Significant digits -/

theorem Text.head?_natText {n : Nat} (hn : 0 < n) : (natText n).toList.head? ≠ some '0' := by
  rw [natText, Nat.toString_eq_repr, Nat.toList_repr]
  induction n using Nat.strongRecOn with
  | ind n ih =>
    by_cases hsmall : n < 10
    · rw [Nat.toDigits_of_lt_base hsmall]
      have hdigits : ∀ d < 10, 0 < d → [Nat.digitChar d].head? ≠ some '0' := by decide
      exact hdigits n hsmall hn
    · rw [Nat.toDigits_of_base_le (by decide) (by omega),
        List.head?_append_of_ne_nil _ Nat.toDigits_ne_nil]
      exact ih (n / 10) (by omega) (by omega)

/-- The digits of a positive number are those without the zeros at the end, and the zeros. -/
theorem Double.exists_dropTrailingZeros {n : Nat} (hn : 0 < n) :
    ∃ m j d ds, (dropTrailingZeros (natText n)).toList = d :: ds ∧ Digits (d :: ds) m ∧ d ≠ '0' ∧
      n = m * 10 ^ j ∧ (natText n).length = (d :: ds).length + j := by
  have hdigits := Digits.natText n
  have hhead := head?_natText hn
  rw [dropTrailingZeros, ← String.length_toList, String.toList_ofList]
  generalize (natText n).toList = cs at hdigits hhead
  have hzeros : (cs.reverse.takeWhile (· == '0')).reverse =
      List.replicate (cs.reverse.takeWhile (· == '0')).length '0' := by
    rw [List.eq_replicate_iff, List.length_reverse]
    refine ⟨rfl, fun c hc => ?_⟩
    simpa using List.mem_takeWhile_imp (List.mem_reverse.mp hc)
  have hcs : cs = (cs.reverse.dropWhile (· == '0')).reverse ++
      List.replicate (cs.reverse.takeWhile (· == '0')).length '0' := by
    rw [← hzeros, ← List.reverse_append, List.takeWhile_append_dropWhile, List.reverse_reverse]
  generalize (cs.reverse.dropWhile (· == '0')).reverse = significant at hcs
  generalize (cs.reverse.takeWhile (· == '0')).length = j at hcs
  subst hcs
  have hvalue := hdigits.value
  rw [Nat.ofDigitChars_append, Nat.ofDigitChars_replicate_zero] at hvalue
  cases significant with
  | nil =>
    simp at hvalue
    omega
  | cons d ds =>
    refine ⟨Nat.ofDigitChars 10 (d :: ds) 0, j, d, ds, rfl, ⟨by simp, fun c hc => ?_, rfl⟩, ?_, ?_,
      by simp; omega⟩
    · exact hdigits.isDigit c (List.mem_append_left _ hc)
    · intro hzero
      exact hhead (by rw [hzero]; rfl)
    · rw [← hvalue, Nat.mul_comm]

namespace NumberParts

/-- The exponent of a text, with its sign. -/
theorem isExponent_text (x : Int) :
    IsExponent ((if x < 0 then '-' else '+') :: (zeroPad 2 x.natAbs).toList) x := by
  by_cases hneg : x < 0
  · have hexponent := IsExponent.minus (Digits.zeroPad 2 x.natAbs)
    rw [show -(x.natAbs : Int) = x by omega] at hexponent
    simpa [hneg] using hexponent
  · have hexponent := IsExponent.plus (Digits.zeroPad 2 x.natAbs)
    rw [show (x.natAbs : Int) = x by omega] at hexponent
    simpa [hneg] using hexponent

/-- A text that spells the decimal `m * 10 ^ e` with a point or an exponent. -/
def Spells (cs : List Char) (m : Nat) (e : Int) : Prop :=
  ∃ p n x, cs = p.chars ∧ Denotes p n x ∧ (p.fraction ≠ [] ∨ p.exponent ≠ []) ∧
    ∀ negative, Double.ofDecimal negative n x = Double.ofDecimal negative m e

variable {m : Nat} {d : Char} {ds : List Char} (h : Digits (d :: ds) m) (hd : d ≠ '0')
include h hd

theorem spells_positional (s : String) (hs : s.toList = d :: ds) (place : Int) :
    Spells (Double.positional s place).toList m (place - (d :: ds).length) := by
  have hlength : s.length = (d :: ds).length := by rw [← String.length_toList, hs]
  unfold Double.positional
  rw [hlength]
  split
  -- All digits stand after the point, behind zeros.
  · have hdigits := h.zeros_append ((-place).toNat + 1)
    refine ⟨⟨['0'], List.replicate (-place).toNat '0' ++ d :: ds, []⟩, m, _, ?_,
      ⟨by simpa [List.replicate_succ] using hdigits, .inl rfl, .inl ⟨rfl, ?_⟩⟩, .inl (by simp),
      fun _ => rfl⟩
    · simp [chars, fractionChars, exponentChars, Double.zeroText, hs]
    · simp
      omega
  · split
    -- All digits stand before the point, with zeros behind them.
    · have hdigits := h.append_zeros (place.toNat - (d :: ds).length + 1)
      rw [List.replicate_succ', ← List.append_assoc] at hdigits
      refine ⟨⟨d :: ds ++ List.replicate (place.toNat - (d :: ds).length) '0', ['0'], []⟩, _, -1,
        ?_, ⟨hdigits, .inr ⟨d, _, rfl, hd⟩, .inl ⟨rfl, rfl⟩⟩, .inl (by simp), fun negative => ?_⟩
      · simp [chars, fractionChars, exponentChars, Double.zeroText, hs]
      · rw [Double.ofDecimal_mul_pow]
        congr 1
        omega
    -- The point stands between the digits.
    · rename_i hpositive hinside
      obtain ⟨k, hk⟩ : ∃ k, place.toNat = k + 1 := ⟨place.toNat - 1, by omega⟩
      rw [hk, List.length_cons] at hinside
      have hfraction : ds.drop k ≠ [] := by
        rw [Ne, List.drop_eq_nil_iff]
        omega
      refine ⟨⟨d :: ds.take k, ds.drop k, []⟩, m, _, ?_,
        ⟨by simpa using h, .inr ⟨d, _, rfl, hd⟩, .inl ⟨rfl, ?_⟩⟩, .inl hfraction, fun _ => rfl⟩
      · simp [chars, fractionChars, exponentChars, hs, hk, hfraction]
      · rw [List.length_drop, List.length_cons]
        omega

theorem spells_scientific (s : String) (hs : s.toList = d :: ds) (x : Int) :
    Spells (Double.scientific s x).toList m (x - ds.length) := by
  have hexponent := isExponent_text x
  refine ⟨⟨[d], ds, _⟩, m, _, ?_, ⟨h, .inr ⟨d, _, rfl, hd⟩, .inr ⟨x, hexponent, rfl⟩⟩,
    .inr hexponent.ne_nil, fun _ => rfl⟩
  have hmark : ((if x < 0 then "e-" else "e+") ++ zeroPad 2 x.natAbs).toList =
      'e' :: (if x < 0 then '-' else '+') :: (zeroPad 2 x.natAbs).toList := by
    split <;> simp
  unfold Double.scientific
  rw [hs, String.append_assoc, String.toList_append, hmark]
  cases ds with
  | nil => simp [chars, fractionChars, exponentChars]
  | cons c ds => simp [chars, fractionChars, exponentChars]

end NumberParts

/-! ### Texts of values -/

namespace Double

/-- The text of a finite value without its sign spells a decimal that the value is nearest to. -/
theorem exists_spells_magnitudeText (k : Fin places) :
    ∃ m e, NumberParts.Spells (magnitudeText k).toList m e ∧
      ∀ negative, ofDecimal negative m e = finite negative k := by
  unfold magnitudeText
  split
  · rename_i hzero
    obtain rfl : k = ⟨0, places_pos⟩ := Fin.ext hzero
    refine ⟨0, -1, ⟨⟨['0'], ['0'], []⟩, 0, -1, rfl, ⟨⟨by simp, by simp, rfl⟩, .inl rfl,
      .inl ⟨rfl, rfl⟩⟩, .inl (by simp), fun _ => rfl⟩, fun negative => ofDecimal_zero negative (-1)⟩
  · rename_i hne
    have hk : 0 < k.val := Nat.pos_of_ne_zero hne
    have hread (negative : Bool) := ofDecimal_shortestDigits hk negative
    have hpos := shortestDigits_pos hk
    generalize shortestDigits k = shortest at hread hpos
    obtain ⟨n, e⟩ := shortest
    obtain ⟨m, j, d, ds, hs, hdigits, hd, rfl, hlength⟩ := exists_dropTrailingZeros hpos
    refine ⟨m, e + j, ?_, fun negative => by rw [← ofDecimal_mul_pow, hread]⟩
    simp only
    rw [hlength]
    split
    · have hspells := NumberParts.spells_positional hdigits hd _ hs
        (((d :: ds).length + j : Nat) + e - 1 + 1)
      rwa [show (((d :: ds).length + j : Nat) : Int) + e - 1 + 1 - (d :: ds).length = e + j by
        push_cast; ring] at hspells
    · have hspells := NumberParts.spells_scientific hdigits hd _ hs
        (((d :: ds).length + j : Nat) + e - 1)
      rwa [show (((d :: ds).length + j : Nat) : Int) + e - 1 - ds.length = e + j by
        simp; ring] at hspells

theorem toLower_of_isDigit {c : Char} (h : c.isDigit = true) : c.toLower = c := by
  obtain ⟨hlow, hhigh⟩ := isDigit_iff_toNat.mp h
  have hcapital : ¬(c.val ≥ 'A'.val ∧ c.val ≤ 'Z'.val) := by
    rintro ⟨hcapital, -⟩
    have hbound : 65 ≤ c.toNat := UInt32.le_iff_toNat_le.mp hcapital
    omega
  exact dif_neg hcapital

/-- A numeral that begins with a digit or a point is no name. -/
theorem ofNumeral?_of_decimal {cs rest tail : List Char} {negative : Bool} {c : Char} {n : Nat}
    {e : Int} (hsign : Numeral.splitSign cs = (negative, rest)) (hrest : rest = c :: tail)
    (hc : c.isDigit = true ∨ c = '.') (hdecimal : Numeral.decimal? rest = some (n, e)) :
    ofNumeral? cs = some (ofDecimal negative n e) := by
  have hlower : c.toLower = c := by
    rcases hc with hc | rfl
    · exact toLower_of_isDigit hc
    · decide
  have hletter (name : String)
      (hname : name.toList.head?.all (fun d => d == 'i' || d == 'n') = true) :
      String.ofList (rest.map Char.toLower) ≠ name := by
    rintro rfl
    rw [String.toList_ofList, hrest, List.map_cons, hlower] at hname
    have hfirst : (c == 'i' || c == 'n') = true := hname
    rcases hc with hc | rfl
    · have hi : c ≠ 'i' := ne_of_isDigit hc rfl
      have hn : c ≠ 'n' := ne_of_isDigit hc rfl
      simp [hi, hn] at hfirst
    · exact absurd hfirst (by decide)
  simp [ofNumeral?, hsign, hdecimal, hletter "inf" rfl, hletter "infinity" rfl, hletter "nan" rfl]

theorem ofNumeral?_of_denotes {p : NumberParts} {n : Nat} {e : Int} (h : p.Denotes n e)
    (negative : Bool) :
    ofNumeral? ((if negative then ['-'] else []) ++ p.chars) = some (ofDecimal negative n e) := by
  obtain ⟨d, rest, hchars, hd⟩ := h.exists_head
  have hsign : Numeral.splitSign ((if negative then ['-'] else []) ++ p.chars) =
      (negative, p.chars) := by
    cases negative with
    | true => rfl
    | false =>
      rw [if_neg Bool.false_ne_true, List.nil_append, hchars]
      exact Numeral.splitSign_cons hd rest
  exact ofNumeral?_of_decimal hsign hchars (.inl hd) h.decimal?_eq

end Double

end SplitTest
