import Mathlib.Data.List.Basic
import SplitTest.Proofs.Text.Digits
import SplitTest.Value.Json

/-! Texts in JSON.  `Spelled c cs` lists the ways to write a character between double quotes; the
writer uses one of them, and the reader takes each for the character.  So a text is read back
whatever characters it has, and all that is written is ASCII. -/

namespace SplitTest.Value

open Text

/-- A character of ASCII that is no control. -/
def IsPlain (c : Char) : Prop := 32 ≤ c.toNat ∧ c.toNat < 127

instance (c : Char) : Decidable (IsPlain c) :=
  inferInstanceAs (Decidable (_ ∧ _))

/-- The characters that stand for a character inside a JSON text. -/
inductive Spelled : Char → List Char → Prop
  | plain {c : Char} (h : IsPlain c) (hquote : c ≠ '"') (hslash : c ≠ '\\') : Spelled c [c]
  | short {c s : Char} (h : shortEscape? s = some c) : Spelled c ['\\', s]
  | unit {c : Char} (h : c.toNat < 0x10000) :
      Spelled c ('\\' :: 'u' :: (hexText 4 c.toNat).toList)
  | pair {c : Char} {n : Nat} (h : c.toNat = 0x10000 + n) :
      Spelled c ('\\' :: 'u' :: (hexText 4 (0xd800 + n / 0x400)).toList ++
        '\\' :: 'u' :: (hexText 4 (0xdc00 + n % 0x400)).toList)

theorem toList_unitEscape (n : Nat) :
    (unitEscape n).toList = '\\' :: 'u' :: (hexText 4 n).toList := by
  rw [unitEscape, String.toList_append]
  rfl

theorem spelled_jsonChar (c : Char) : Spelled c (jsonChar c).toList := by
  unfold jsonChar
  split
  · rename_i h
    obtain rfl := eq_of_beq h
    exact .short rfl
  rename_i hquote
  split
  · rename_i h
    obtain rfl := eq_of_beq h
    exact .short rfl
  rename_i hslash
  split
  · rename_i h
    obtain rfl := eq_of_beq h
    exact .short rfl
  split
  · rename_i h
    obtain rfl := eq_of_beq h
    exact .short rfl
  split
  · rename_i h
    obtain rfl := eq_of_beq h
    exact .short rfl
  split
  · rename_i h
    obtain rfl : c = Char.ofNat 8 := by rw [← h, Char.ofNat_toNat]
    exact .short rfl
  split
  · rename_i h
    obtain rfl : c = Char.ofNat 12 := by rw [← h, Char.ofNat_toNat]
    exact .short rfl
  split
  · rename_i hplain
    have h : 32 ≤ c.toNat ∧ c.toNat < 127 := by simpa using hplain
    rw [String.toList_singleton]
    exact .plain h (by simpa using hquote) (by simpa using hslash)
  split
  · rename_i h
    rw [toList_unitEscape]
    exact .unit h
  · rw [String.toList_append, toList_unitEscape, toList_unitEscape]
    exact .pair (by omega)

/-! ### Units -/

theorem hexDigit?_digitChar : ∀ d < 16, hexDigit? (digitChar d) = some d := by
  decide

theorem toList_hexText_four (n : Nat) :
    (hexText 4 n).toList = [digitChar (n / 16 / 16 / 16 % 16), digitChar (n / 16 / 16 % 16),
      digitChar (n / 16 % 16), digitChar (n % 16)] := by
  simp [hexText]

/-- Four digits in base sixteen are read as the unit that they write. -/
theorem hexUnit?_hexText {n : Nat} (h : n < 0x10000) (rest : List Char) :
    hexUnit? ((hexText 4 n).toList ++ rest) = some (n, rest) := by
  have hdigit (m : Nat) : hexDigit? (digitChar (m % 16)) = some (m % 16) :=
    hexDigit?_digitChar _ (Nat.mod_lt _ (by decide))
  have hvalue : ((n / 16 / 16 / 16 % 16 * 16 + n / 16 / 16 % 16) * 16 + n / 16 % 16) * 16 +
      n % 16 = n := by
    omega
  simp [toList_hexText_four, hexUnit?, hdigit, hvalue]

/-- No character has the number of a surrogate. -/
theorem toNat_not_surrogate (c : Char) : c.toNat < 0xd800 ∨ 0xdfff < c.toNat ∧ c.toNat < 0x110000 :=
  c.valid

/-! ### Reading -/

theorem readText_spelled {c : Char} {cs : List Char} (h : Spelled c cs) (fuel : Nat)
    (acc rest : List Char) : readText (fuel + 1) acc (cs ++ rest) =
      readText fuel (c :: acc) rest := by
  cases h with
  | plain h hquote hslash =>
    obtain ⟨hlow, -⟩ := h
    simp [readText, hslash, show ¬c.toNat < 32 by omega]
  | @short s h =>
    have hunit : s ≠ 'u' := by
      rintro rfl
      contradiction
    simp [readText, h]
  | unit h =>
    rcases toNat_not_surrogate c with hlow | ⟨hhigh, -⟩
    · simp [readText, hexUnit?_hexText h, show ¬0xd800 ≤ c.toNat by omega,
        show ¬0xdc00 ≤ c.toNat by omega]
    · simp [readText, hexUnit?_hexText h, show ¬c.toNat < 0xdc00 by omega,
        show ¬c.toNat < 0xe000 by omega]
  | @pair n h =>
    have hbound : n < 0x100000 := by
      rcases toNat_not_surrogate c with hlow | ⟨-, hhigh⟩ <;> omega
    obtain ⟨high, hhigh⟩ : ∃ high, 0xd800 + n / 0x400 = high := ⟨_, rfl⟩
    obtain ⟨low, hlow⟩ : ∃ low, 0xdc00 + n % 0x400 = low := ⟨_, rfl⟩
    have hvalue : 0x10000 + (high - 0xd800) * 0x400 + (low - 0xdc00) = c.toNat := by omega
    have hfirst := @hexUnit?_hexText high (by omega)
    have hsecond := @hexUnit?_hexText low (by omega)
    rw [hhigh, hlow]
    simp [readText, hfirst, hsecond, hvalue, show 0xd800 ≤ high by omega,
      show high < 0xdc00 by omega, show 0xdc00 ≤ low by omega, show low < 0xe000 by omega]

/-- The characters of a text between its quotes. -/
def innerChars (cs : List Char) : List Char :=
  cs.flatMap fun c => (jsonChar c).toList

theorem toList_jsonText (s : String) :
    (jsonText s).toList = '"' :: (innerChars s.toList ++ ['"']) := by
  simp [jsonText, innerChars, List.flatMap_map]

theorem readText_innerChars (cs acc rest : List Char) {fuel : Nat} (h : cs.length < fuel) :
    readText fuel acc (innerChars cs ++ '"' :: rest) =
      some (String.ofList (acc.reverse ++ cs), rest) := by
  induction cs generalizing acc fuel with
  | nil =>
    obtain ⟨fuel, rfl⟩ : ∃ k, fuel = k + 1 := ⟨fuel - 1, by omega⟩
    simp [innerChars, readText]
  | cons c cs ih =>
    rw [List.length_cons] at h
    obtain ⟨fuel, rfl⟩ : ∃ k, fuel = k + 1 := ⟨fuel - 1, by omega⟩
    have hstep := readText_spelled (spelled_jsonChar c) fuel acc (innerChars cs ++ '"' :: rest)
    rw [← List.append_assoc] at hstep
    rw [innerChars, List.flatMap_cons, ← innerChars, hstep, ih (c :: acc) (by omega)]
    simp

theorem Spelled.length_pos {c : Char} {cs : List Char} (h : Spelled c cs) : 0 < cs.length := by
  cases h <;> simp

theorem length_le_innerChars (cs : List Char) : cs.length ≤ (innerChars cs).length := by
  induction cs with
  | nil => simp [innerChars]
  | cons c cs ih =>
    have hpos := (spelled_jsonChar c).length_pos
    rw [innerChars, List.flatMap_cons, ← innerChars, List.length_append, List.length_cons]
    omega

/-- A text is read back after its opening quote, up to its closing one. -/
theorem readText_jsonText (s : String) (rest : List Char) :
    readText ((innerChars s.toList ++ '"' :: rest).length + 1) []
      (innerChars s.toList ++ '"' :: rest) = some (s, rest) := by
  have hlength := length_le_innerChars s.toList
  rw [readText_innerChars s.toList [] rest (by rw [List.length_append]; omega)]
  simp

/-! ### ASCII -/

/-- Characters of ASCII. -/
def IsAscii (cs : List Char) : Prop := ∀ c ∈ cs, c.toNat < 128

instance (cs : List Char) : Decidable (IsAscii cs) :=
  List.decidableBAll (fun c : Char => c.toNat < 128) cs

theorem isAscii_append {cs ds : List Char} : IsAscii (cs ++ ds) ↔ IsAscii cs ∧ IsAscii ds :=
  List.forall_mem_append

theorem isAscii_cons {c : Char} {cs : List Char} : IsAscii (c :: cs) ↔ c.toNat < 128 ∧ IsAscii cs :=
  List.forall_mem_cons

def ArePlain (cs : List Char) : Prop := ∀ c ∈ cs, IsPlain c

instance (cs : List Char) : Decidable (ArePlain cs) :=
  List.decidableBAll IsPlain cs

theorem arePlain_append {cs ds : List Char} : ArePlain (cs ++ ds) ↔ ArePlain cs ∧ ArePlain ds :=
  List.forall_mem_append

theorem arePlain_cons {c : Char} {cs : List Char} : ArePlain (c :: cs) ↔ IsPlain c ∧ ArePlain cs :=
  List.forall_mem_cons

theorem isPlain_digitChar : ∀ d < 16, IsPlain (digitChar d) := by
  unfold IsPlain
  decide

theorem arePlain_hexText (n : Nat) : ArePlain (hexText 4 n).toList := by
  have hdigit (m : Nat) := isPlain_digitChar (m % 16) (Nat.mod_lt _ (by decide))
  simp [ArePlain, toList_hexText_four, hdigit]

/-- A character is written with plain ones, whichever it is. -/
theorem Spelled.arePlain {c : Char} {cs : List Char} (h : Spelled c cs) : ArePlain cs := by
  have hunit {n : Nat} : ArePlain ('\\' :: 'u' :: (hexText 4 n).toList) :=
    arePlain_cons.mpr ⟨by decide, arePlain_cons.mpr ⟨by decide, arePlain_hexText n⟩⟩
  cases h with
  | plain h => exact arePlain_cons.mpr ⟨h, List.forall_mem_nil _⟩
  | short h =>
    unfold shortEscape? at h
    split at h <;> first | decide | contradiction
  | unit h => exact hunit
  | pair h => exact arePlain_append.mpr ⟨hunit, hunit⟩

theorem arePlain_jsonText (s : String) : ArePlain (jsonText s).toList := by
  rw [toList_jsonText, arePlain_cons, arePlain_append]
  refine ⟨by decide, fun c hc => ?_, by decide⟩
  obtain ⟨d, -, hd⟩ := List.mem_flatMap.mp hc
  exact (spelled_jsonChar d).arePlain c hd

theorem isAscii_jsonText (s : String) : IsAscii (jsonText s).toList := fun c hc =>
  Nat.lt_trans (arePlain_jsonText s c hc).2 (by decide)

end SplitTest.Value
