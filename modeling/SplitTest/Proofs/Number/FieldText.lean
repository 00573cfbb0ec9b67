import SplitTest.Proofs.Number.Printed
import SplitTest.Proofs.Number.Rounded
import SplitTest.Proofs.Results.VariationFormats
import SplitTest.Proofs.Text.Runs

/-! Numbers in fields: digits of any script with a sign, a fraction and an exponent, each of which
may be missing, between blanks.  Such a text is read as a whole number exactly if it has neither
fraction nor exponent, and not too many digits; as a floating point number it is always read, by the
decimal that it spells. -/

namespace SplitTest

open Text

/-! ### Digits and marks -/

/-- A digit stands in the run of ten that begins with the zero of its script. -/
theorem exists_zero_of_isDigit {c : Char} (h : Text.isDigit c = true) :
    ∃ z ∈ zeros, z ≤ c.toNat ∧ c.toNat < z + 10 ∧ digit? c = some (c.toNat - z) := by
  obtain ⟨d, hd⟩ := Option.isSome_iff_exists.mp h
  obtain ⟨z, hz, rfl⟩ := Option.map_eq_some_iff.mp hd
  have hrange := List.find?_some hz
  simp only [Bool.and_eq_true, decide_eq_true_eq] at hrange
  exact ⟨z, List.mem_of_find?_eq_some hz, hrange.1, hrange.2, hd⟩

theorem asciiDigit_of_isDigit_text {c : Char} (h : Text.isDigit c = true) :
    (Numeral.asciiDigit c).isDigit = true ∧ digitValue (Numeral.asciiDigit c) = digitOf c := by
  obtain ⟨z, -, hlow, hhigh, hdigit⟩ := exists_zero_of_isDigit h
  have hchars : ∀ d < 10, (digitChar d).isDigit = true ∧ digitValue (digitChar d) = d := by decide
  rw [Numeral.asciiDigit, digitOf, hdigit]
  exact hchars _ (by omega)

/-- No digit of any script is a blank. -/
theorem isSpace_of_isDigit {c : Char} (h : Text.isDigit c = true) : isSpace c = false := by
  obtain ⟨z, hz, hlow, hhigh, -⟩ := exists_zero_of_isDigit h
  have hzeros : ∀ z ∈ zeros, 33 ≤ z ∧ z + 10 ≤ 133 ∨ 161 ≤ z ∧ z + 10 ≤ 5760 ∨
      5761 ≤ z ∧ z + 10 ≤ 8192 ∨ 12289 ≤ z := by decide
  have hz := hzeros z hz
  simp [isSpace, isBlank]
  omega

/-- The characters of a number in a field other than its digits. -/
def isNumberMark (c : Char) : Bool :=
  c == '+' || c == '-' || c == '.' || c == 'e' || c == 'E'

theorem isNumberMark_plain {c : Char} (h : isNumberMark c = true) :
    isSpace c = false ∧ Numeral.asciiDigit c = c ∧ c ≠ '_' := by
  have hmark : c = '+' ∨ c = '-' ∨ c = '.' ∨ c = 'e' ∨ c = 'E' := by
    simpa [isNumberMark, or_assoc] using h
  rcases hmark with rfl | rfl | rfl | rfl | rfl <;> decide

/-- A character of a number in a field. -/
def IsNumberChar (c : Char) : Prop := Text.isDigit c = true ∨ isNumberMark c = true

theorem IsNumberChar.isSpace_eq {c : Char} (h : IsNumberChar c) : isSpace c = false := by
  rcases h with hdigit | hmark
  · exact isSpace_of_isDigit hdigit
  · exact (isNumberMark_plain hmark).1

theorem IsNumberChar.asciiDigit_ne {c : Char} (h : IsNumberChar c) :
    Numeral.asciiDigit c ≠ '_' := by
  rcases h with hdigit | hmark
  · exact ne_of_isDigit (asciiDigit_of_isDigit_text hdigit).1 rfl
  · rw [(isNumberMark_plain hmark).2.1]
    exact (isNumberMark_plain hmark).2.2

/-- A run of digits of any script. -/
def IsRun (cs : List Char) : Prop := ∀ c ∈ cs, Text.isDigit c = true

theorem IsRun.isDigit_ascii {cs : List Char} (h : IsRun cs) :
    ∀ c ∈ cs.map Numeral.asciiDigit, c.isDigit = true :=
  List.forall_mem_map.mpr fun c hc => (asciiDigit_of_isDigit_text (h c hc)).1

theorem IsRun.map_digitValue {cs : List Char} (h : IsRun cs) :
    (cs.map Numeral.asciiDigit).map digitValue = cs.map digitOf := by
  rw [List.map_map]
  exact List.map_congr_left fun c hc => (asciiDigit_of_isDigit_text (h c hc)).2

theorem notSign_of_digits {cs : List Char} (h : ∀ c ∈ cs, c.isDigit = true) :
    ∀ c ∈ cs.head?, c ≠ '+' ∧ c ≠ '-' := fun c hc =>
  have hc := h c (List.mem_of_mem_head? hc)
  ⟨ne_of_isDigit hc rfl, ne_of_isDigit hc rfl⟩

/-! ### Numbers as they are written -/

/-- A sign as it is written. -/
inductive Sign
  | absent
  | plus
  | minus

namespace Sign

def chars : Sign → List Char
  | absent => []
  | plus => ['+']
  | minus => ['-']

/-- The sign is that of a number below zero. -/
def isMinus : Sign → Bool
  | minus => true
  | _ => false

theorem isNumberChar {s : Sign} : ∀ c ∈ s.chars, IsNumberChar c := by
  cases s with
  | absent => exact List.forall_mem_nil _
  | plus => exact List.forall_mem_singleton.mpr (.inr rfl)
  | minus => exact List.forall_mem_singleton.mpr (.inr rfl)

theorem map_asciiDigit {s : Sign} : s.chars.map Numeral.asciiDigit = s.chars := by
  cases s <;> decide

theorem splitSign_append (s : Sign) {cs : List Char} (h : ∀ c ∈ cs.head?, c ≠ '+' ∧ c ≠ '-') :
    Numeral.splitSign (s.chars ++ cs) = (s.isMinus, cs) := by
  cases s with
  | absent =>
    cases cs with
    | nil => rfl
    | cons c rest =>
      obtain ⟨hplus, hminus⟩ := h c rfl
      simp [chars, isMinus, Numeral.splitSign, hplus, hminus]
  | plus => rfl
  | minus => rfl

end Sign

structure Exponent where
  mark : Char
  sign : Sign
  digits : List Char
  isMark : mark = 'e' ∨ mark = 'E'
  ne_nil : digits ≠ []
  isRun : IsRun digits

/-- A number in a field: blanks around a sign, digits with or without a point, of which there is
one, and an exponent. -/
structure FieldNumber where
  before : List Char
  sign : Sign
  whole : List Char
  fraction : Option (List Char)
  exponent : Option Exponent
  after : List Char
  isSpace_before : ∀ c ∈ before, isSpace c = true
  isSpace_after : ∀ c ∈ after, isSpace c = true
  isRun_whole : IsRun whole
  isRun_fraction : IsRun (fraction.getD [])
  ne_nil : whole ++ fraction.getD [] ≠ []

namespace Exponent

def chars (x : Exponent) : List Char := x.mark :: (x.sign.chars ++ x.digits)

/-- The whole number that an exponent is. -/
def value (x : Exponent) : Int :=
  if x.sign.isMinus then -(numberOf x.digits : Int) else numberOf x.digits

theorem map_asciiDigit (x : Exponent) : x.chars.map Numeral.asciiDigit =
    x.mark :: (x.sign.chars ++ x.digits.map Numeral.asciiDigit) := by
  have hmark : isNumberMark x.mark = true := by
    rcases x.isMark with h | h <;> exact h ▸ rfl
  rw [chars, List.map_cons, List.map_append, Sign.map_asciiDigit, (isNumberMark_plain hmark).2.1]

theorem exponent?_eq (x : Exponent) :
    Numeral.exponent? (x.chars.map Numeral.asciiDigit) = some x.value := by
  have hdigits := x.isRun.isDigit_ascii
  have hmark : (x.mark == 'e' || x.mark == 'E') = true := by simpa using x.isMark
  obtain ⟨d, ds, hcons⟩ := List.exists_cons_of_ne_nil x.ne_nil
  have hsign := x.sign.splitSign_append (notSign_of_digits hdigits)
  have hvalue : ofDigits ((x.digits.map Numeral.asciiDigit).map digitValue) =
      numberOf x.digits := by
    rw [x.isRun.map_digitValue, numberOf]
  have hsplit := splitDigits_of_forall hdigits
  rw [x.map_asciiDigit, Numeral.exponent?, if_pos hmark, hsign]
  simp only [hsplit]
  rw [hcons, List.map_cons, List.map_cons] at hvalue ⊢
  simp only [hvalue, value, hcons]

end Exponent

namespace FieldNumber

variable (t : FieldNumber)

/-- The point and the digits behind it. -/
def fractionChars : List Char := t.fraction.elim [] ('.' :: ·)

def exponentChars : List Char := t.exponent.elim [] Exponent.chars

/-- The number without its sign and the blanks. -/
def numeral : List Char := t.whole ++ (t.fractionChars ++ t.exponentChars)

def text : String := String.ofList (t.before ++ ((t.sign.chars ++ t.numeral) ++ t.after))

/-- The digits before the exponent. -/
def digits : List Char := t.whole ++ t.fraction.getD []

/-- The power of ten of the last of the digits. -/
def power : Int := t.exponent.elim 0 Exponent.value - (t.fraction.getD []).length

/-- The number that the text spells. -/
def value : ℚ := Double.signed t.sign.isMinus (numberOf t.digits * 10 ^ t.power)

/-- The text has neither a point nor an exponent. -/
def isWhole : Bool := t.fraction.isNone && t.exponent.isNone

/-! ### Reading -/

variable {t}

theorem isNumberChar_fractionChars : ∀ c ∈ t.fractionChars, IsNumberChar c := by
  have hrun := t.isRun_fraction
  unfold fractionChars
  cases hfraction : t.fraction with
  | none => exact List.forall_mem_nil _
  | some ds =>
    rw [hfraction] at hrun
    exact List.forall_mem_cons.mpr ⟨.inr rfl, fun c hc => .inl (hrun c hc)⟩

theorem isNumberChar_exponentChars : ∀ c ∈ t.exponentChars, IsNumberChar c := by
  unfold exponentChars
  cases t.exponent with
  | none => exact List.forall_mem_nil _
  | some x =>
    have hmark : IsNumberChar x.mark := by
      rcases x.isMark with h | h <;> exact .inr (h ▸ rfl)
    exact List.forall_mem_cons.mpr ⟨hmark, List.forall_mem_append.mpr
      ⟨Sign.isNumberChar, fun c hc => .inl (x.isRun c hc)⟩⟩

theorem isNumberChar : ∀ c ∈ t.sign.chars ++ t.numeral, IsNumberChar c :=
  List.forall_mem_append.mpr ⟨Sign.isNumberChar, List.forall_mem_append.mpr
    ⟨fun c hc => .inl (t.isRun_whole c hc), List.forall_mem_append.mpr
      ⟨isNumberChar_fractionChars, isNumberChar_exponentChars⟩⟩⟩

theorem numeral_ne_nil : t.numeral ≠ [] := by
  have hne := t.ne_nil
  unfold numeral fractionChars
  cases hfraction : t.fraction with
  | none =>
    rw [hfraction] at hne
    simp_all
  | some ds => simp

/-- The bare numeral of the text: the sign, and the rest with ASCII digits. -/
theorem plain?_text :
    Numeral.plain? t.text = some (t.sign.chars ++ t.numeral.map Numeral.asciiDigit) := by
  have hne : t.sign.chars ++ t.numeral ≠ [] := List.append_ne_nil_of_right_ne_nil _ numeral_ne_nil
  have hunderscore : '_' ∉ (t.sign.chars ++ t.numeral).map Numeral.asciiDigit := by
    intro hmem
    obtain ⟨c, hc, heq⟩ := List.mem_map.mp hmem
    exact (isNumberChar c hc).asciiDigit_ne heq
  rw [Numeral.plain?, text, String.toList_ofList, trimBy_between t.isSpace_before t.isSpace_after
    (fun c hc => (isNumberChar c hc).isSpace_eq) hne,
    Numeral.dropUnderscores_of_notMem hunderscore, List.map_append, Sign.map_asciiDigit]

theorem map_fractionChars : t.fractionChars.map Numeral.asciiDigit =
    t.fraction.elim [] ('.' :: ·.map Numeral.asciiDigit) := by
  unfold fractionChars
  cases t.fraction with
  | none => rfl
  | some ds => exact congrArg (· :: _) (by decide)

theorem exponent?_exponentChars :
    Numeral.exponent? (t.exponentChars.map Numeral.asciiDigit) =
      some (t.exponent.elim 0 Exponent.value) := by
  unfold exponentChars
  cases t.exponent with
  | none => rfl
  | some x => exact x.exponent?_eq

theorem head?_exponentChars :
    ∀ c ∈ (t.exponentChars.map Numeral.asciiDigit).head?, c = 'e' ∨ c = 'E' := by
  unfold exponentChars
  cases t.exponent with
  | none => exact fun c hc => nomatch hc
  | some x =>
    intro c hc
    rw [Option.elim_some, x.map_asciiDigit] at hc
    exact Option.some.inj hc ▸ x.isMark

/-- The fraction stands behind a point, or there is none. -/
theorem decimal?_of_split {cs rest tail : List Char} {whole fraction : List Nat} {x : Int}
    (hwhole : Numeral.splitDigits cs = (whole, rest))
    (hfraction : (fraction = [] ∧ rest = tail ∧ ∀ c ∈ tail.head?, c ≠ '.') ∨
      ∃ r, rest = '.' :: r ∧ Numeral.splitDigits r = (fraction, tail))
    (hne : whole ++ fraction ≠ []) (hexponent : Numeral.exponent? tail = some x) :
    Numeral.decimal? cs = some (ofDigits (whole ++ fraction), x - fraction.length) := by
  have hempty : ¬(whole = [] ∧ fraction = []) := by
    simpa using hne
  unfold Numeral.decimal?
  simp only [hwhole, Bool.and_eq_true, List.isEmpty_iff]
  rcases hfraction with ⟨rfl, rfl, hpoint⟩ | ⟨r, rfl, hsplit⟩
  · split
    · exact absurd rfl (hpoint _ rfl)
    · rw [if_neg hempty, hexponent, Option.map_some]
  · simp only [hsplit]
    rw [if_neg hempty, hexponent, Option.map_some]

/-- The numeral is read as the decimal that the text spells. -/
theorem decimal?_numeral : Numeral.decimal? (t.numeral.map Numeral.asciiDigit) =
    some (numberOf t.digits, t.power) := by
  have hwhole := t.isRun_whole.isDigit_ascii
  have hfraction := t.isRun_fraction
  have hne : (t.whole.map Numeral.asciiDigit).map digitValue ++ (t.fraction.getD []).map digitOf ≠
      [] := by
    simpa using t.ne_nil
  have hexponent := t.exponent?_exponentChars
  have hmark := t.head?_exponentChars
  have htail : ∀ c ∈ (t.exponentChars.map Numeral.asciiDigit).head?, c.isDigit = false := by
    intro c hc
    rcases hmark c hc with rfl | rfl <;> rfl
  rw [numeral, List.map_append, List.map_append, map_fractionChars, digits, power, numberOf,
    List.map_append, ← t.isRun_whole.map_digitValue]
  generalize t.exponentChars.map Numeral.asciiDigit = tail at hexponent hmark htail ⊢
  generalize t.exponent.elim 0 Exponent.value = x at hexponent ⊢
  cases hdigits : t.fraction with
  | none =>
    rw [hdigits] at hne
    have hpoint : ∀ c ∈ tail.head?, c ≠ '.' := by
      intro c hc
      rcases hmark c hc with rfl | rfl <;> decide
    exact decimal?_of_split (splitDigits_append hwhole htail) (.inl ⟨rfl, rfl, hpoint⟩)
      hne hexponent
  | some ds =>
    rw [hdigits, Option.getD_some] at hfraction hne
    have hpoint : ∀ c ∈ ('.' :: (ds.map Numeral.asciiDigit ++ tail)).head?, c.isDigit = false :=
      fun c hc => Option.some.inj hc ▸ rfl
    have hsplit := splitDigits_append hfraction.isDigit_ascii htail
    rw [hfraction.map_digitValue] at hsplit
    have hread := decimal?_of_split (splitDigits_append hwhole hpoint) (.inr ⟨_, rfl, hsplit⟩) hne
      hexponent
    rwa [List.length_map] at hread

/-- The first character of the numeral is a digit or the point. -/
theorem exists_cons_numeral : ∃ c tail, t.numeral.map Numeral.asciiDigit = c :: tail ∧
    (c.isDigit = true ∨ c = '.') := by
  have hdigits := t.isRun_whole.isDigit_ascii
  have hne := t.ne_nil
  rw [numeral, List.map_append, List.map_append, map_fractionChars]
  generalize t.exponentChars.map Numeral.asciiDigit = tail
  cases hwhole : t.whole with
  | nil =>
    cases hfraction : t.fraction with
    | none => simp [hwhole, hfraction] at hne
    | some ds => exact ⟨'.', _, rfl, .inr rfl⟩
  | cons c rest =>
    rw [hwhole] at hdigits
    exact ⟨_, _, rfl, .inl (hdigits _ (List.mem_cons_self ..))⟩

theorem splitSign_numeral :
    Numeral.splitSign (t.sign.chars ++ t.numeral.map Numeral.asciiDigit) =
      (t.sign.isMinus, t.numeral.map Numeral.asciiDigit) := by
  obtain ⟨c, tail, hcons, hc⟩ := t.exists_cons_numeral
  refine t.sign.splitSign_append fun d hd => ?_
  rw [hcons] at hd
  obtain rfl : c = d := Option.some.inj hd
  rcases hc with hdigit | rfl
  · exact ⟨ne_of_isDigit hdigit rfl, ne_of_isDigit hdigit rfl⟩
  · decide

/-- A floating point number is read from the decimal that the text spells. -/
theorem ofText?_text :
    Double.ofText? t.text = some (Double.ofDecimal t.sign.isMinus (numberOf t.digits) t.power) := by
  obtain ⟨c, tail, hcons, hc⟩ := t.exists_cons_numeral
  rw [Double.ofText?, plain?_text, Option.bind_some]
  exact Double.ofNumeral?_of_decimal splitSign_numeral hcons hc decimal?_numeral

theorem value_of_isWhole (h : t.isWhole = true) :
    t.value = Double.signed t.sign.isMinus (numberOf t.whole) := by
  obtain ⟨hfraction, hexponent⟩ : t.fraction = none ∧ t.exponent = none := by
    simpa [isWhole] using h
  simp [value, digits, power, hfraction, hexponent]

/-- A point or the mark of an exponent ends the whole digits of a number that has one. -/
theorem exists_cons_rest (h : t.isWhole ≠ true) : ∃ c tail,
    (t.fractionChars ++ t.exponentChars).map Numeral.asciiDigit = c :: tail ∧
      c.isDigit = false := by
  rw [List.map_append, map_fractionChars]
  cases hfraction : t.fraction with
  | some ds => exact ⟨'.', _, rfl, rfl⟩
  | none =>
    cases hexponent : t.exponent with
    | none => simp [isWhole, hfraction, hexponent] at h
    | some x =>
      refine ⟨x.mark, x.sign.chars ++ x.digits.map Numeral.asciiDigit, ?_, ?_⟩
      · rw [exponentChars, hexponent, Option.elim_some, x.map_asciiDigit]
        rfl
      · rcases x.isMark with hmark | hmark <;> exact hmark ▸ rfl

theorem int?_of_ne_nil {cs rest tail : List Char} {negative : Bool} {ds : List Nat}
    (hsign : Numeral.splitSign cs = (negative, rest))
    (hsplit : Numeral.splitDigits rest = (ds, tail)) (hne : tail ≠ []) :
    Numeral.int? cs = none := by
  obtain ⟨c, tail, rfl⟩ := List.exists_cons_of_ne_nil hne
  unfold Numeral.int?
  simp only [hsign, hsplit]
  cases ds <;> rfl

/-- A whole number is read from the text if it has neither a point nor an exponent, nor more digits
than a whole number may have. -/
theorem intOfText?_text : intOfText? t.text =
    if t.isWhole = true ∧ t.whole.length ≤ digitLimit then some (Double.truncated t.value)
    else none := by
  have hsign := t.splitSign_numeral
  rw [intOfText?, plain?_text, Option.bind_some]
  by_cases hwhole : t.isWhole = true
  · obtain ⟨hnumeral, hne⟩ : t.numeral = t.whole ∧ t.whole ≠ [] := by
      have hne := t.ne_nil
      obtain ⟨hfraction, hexponent⟩ : t.fraction = none ∧ t.exponent = none := by
        simpa [isWhole] using hwhole
      simp_all [numeral, fractionChars, exponentChars]
    have hsplit := splitDigits_of_forall t.isRun_whole.isDigit_ascii
    have hdigits : t.whole.map digitOf ≠ [] := by simpa using hne
    rw [t.isRun_whole.map_digitValue] at hsplit
    rw [hnumeral] at hsign ⊢
    rw [Numeral.int?_of_splitDigits hsign hsplit hdigits, value_of_isWhole hwhole,
      Double.truncated_signed, Double.truncated_natCast, List.length_map]
    simp only [hwhole, true_and, numberOf]
  · obtain ⟨c, tail, hrest, hc⟩ := exists_cons_rest hwhole
    have hhead : ∀ d ∈ (c :: tail).head?, d.isDigit = false :=
      fun d hd => Option.some.inj hd ▸ hc
    have hsplit := splitDigits_append t.isRun_whole.isDigit_ascii hhead
    rw [← hrest, ← List.map_append] at hsplit
    rw [if_neg fun h => hwhole h.1]
    exact int?_of_ne_nil hsign hsplit (hrest ▸ List.cons_ne_nil c tail)

end FieldNumber

end SplitTest
