import SplitTest.Number.Shortest
import SplitTest.Proofs.Sql.Readable
import SplitTest.Query.Metric

/-! Numbers in SQL texts.  Digits are neither quotes nor hyphens, and a number has a hyphen only as
the sign of its value or of its exponent, so that no number can be taken for a part of a literal or
of a comment. -/

namespace SplitTest

open Literal (quote)
open Scan

/-- A text without quotes and hyphens. -/
def Calm (s : String) : Prop :=
  ∀ c ∈ s.toList, c ≠ quote ∧ c ≠ '-'

namespace Calm

theorem ofList {cs : List Char} : Calm (String.ofList cs) ↔ ∀ c ∈ cs, c ≠ quote ∧ c ≠ '-' := by
  simp [Calm]

theorem of {cs : List Char} (h : cs.all (fun c => c != quote && c != '-') = true) :
    Calm (String.ofList cs) := by
  simpa [ofList] using h

theorem head_ne {s : String} (h : Calm s) : s.toList.head? ≠ some '-' := fun hhead =>
  (h '-' (List.mem_of_mem_head? hhead)).2 rfl

theorem plain {s : String} (h : Calm s) : Plain s.toList := by
  unfold Calm at h
  generalize s.toList = cs at h ⊢
  induction cs with
  | nil => exact plain_nil
  | cons c cs ih =>
    obtain ⟨hc, hcs⟩ := List.forall_mem_cons.mp h
    exact plain_cons.mpr ⟨hc.1, fun heq => absurd heq hc.2, ih hcs⟩

theorem append_plain {s t : String} (hs : Calm s) (ht : Plain t.toList) :
    Plain (s ++ t).toList := by
  rw [String.toList_append]
  exact hs.plain.append ht fun hlast => absurd rfl (hs '-' (List.mem_of_getLast? hlast)).2

/-- A text that ends in a hyphen may stand before a calm one. -/
theorem plain_append {s t : String} (hs : Plain s.toList) (ht : Calm t) :
    Plain (s ++ t).toList := by
  rw [String.toList_append]
  exact hs.append ht.plain fun _ => ht.head_ne

end Calm

/-! ### The characters of numbers -/

namespace Double

/-- An unsigned value is written as zero, positionally or in scientific notation. -/
theorem magnitudeText_cases {p : String → Prop} (hzero : p "0.0")
    (hpositional : ∀ n q, p (positional (dropTrailingZeros (Text.natText n)) q))
    (hscientific : ∀ n x, p (scientific (dropTrailingZeros (Text.natText n)) x)) (k : Fin places) :
    p (magnitudeText k) := by
  unfold magnitudeText
  split
  · exact hzero
  · split
    simp only
    split
    · exact hpositional _ _
    · exact hscientific _ _

end Double

section

variable {P : Char → Prop}

/-- A condition that is checked for each character. -/
theorem forall_of_all [DecidablePred P] {cs : List Char}
    (h : cs.all (fun c => decide (P c)) = true) : ∀ c ∈ cs, P c := by
  simpa using h

theorem forall_append {s t : String} (hs : ∀ c ∈ s.toList, P c) (ht : ∀ c ∈ t.toList, P c) :
    ∀ c ∈ (s ++ t).toList, P c := by
  rw [String.toList_append]
  exact List.forall_mem_append.mpr ⟨hs, ht⟩

theorem forall_natText (hdigit : ∀ c, c.isDigit = true → P c) (n : Nat) :
    ∀ c ∈ (Text.natText n).toList, P c := by
  intro c hc
  refine hdigit c (Nat.isDigit_of_mem_toDigits (b := 10) (n := n) (by decide) (by decide) ?_)
  simpa [Text.natText, Nat.toString_eq_repr, Nat.toList_repr] using hc

theorem forall_zeros (hzero : P '0') (n : Nat) :
    ∀ c ∈ (String.ofList (List.replicate n '0')).toList, P c := by
  intro c hc
  rw [String.toList_ofList] at hc
  exact List.eq_of_mem_replicate hc ▸ hzero

theorem forall_zeroPad (hdigit : ∀ c, c.isDigit = true → P c) (w n : Nat) :
    ∀ c ∈ (Text.zeroPad w n).toList, P c :=
  forall_append (forall_zeros (hdigit '0' rfl) _) (forall_natText hdigit n)

theorem DateTime.forall_stampText (hdigit : ∀ c, c.isDigit = true → P c)
    (hmark : ∀ c ∈ "-: ".toList, P c) (t : DateTime) : ∀ c ∈ t.stampText.toList, P c := by
  have hpad (w n : Nat) : ∀ c ∈ (Text.zeroPad w n).toList, P c := forall_zeroPad hdigit w n
  have hhyphen : ∀ c ∈ "-".toList, P c := by simpa using hmark '-' (by simp)
  have hcolon : ∀ c ∈ ":".toList, P c := by simpa using hmark ':' (by simp)
  have hspace : ∀ c ∈ " ".toList, P c := by simpa using hmark ' ' (by simp)
  have hdate : ∀ c ∈ (t.date.textWith 0).toList, P c :=
    forall_append (forall_append (forall_append (forall_append (hpad _ _) hhyphen) (hpad _ _))
      hhyphen) (hpad _ _)
  have hclock : ∀ c ∈ t.clockText.toList, P c :=
    forall_append (forall_append (forall_append (forall_append (hpad _ _) hcolon) (hpad _ _))
      hcolon) (hpad _ _)
  exact forall_append (forall_append hdate hspace) hclock

namespace Double

theorem forall_positional (hzero : P '0') (hdot : P '.') {digits : String}
    (h : ∀ c ∈ digits.toList, P c) (p : Int) : ∀ c ∈ (positional digits p).toList, P c := by
  have hpoint : ∀ c ∈ ".".toList, P c := by simpa using hdot
  have hstart : ∀ c ∈ "0.".toList, P c := by simp [hzero, hdot]
  have hend : ∀ c ∈ ".0".toList, P c := by simp [hzero, hdot]
  have htake (n : Nat) : ∀ c ∈ (String.ofList (digits.toList.take n)).toList, P c := fun c hc =>
    h c (List.mem_of_mem_take (by simpa using hc))
  have hdrop (n : Nat) : ∀ c ∈ (String.ofList (digits.toList.drop n)).toList, P c := fun c hc =>
    h c (List.mem_of_mem_drop (by simpa using hc))
  unfold positional
  split
  · exact forall_append (forall_append hstart (forall_zeros hzero _)) h
  · split
    · exact forall_append (forall_append h (forall_zeros hzero _)) hend
    · exact forall_append (forall_append (htake _) hpoint) (hdrop _)

theorem forall_mantissa (hdot : P '.') (digits : List Char) (h : ∀ c ∈ digits, P c) :
    ∀ c ∈ (match digits with
      | [] => ""
      | [d] => String.singleton d
      | d :: rest => String.ofList (d :: '.' :: rest)).toList, P c := by
  split
  · simp
  · simpa using h
  · simpa [hdot] using h

theorem forall_significant (hdigit : ∀ c, c.isDigit = true → P c) (n : Nat) :
    ∀ c ∈ (dropTrailingZeros (Text.natText n)).toList, P c := by
  intro c hc
  rw [dropTrailingZeros, String.toList_ofList] at hc
  exact forall_natText hdigit n c
    (List.mem_reverse.mp ((List.dropWhile_sublist _).mem (List.mem_reverse.mp hc)))

end Double

theorem forall_int (hdigit : ∀ c, c.isDigit = true → P c) (hhyphen : P '-') (n : Int) :
    ∀ c ∈ (toString n).toList, P c := by
  have hsign : ∀ c ∈ "-".toList, P c := by simpa using hhyphen
  rw [Int.toString_eq_repr, Int.repr_eq_if]
  split
  · exact forall_natText hdigit _
  · exact forall_append hsign (forall_natText hdigit _)

namespace Double

theorem forall_scientific (hdigit : ∀ c, c.isDigit = true → P c)
    (hmark : ∀ c ∈ ".+-e".toList, P c) {digits : String} (h : ∀ c ∈ digits.toList, P c) (x : Int) :
    ∀ c ∈ (scientific digits x).toList, P c := by
  have hmantissa := forall_mantissa (hmark '.' (by simp)) digits.toList h
  have hexponent : ∀ c ∈ (if x < 0 then "e-" else "e+").toList, P c := by
    have he : P 'e' := hmark 'e' (by simp)
    split
    · simpa [he] using hmark '-' (by simp)
    · simpa [he] using hmark '+' (by simp)
  unfold scientific
  exact forall_append (forall_append hmantissa hexponent) (forall_zeroPad hdigit 2 _)

theorem forall_magnitudeText (hdigit : ∀ c, c.isDigit = true → P c)
    (hmark : ∀ c ∈ ".+-e".toList, P c) (k : Fin places) : ∀ c ∈ (magnitudeText k).toList, P c := by
  have hdot : P '.' := hmark '.' (by simp)
  have hsignificant (n : Nat) := forall_significant hdigit n
  refine magnitudeText_cases (p := fun s => ∀ c ∈ s.toList, P c) ?_ ?_ ?_ k
  · simpa [hdot] using hdigit '0' rfl
  · exact fun n q => forall_positional (hdigit '0' rfl) hdot (hsignificant n) q
  · exact fun n x => forall_scientific hdigit hmark (hsignificant n) x

/-- The text of a floating point number has digits, the marks of a decimal number and the letters of
the numbers that are not finite. -/
theorem forall_text (hdigit : ∀ c, c.isDigit = true → P c) (hmark : ∀ c ∈ ".+-e".toList, P c)
    (hletter : ∀ c ∈ "infa".toList, P c) (x : Double) : ∀ c ∈ x.text.toList, P c := by
  have hhyphen : P '-' := hmark _ (by simp)
  simp only [List.forall_mem_cons, String.reduceToList] at hletter
  cases x with
  | finite s k =>
    have hsign : ∀ c ∈ (if s then "-" else "").toList, P c := by
      split <;> simp [hhyphen]
    exact forall_append hsign (forall_magnitudeText hdigit hmark k)
  | infinity s => cases s <;> simp [text, hletter, hhyphen]
  | nan => simp [text, hletter]

end Double

theorem forall_numberText (hdigit : ∀ c, c.isDigit = true → P c)
    (hmark : ∀ c ∈ ".+-e".toList, P c) (hletter : ∀ c ∈ "infa".toList, P c) (x : Double) :
    ∀ c ∈ (numberText x).toList, P c := by
  unfold numberText
  split
  · split
    · exact forall_int hdigit (hmark _ (by simp)) _
    · exact x.forall_text hdigit hmark hletter
  · exact x.forall_text hdigit hmark hletter

end

theorem Calm.of_isDigit (c : Char) (hdigit : c.isDigit = true) : c ≠ quote ∧ c ≠ '-' := by
  constructor
  · rintro rfl
    exact absurd hdigit (by decide)
  · rintro rfl
    exact absurd hdigit (by decide)

theorem calm_natText (n : Nat) : Calm (Text.natText n) :=
  forall_natText Calm.of_isDigit n

theorem calm_zeroPad (w n : Nat) : Calm (Text.zeroPad w n) :=
  forall_zeroPad Calm.of_isDigit w n

theorem plain_hyphen : Plain "-".toList :=
  plain_cons.mpr ⟨by decide, by simp, plain_nil⟩

/-- The text of a whole number is plain. -/
theorem plain_int (n : Int) : Plain (toString n).toList := by
  rw [Int.toString_eq_repr, Int.repr_eq_if]
  split
  · exact (calm_natText _).plain
  · exact Calm.plain_append plain_hyphen (calm_natText _)

namespace Double

theorem calm_positional {digits : String} (h : Calm digits) (p : Int) :
    Calm (positional digits p) :=
  forall_positional (by decide) (by decide) h p

theorem calm_significant (n : Nat) : Calm (dropTrailingZeros (Text.natText n)) :=
  forall_significant Calm.of_isDigit n

theorem plain_exponentMark (x : Int) :
    Plain (if x < 0 then "e-" else "e+").toList ∧
      (if x < 0 then "e-" else "e+").toList.head? = some 'e' := by
  split
  · exact ⟨Calm.append_plain (Calm.of rfl : Calm "e") plain_hyphen, by decide⟩
  · exact ⟨(Calm.of rfl : Calm "e+").plain, by decide⟩

/-- In scientific notation a hyphen stands only between the mark of the exponent and its digits. -/
theorem plain_scientific {digits : String} (h : Calm digits) (x : Int) :
    Plain (scientific digits x).toList ∧ (scientific digits x).toList.head? ≠ some '-' := by
  have hmantissa : Calm _ := forall_mantissa (by decide) digits.toList h
  obtain ⟨hmark, hhead⟩ := plain_exponentMark x
  refine ⟨Calm.plain_append (hmantissa.append_plain hmark) (calm_zeroPad 2 _), ?_⟩
  unfold scientific
  rw [String.toList_append, String.toList_append, List.append_assoc, List.head?_append,
    List.head?_append, hhead]
  intro hhyphen
  rcases Option.or_eq_some_iff.mp hhyphen with hm | ⟨-, he⟩
  · exact hmantissa.head_ne hm
  · simp at he

theorem plain_magnitudeText (k : Fin places) :
    Plain (magnitudeText k).toList ∧ (magnitudeText k).toList.head? ≠ some '-' := by
  refine magnitudeText_cases (p := fun s => Plain s.toList ∧ s.toList.head? ≠ some '-') ?_ ?_ ?_ k
  · have hzero : Calm "0.0" := Calm.of rfl
    exact ⟨hzero.plain, hzero.head_ne⟩
  · intro n q
    have hcalm := calm_positional (calm_significant n) q
    exact ⟨hcalm.plain, hcalm.head_ne⟩
  · intro n x
    exact plain_scientific (calm_significant n) x

/-- The text of a floating point number is plain. -/
theorem plain_text (x : Double) : Plain x.text.toList := by
  cases x with
  | finite s k =>
    obtain ⟨hplain, hhead⟩ := plain_magnitudeText k
    cases s with
    | false => simpa [text] using hplain
    | true =>
      rw [text, String.toList_append]
      exact plain_hyphen.append hplain fun _ => hhead
  | infinity s =>
    cases s with
    | false => exact (Calm.of rfl : Calm "inf").plain
    | true => exact Calm.plain_append plain_hyphen (Calm.of rfl : Calm "inf")
  | nan => exact (Calm.of rfl : Calm "nan").plain

end Double

theorem plain_numberText (x : Double) : Plain (numberText x).toList := by
  unfold numberText
  split
  · split
    · exact plain_int _
    · exact x.plain_text
  · exact x.plain_text

/-! ### Replaced parts -/

/-- Replacing parts of a plain text by a calm one joins no two hyphens, as the replacement stands
between them. -/
theorem plain_replacePass {found : List Char → Option Nat} {replacement : List Char}
    (hcalm : ∀ c ∈ replacement, c ≠ quote ∧ c ≠ '-') (hne : replacement ≠ []) {cs : List Char}
    (hcs : Plain cs) (skip : Nat) :
    Plain (Text.replacePass found replacement skip cs) ∧
      (skip = 0 → cs.head? ≠ some '-' →
        (Text.replacePass found replacement skip cs).head? ≠ some '-') := by
  induction cs generalizing skip with
  | nil => cases skip <;> simp [Text.replacePass, plain_nil]
  | cons c rest ih =>
    obtain ⟨hquote, hhyphen, hrest⟩ := plain_cons.mp hcs
    cases skip with
    | succ skip => exact ⟨(ih hrest skip).1, by simp⟩
    | zero =>
      unfold Text.replacePass
      split
      · rename_i n _
        have htext : Calm (String.ofList replacement) := Calm.ofList.mpr hcalm
        obtain ⟨d, replacement, rfl⟩ := List.exists_cons_of_ne_nil hne
        refine ⟨?_, fun _ _ => ?_⟩
        · have hplain := (ih hrest (n - 1)).1
          simpa using htext.append_plain (t := String.ofList _) (by simpa using hplain)
        · simpa using (hcalm d (by simp)).2
      · obtain ⟨hplain, hhead⟩ := ih hrest 0
        exact ⟨plain_cons.mpr ⟨hquote, fun hc => hhead rfl (hhyphen hc), hplain⟩, by simp⟩

theorem plain_replaceAll {part replacement s : String} (hcalm : Calm replacement)
    (hne : replacement.toList ≠ []) (hs : Plain s.toList) :
    Plain (Text.replaceAll part replacement s).toList := by
  unfold Text.replaceAll Text.replaceFound
  rw [String.toList_ofList]
  exact (plain_replacePass hcalm hne hs 0).1

theorem forall_replacePass {P : Char → Prop} {found : List Char → Option Nat}
    {replacement : List Char} (hreplacement : ∀ c ∈ replacement, P c) {cs : List Char}
    (hcs : ∀ c ∈ cs, P c) (skip : Nat) :
    ∀ c ∈ Text.replacePass found replacement skip cs, P c := by
  induction cs generalizing skip with
  | nil => cases skip <;> simp [Text.replacePass]
  | cons c rest ih =>
    obtain ⟨hc, hrest⟩ := List.forall_mem_cons.mp hcs
    cases skip with
    | succ skip => exact ih hrest skip
    | zero =>
      unfold Text.replacePass
      split
      · exact List.forall_mem_append.mpr ⟨hreplacement, ih hrest _⟩
      · exact List.forall_mem_cons.mpr ⟨hc, ih hrest 0⟩

/-- What holds of the characters of a text and of a replacement holds after replacing. -/
theorem forall_replaceAll {P : Char → Prop} {part replacement s : String}
    (hreplacement : ∀ c ∈ replacement.toList, P c) (hs : ∀ c ∈ s.toList, P c) :
    ∀ c ∈ (Text.replaceAll part replacement s).toList, P c := by
  unfold Text.replaceAll Text.replaceFound
  rw [String.toList_ofList]
  exact forall_replacePass hreplacement hs 0

end SplitTest
