import Mathlib.Data.List.DropRight
import SplitTest.Dialect
import SplitTest.Proofs.Sql.Readable
import SplitTest.Proofs.Text.Digits
import SplitTest.Proofs.Text.Runs

/-! Shifts in time, read back from their texts.  Each dialect has a notation for a column shifted by
hours and one for a column shifted back by minutes; a reader that knows the notations of the dialect
finds the column and the distance again, whatever the text of the column is. -/

namespace SplitTest

open Text

/-! ### Whole numbers read back -/

/-- The value of a run of ASCII digits. -/
def readDigits? (cs : List Char) : Option Nat :=
  if cs ≠ [] ∧ cs.all Char.isDigit then some (Nat.ofDigitChars 10 cs 0) else none

/-- The value of a run of ASCII digits with or without a minus sign. -/
def readWhole? : List Char → Option Int
  | '-' :: cs => (readDigits? cs).map fun n => -Int.ofNat n
  | cs => (readDigits? cs).map Int.ofNat

theorem Digits.readDigits? {cs : List Char} {n : Nat} (h : Digits cs n) :
    SplitTest.readDigits? cs = some n := by
  have hall : cs.all Char.isDigit = true := List.all_eq_true.mpr h.isDigit
  rw [SplitTest.readDigits?, if_pos ⟨h.ne_nil, hall⟩, h.value]

theorem readWhole?_negative (n : Nat) :
    readWhole? ('-' :: (natText n).toList) = some (-(n : Int)) := by
  rw [readWhole?, (Digits.natText n).readDigits?, Option.map_some]
  rfl

theorem readWhole?_toString (k : Int) : readWhole? (toString k).toList = some k := by
  have hdigits := Digits.natText k.natAbs
  rw [toList_toString_int]
  by_cases hneg : k < 0
  · rw [if_pos hneg, List.singleton_append, readWhole?_negative, Option.some.injEq]
    omega
  · obtain ⟨d, ds, hds, hd, -⟩ := hdigits.eq_cons
    have hsign : d ≠ '-' := by
      rintro rfl
      simp at hd
    rw [if_neg hneg, List.nil_append, readWhole?, hdigits.readDigits?, Option.map_some,
      Option.some.injEq]
    · exact Int.natAbs_of_nonneg (by omega)
    · intro cs heq
      rw [hds] at heq
      exact hsign (List.cons.inj heq).1

/-! ### Notations -/

/-- A column at a distance in time. -/
structure Shift where
  column : String
  minutes : Int
  deriving DecidableEq

/-- Whether a character may stand in a whole number. -/
def inWhole (c : Char) : Bool := c.isDigit || c == '-'

/-- A notation for a column at a number of units of time. -/
structure ShiftNotation where
  /-- The text before the column and the number. -/
  opens : String
  /-- The text between them. -/
  between : String
  /-- The text after them. -/
  closes : String
  numberFirst : Bool
  /-- The minutes of a unit; they are negative where the notation shifts back. -/
  unit : Int
  /-- What stands beside the number is no part of one. -/
  separates : (if numberFirst then between.toList.head? else between.toList.getLast?).any
    (!inWhole ·) = true

namespace ShiftNotation

variable (n : ShiftNotation)

/-- The text of a shift. -/
def write (column number : String) : String :=
  if n.numberFirst then n.opens ++ number ++ n.between ++ column ++ n.closes
  else n.opens ++ column ++ n.between ++ number ++ n.closes

/-- The column and the number in what stands between the opening and the closing text. -/
def split? (cs : List Char) : Option (List Char × List Char) :=
  if n.numberFirst then
    ((cs.dropWhile inWhole).dropPrefix? n.between.toList).map fun column =>
      (column, cs.takeWhile inWhole)
  else
    ((cs.rdropWhile inWhole).dropSuffix? n.between.toList).map fun column =>
      (column, cs.rtakeWhile inWhole)

def read? (text : String) : Option Shift := do
  let opened ← text.toList.dropPrefix? n.opens.toList
  let inner ← opened.dropSuffix? n.closes.toList
  let (column, number) ← n.split? inner
  let units ← readWhole? number
  some ⟨String.ofList column, units * n.unit⟩

theorem dropPrefix?_append (before rest : List Char) :
    (before ++ rest).dropPrefix? before = some rest :=
  List.dropPrefix?_eq_some_iff.mpr ⟨before, rfl, beq_self_eq_true _⟩

theorem dropSuffix?_append (rest after : List Char) :
    (rest ++ after).dropSuffix? after = some rest :=
  List.dropSuffix?_eq_some_iff.mpr ⟨after, rfl, beq_self_eq_true _⟩

theorem split?_numberFirst (h : n.numberFirst = true) {number : List Char}
    (hnumber : ∀ d ∈ number, inWhole d = true) (column : List Char) :
    n.split? (number ++ (n.between.toList ++ column)) = some (column, number) := by
  have hsep := n.separates
  rw [if_pos h] at hsep
  cases hbetween : n.between.toList with
  | nil => simp [hbetween] at hsep
  | cons c cs =>
    have hhead : ∀ d ∈ (c :: cs ++ column).head?, inWhole d = false := by
      simpa [hbetween] using hsep
    rw [split?, if_pos h, hbetween, takeWhile_append_of_head hnumber hhead,
      dropWhile_append_of_head hnumber hhead, dropPrefix?_append, Option.map_some]

theorem split?_columnFirst (h : n.numberFirst = false) {number : List Char}
    (hnumber : ∀ d ∈ number, inWhole d = true) (column : List Char) :
    n.split? (column ++ (n.between.toList ++ number)) = some (column, number) := by
  have hsep := n.separates
  rw [if_neg (by simp [h])] at hsep
  have hreverse (d : Char) (hd : d ∈ number.reverse) : inWhole d = true :=
    hnumber d (List.mem_reverse.mp hd)
  cases hbetween : n.between.toList.reverse with
  | nil => simp [List.reverse_eq_nil_iff.mp hbetween] at hsep
  | cons c cs =>
    have hlast : n.between.toList = cs.reverse ++ [c] := by
      rw [← List.reverse_reverse n.between.toList, hbetween, List.reverse_cons]
    have hhead : ∀ d ∈ (c :: (cs ++ column.reverse)).head?, inWhole d = false := by
      simpa [hlast] using hsep
    have hchars : (column ++ (n.between.toList ++ number)).reverse =
        number.reverse ++ c :: (cs ++ column.reverse) := by
      simp [hlast]
    rw [split?, if_neg (by simp [h]), List.rdropWhile, List.rtakeWhile, hchars,
      takeWhile_append_of_head hreverse hhead, dropWhile_append_of_head hreverse hhead,
      List.reverse_reverse]
    have hrest : (c :: (cs ++ column.reverse)).reverse = column ++ n.between.toList := by
      simp [hlast]
    rw [hrest, dropSuffix?_append, Option.map_some]

/-- A shift is read as it is written. -/
theorem read?_write {number : String} {k : Int} (column : String)
    (hnumber : ∀ d ∈ number.toList, inWhole d = true) (hk : readWhole? number.toList = some k) :
    n.read? (n.write column number) = some ⟨column, k * n.unit⟩ := by
  cases h : n.numberFirst with
  | true =>
    have hchars : (n.write column number).toList = n.opens.toList ++
        (number.toList ++ (n.between.toList ++ column.toList) ++ n.closes.toList) := by
      simp [write, h]
    simp only [read?, hchars, dropPrefix?_append, dropSuffix?_append, Option.bind_eq_bind,
      Option.bind_some, n.split?_numberFirst h hnumber, hk, String.ofList_toList]
  | false =>
    have hchars : (n.write column number).toList = n.opens.toList ++
        (column.toList ++ (n.between.toList ++ number.toList) ++ n.closes.toList) := by
      simp [write, h]
    simp only [read?, hchars, dropPrefix?_append, dropSuffix?_append, Option.bind_eq_bind,
      Option.bind_some, n.split?_columnFirst h hnumber, hk, String.ofList_toList]

theorem read?_of_opens {text : String} (h : text.toList.dropPrefix? n.opens.toList = none) :
    n.read? text = none := by
  simp [read?, h]

theorem read?_of_closes {text : String}
    (h : ∀ rest : List Char, text.toList ≠ rest ++ n.closes.toList) : n.read? text = none := by
  cases hopened : text.toList.dropPrefix? n.opens.toList with
  | none => exact n.read?_of_opens hopened
  | some opened =>
    have hinner : opened.dropSuffix? n.closes.toList = none := by
      rw [Option.eq_none_iff_forall_not_mem]
      intro inner hinner
      obtain ⟨before, hbefore, -⟩ := List.dropPrefix?_eq_some_iff.mp hopened
      obtain ⟨after, hafter, hcloses⟩ := List.dropSuffix?_eq_some_iff.mp hinner
      apply h (before ++ inner)
      rw [hbefore, hafter, eq_of_beq hcloses, List.append_assoc]
    simp [read?, hopened, hinner]

end ShiftNotation

/-! ### The notations of a dialect -/

namespace Dialect

variable (d : Dialect)

/-- The notation for a shift by hours. -/
def hours : ShiftNotation :=
  match d.flavor with
  | .snowflake => ⟨"DATEADD(hour, ", ", ", ")", true, 60, rfl⟩
  | .bigquery => ⟨"TIMESTAMP_ADD(", ", INTERVAL ", " HOUR)", false, 60, rfl⟩
  | .presto => ⟨"date_add(\x27hour\x27, ", ", ", ")", true, 60, rfl⟩
  | _ => ⟨"", " + INTERVAL \x27", " hours\x27", false, 60, rfl⟩

/-- The notation for a shift back by minutes. -/
def minutesBack : ShiftNotation :=
  match d.flavor with
  | .snowflake => ⟨"DATEADD(minute, -", ", ", ")", true, -1, rfl⟩
  | .bigquery => ⟨"TIMESTAMP_SUB(", ", INTERVAL ", " MINUTE)", false, -1, rfl⟩
  | .presto => ⟨"date_add(\x27minute\x27, -", ", ", ")", true, -1, rfl⟩
  | _ => ⟨"", " - INTERVAL \x27", " minutes\x27", false, -1, rfl⟩

/-- Reads a shift by hours or back by minutes. -/
def readShift? (text : String) : Option Shift :=
  (d.hours.read? text).or (d.minutesBack.read? text)

/-- The literal of a number with the name of its unit. -/
theorem toList_encode_units (n : Int) (unit : String) (hunit : Literal.quote ∉ unit.toList) :
    (Literal.encode (toString n ++ unit)).toList =
      Literal.quote :: ((toString n).toList ++ (unit.toList ++ [Literal.quote])) := by
  have hquote : Literal.quote ∉ (toString n ++ unit).toList := by
    rw [String.toList_append, List.mem_append]
    rintro (hmem | hmem)
    · rcases isIntChar_of_mem hmem with h | h <;> simp [Literal.quote] at h
    · exact hunit hmem
  rw [Literal.encode_of_notMem hquote]
  simp

theorem inWhole_of_mem_toString {n : Int} {c : Char} (hc : c ∈ (toString n).toList) :
    inWhole c = true := by
  rcases isIntChar_of_mem hc with hdigit | rfl
  · simp [inWhole, hdigit]
  · rfl

theorem addHours_text (column : Sql) (n : Int) :
    (d.addHours column n).text = d.hours.write column.text (toString n) := by
  have hliteral := toList_encode_units n " hours" (by decide +kernel)
  have hword : Literal.encode "hour" = "\x27hour\x27" := by decide +kernel
  obtain ⟨flavor, project, dataset⟩ := d
  rw [← String.toList_inj]
  cases flavor <;>
    simp [-Int.toString_eq_repr, addHours, hours, ShiftNotation.write, hliteral, hword,
      Literal.quote]

theorem subtractMinutes_text (column : Sql) (n : Int) :
    (d.subtractMinutes column n).text = d.minutesBack.write column.text (toString n) := by
  have hliteral := toList_encode_units n " minutes" (by decide +kernel)
  have hword : Literal.encode "minute" = "\x27minute\x27" := by decide +kernel
  obtain ⟨flavor, project, dataset⟩ := d
  rw [← String.toList_inj]
  cases flavor <;>
    simp [-Int.toString_eq_repr, subtractMinutes, minutesBack, ShiftNotation.write, hliteral, hword,
      Literal.quote]

theorem hours_unit : d.hours.unit = 60 := by
  obtain ⟨flavor, project, dataset⟩ := d
  cases flavor <;> rfl

theorem minutesBack_unit : d.minutesBack.unit = -1 := by
  obtain ⟨flavor, project, dataset⟩ := d
  cases flavor <;> rfl

/-- Every shift by hours is read back, whatever the column is. -/
theorem readShift?_addHours (column : Sql) (n : Int) :
    d.readShift? (d.addHours column n).text = some ⟨column.text, n * 60⟩ := by
  rw [readShift?, addHours_text, ShiftNotation.read?_write _ _ (fun _ => inWhole_of_mem_toString)
    (readWhole?_toString n), hours_unit, Option.some_or]

/-- A shift by minutes is none by hours: it opens or closes with another word. -/
theorem hours_read?_minutesBack (column number : String) :
    d.hours.read? (d.minutesBack.write column number) = none := by
  obtain ⟨flavor, project, dataset⟩ := d
  cases flavor with
  | snowflake | bigquery | presto =>
    apply ShiftNotation.read?_of_opens
    simp [hours, minutesBack, ShiftNotation.write, List.dropPrefix?]
  | postgres | redshift | duckdb =>
    apply ShiftNotation.read?_of_closes
    intro rest heq
    have hreverse := congrArg List.reverse heq
    simp [hours, minutesBack, ShiftNotation.write] at hreverse

/-- Every shift back by minutes is read back, whatever the column is. -/
theorem readShift?_subtractMinutes (column : Sql) (n : Nat) :
    d.readShift? (d.subtractMinutes column n).text = some ⟨column.text, -n⟩ := by
  rw [readShift?, subtractMinutes_text, hours_read?_minutesBack, Option.none_or,
    ShiftNotation.read?_write _ _ (fun _ => inWhole_of_mem_toString) (readWhole?_toString n),
    minutesBack_unit, Int.mul_neg_one]

end Dialect

end SplitTest
