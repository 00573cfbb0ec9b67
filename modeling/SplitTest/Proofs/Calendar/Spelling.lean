import SplitTest.Proofs.Calendar.Reading
import SplitTest.Sql

/-! The forms in which times are written: day and clock with a separator between, a fraction of six
digits or none, and the zone in one of several spellings.  Every such text is read as the time that
it spells. -/

namespace SplitTest

open Text Word

/-- How the zone stands at the end of a time. -/
inductive ZoneSpelling
  | absent
  | zulu
  | utc
  | hours (east : Bool) (hours : Fin 24)
  | minutes (east : Bool) (hours : Fin 24) (minutes : Fin 60)

namespace ZoneSpelling

def sign (east : Bool) : String := if east then "+" else "-"

def text : ZoneSpelling → String
  | absent => ""
  | zulu => "Z"
  | utc => " UTC"
  | hours east h => sign east ++ zeroPad 2 h
  | minutes east h m => sign east ++ zeroPad 2 h ++ ":" ++ zeroPad 2 m

def words : ZoneSpelling → List String
  | absent => []
  | zulu => ["Z"]
  | utc => [" ", "UTC"]
  | hours east h => [sign east, zeroPad 2 h]
  | minutes east h m => [sign east, zeroPad 2 h, ":", zeroPad 2 m]

/-- The offset that is spelled, in seconds. -/
def offset : ZoneSpelling → Option Int
  | absent => none
  | zulu | utc => some 0
  | hours east h => some ((if east then 1 else -1) * (h * 3600 : Nat))
  | minutes east h m => some ((if east then 1 else -1) * (h * 3600 + m * 60 : Nat))

theorem natAbs_lt (z : ZoneSpelling) : ∀ offset ∈ z.offset, offset.natAbs < secondsPerDay := by
  unfold secondsPerDay
  cases z with
  | absent => simp [offset]
  | zulu | utc => simp [offset]
  | hours east h =>
    rintro _ ⟨⟩
    cases east <;> simp <;> omega
  | minutes east h m =>
    rintro _ ⟨⟩
    cases east <;> simp <;> omega

end ZoneSpelling

/-! ### Characters -/

theorem toList_hyphen : "-".toList = ['-'] := rfl

theorem toList_colon : ":".toList = [':'] := rfl

theorem Date.toList_textWith (d : Date) (w : Nat) (rest : List Char) :
    (d.textWith w).toList ++ rest = (zeroPad w d.year).toList ++
      '-' :: ((zeroPad 2 d.month).toList ++ '-' :: ((zeroPad 2 d.dayOfMonth).toList ++ rest)) := by
  simp only [textWith, String.toList_append, List.append_assoc]
  rw [toList_hyphen, List.singleton_append, List.singleton_append]

theorem DateTime.toList_clockText (t : DateTime) (rest : List Char) :
    t.clockText.toList ++ rest = (zeroPad 2 t.hour).toList ++
      ':' :: ((zeroPad 2 t.minute).toList ++
        ':' :: ((zeroPad 2 t.secondOfMinute).toList ++ rest)) := by
  simp only [clockText, String.toList_append, List.append_assoc]
  rw [toList_colon, List.singleton_append, List.singleton_append]

/-! ### Words -/

namespace Word

/-- A mark that is a word of its own and stands after numbers. -/
def IsMark (c : Char) : Prop :=
  isLetter c = false ∧ isDigit c = false ∧ isBlank c = false ∧ c ≠ '.' ∧ c ≠ ','

instance (c : Char) : Decidable (IsMark c) := by
  unfold IsMark
  infer_instance

theorem length_two {n : Nat} (h : n < 100) : (zeroPad 2 n).length = 2 := by
  rw [← String.length_toList]
  exact length_zeroPad (by decide) h

theorem splitFrom_number_mark {ds : List Char} {n : Nat} (hds : Digits ds n) {c : Char}
    (hc : IsMark c) (rest : List Char) :
    splitFrom none (ds ++ c :: rest) = ds :: [c] :: splitFrom none rest := by
  obtain ⟨hletter, hdigit, hblank, hdot, hcomma⟩ := hc
  rw [splitFrom_digits hds (.cons ⟨hdigit, hdot, hcomma⟩ rest), splitFrom_mark hletter hdigit,
    hblank, if_neg Bool.false_ne_true]

theorem isMark_hyphen : IsMark '-' := by decide

theorem isMark_colon : IsMark ':' := by decide

/-- A text without the null character, which `split` drops, and without quotes. -/
def Clear (s : String) : Prop := ∀ c ∈ s.toList, c.toNat ≠ 0 ∧ c ≠ Literal.quote

-- Over the list of the characters, not over the type of all characters.
instance (s : String) : Decidable (Clear s) :=
  decidable_of_iff (s.toList.all fun c => c.toNat != 0 && c != Literal.quote) (by simp [Clear])

theorem Clear.append {s s' : String} (h : Clear s) (h' : Clear s') :
    Clear (s ++ s') := by
  intro c hc
  rw [String.toList_append] at hc
  exact (List.mem_append.mp hc).elim (h c) (h' c)

theorem Clear.zeroPad (w n : Nat) : Clear (zeroPad w n) := by
  intro c hc
  obtain ⟨hlow, -⟩ := isDigit_iff_toNat.mp ((Digits.zeroPad w n).isDigit c hc)
  refine ⟨by omega, ?_⟩
  rintro rfl
  exact absurd hlow (by decide)

theorem split_of_clear {s : String} (h : Clear s) :
    split s = (splitFrom none s.toList).map String.ofList := by
  have hfilter : s.toList.filter (·.toNat != 0) = s.toList :=
    List.filter_eq_self.mpr fun c hc => bne_iff_ne.mpr (h c hc).1
  rw [split, hfilter]

theorem Clear.date (w : Nat) (d : Date) : Clear (d.textWith w) :=
  have hhyphen : Clear "-" := by decide
  ((((zeroPad w d.year).append hhyphen).append (zeroPad 2 d.month)).append hhyphen).append
    (zeroPad 2 d.dayOfMonth)

theorem Clear.clock (t : DateTime) : Clear t.clockText :=
  have hcolon : Clear ":" := by decide
  ((((zeroPad 2 t.hour).append hcolon).append (zeroPad 2 t.minute)).append hcolon).append
    (zeroPad 2 t.secondOfMinute)

theorem Clear.zone (z : ZoneSpelling) : Clear z.text := by
  have hsign (east : Bool) : Clear (ZoneSpelling.sign east) := by
    cases east <;> decide
  have hcolon : Clear ":" := by decide
  cases z with
  | absent | zulu | utc => decide
  | hours east h => exact (hsign east).append (zeroPad 2 h)
  | minutes east h m =>
    exact (((hsign east).append (zeroPad 2 h)).append hcolon).append (zeroPad 2 m)

theorem splitFrom_date (d : Date) {rest : List Char} (hrest : EndsNumber rest) :
    splitFrom none (d.isoText.toList ++ rest) =
      [zeroPad 4 d.year, "-", zeroPad 2 d.month, "-", zeroPad 2 d.dayOfMonth].map String.toList ++
        splitFrom none rest := by
  rw [Date.isoText, Date.toList_textWith, splitFrom_number_mark (.zeroPad _ _) isMark_hyphen,
    splitFrom_number_mark (.zeroPad _ _) isMark_hyphen, splitFrom_digits (.zeroPad _ _) hrest]
  simp only [List.map_cons, List.map_nil, List.cons_append, List.nil_append, toList_hyphen]

theorem splitFrom_clock (t : DateTime) (rest : List Char) :
    splitFrom none (t.clockText.toList ++ rest) =
      [zeroPad 2 t.hour, ":", zeroPad 2 t.minute, ":"].map String.toList ++
        splitFrom none ((zeroPad 2 t.secondOfMinute).toList ++ rest) := by
  rw [DateTime.toList_clockText, splitFrom_number_mark (.zeroPad _ _) isMark_colon,
    splitFrom_number_mark (.zeroPad _ _) isMark_colon]
  simp only [List.map_cons, List.map_nil, List.cons_append, List.nil_append, toList_colon]

theorem toList_sign (east : Bool) :
    (ZoneSpelling.sign east).toList = [if east then '+' else '-'] := by
  cases east <;> rfl

theorem splitFrom_sign (east : Bool) (rest : List Char) :
    splitFrom none ((ZoneSpelling.sign east).toList ++ rest) =
      (ZoneSpelling.sign east).toList :: splitFrom none rest := by
  obtain ⟨hletter, hdigit, hblank, -⟩ : IsMark (if east then '+' else '-') := by
    cases east <;> decide
  rw [toList_sign, List.singleton_append, splitFrom_mark hletter hdigit, hblank,
    if_neg Bool.false_ne_true]

theorem endsNumber_zone (z : ZoneSpelling) : EndsNumber z.text.toList := by
  have hsign (east : Bool) (cs : List Char) :
      EndsNumber ((ZoneSpelling.sign east).toList ++ cs) := by
    rw [toList_sign, List.singleton_append]
    exact .cons (by cases east <;> decide) cs
  cases z with
  | absent => exact .nil
  | zulu => exact .cons (c := 'Z') (by decide) []
  | utc => exact .cons (c := ' ') (by decide) ['U', 'T', 'C']
  | hours east h =>
    rw [ZoneSpelling.text, String.toList_append]
    exact hsign east _
  | minutes east h m =>
    simp only [ZoneSpelling.text, String.toList_append, List.append_assoc]
    exact hsign east _

theorem splitFrom_zone (z : ZoneSpelling) :
    splitFrom none z.text.toList = z.words.map String.toList := by
  have hnumber (n : Nat) : splitFrom none (zeroPad 2 n).toList = [(zeroPad 2 n).toList] := by
    have h := splitFrom_digits (.zeroPad 2 n) .nil
    rwa [List.append_nil, splitFrom] at h
  cases z with
  | absent | zulu | utc => decide
  | hours east h =>
    rw [ZoneSpelling.text, String.toList_append, splitFrom_sign, hnumber]
    rfl
  | minutes east h m =>
    simp only [ZoneSpelling.text, String.toList_append, List.append_assoc]
    rw [splitFrom_sign, toList_colon, List.singleton_append,
      splitFrom_number_mark (.zeroPad _ _) isMark_colon, hnumber]
    rfl

end Word

/-- A form in which times are written. -/
structure TimeSpelling where
  /-- Day and clock are joined by a space and not by a letter. -/
  spaced : Bool
  /-- The fraction of the second is written, with six digits. -/
  fraction : Bool
  zone : ZoneSpelling

namespace TimeSpelling

variable (form : TimeSpelling) (t : DateTime)

def separator : String := if form.spaced then " " else "T"

def fractionText : String := if form.fraction then "." ++ zeroPad 6 t.micro else ""

def text : String :=
  t.date.isoText ++ form.separator ++ t.clockText ++ form.fractionText t ++ form.zone.text

/-- The time that the text tells. -/
def meaning : DateTime :=
  { t with
    micro := if form.fraction then t.micro else t.truncated.micro
    offset := form.zone.offset }

def words : List String :=
  [zeroPad 4 t.date.year, "-", zeroPad 2 t.date.month, "-", zeroPad 2 t.date.dayOfMonth,
    form.separator, zeroPad 2 t.hour, ":", zeroPad 2 t.minute, ":",
    zeroPad 2 t.secondOfMinute ++ form.fractionText t] ++ form.zone.words

theorem toList_separator : form.separator.toList = [if form.spaced then ' ' else 'T'] := by
  unfold separator
  cases form.spaced <;> rfl

theorem endsNumber_separator (rest : List Char) :
    EndsNumber (form.separator.toList ++ rest) := by
  rw [toList_separator, List.singleton_append]
  exact .cons (by cases form.spaced <;> decide) rest

theorem splitFrom_separator (rest : List Char) :
    splitFrom none (form.separator.toList ++ (t.clockText.toList ++ rest)) =
      form.separator.toList :: splitFrom none (t.clockText.toList ++ rest) := by
  rw [toList_separator, List.singleton_append]
  cases form.spaced
  · rw [DateTime.toList_clockText]
    exact splitFrom_letter (by decide) (.zeroPad 2 t.hour) _
  · exact splitFrom_mark (by decide) (by decide) _

theorem splitFrom_seconds :
    splitFrom none ((zeroPad 2 t.secondOfMinute).toList ++
        ((form.fractionText t).toList ++ form.zone.text.toList)) =
      (zeroPad 2 t.secondOfMinute ++ form.fractionText t).toList ::
        form.zone.words.map String.toList := by
  have hend := endsNumber_zone form.zone
  rw [String.toList_append, ← splitFrom_zone, fractionText]
  cases form.fraction
  · simpa using splitFrom_digits (.zeroPad 2 t.secondOfMinute) hend
  · have hdot : ".".toList = ['.'] := rfl
    simpa [hdot] using splitFrom_decimal (.zeroPad 2 t.secondOfMinute) (.zeroPad 6 t.micro) hend

theorem clear : Clear (form.text t) := by
  have hseparator : Clear form.separator := by
    unfold separator
    cases form.spaced <;> decide
  have hfraction : Clear (form.fractionText t) := by
    unfold fractionText
    cases form.fraction
    · exact fun c hc => by simp at hc
    · exact Clear.append (by decide) (.zeroPad 6 t.micro)
  exact ((((Clear.date 4 t.date).append hseparator).append (.clock t)).append hfraction).append
    (.zone form.zone)

theorem split_text : split (form.text t) = form.words t := by
  rw [split_of_clear (form.clear t), text]
  simp only [String.toList_append, List.append_assoc]
  rw [splitFrom_date t.date (form.endsNumber_separator _), splitFrom_separator, splitFrom_clock,
    splitFrom_seconds]
  simp [words, Function.comp_def]

end TimeSpelling

/-! ### Reading the words -/

namespace Lenient

variable {reference : Reference}

/-- The zone at the end of the words gives its offset. -/
theorem readFrom_zone {words : Array String} {i : Nat} {r : Reading} {hour : Nat} (z : ZoneSpelling)
    (hwords : ∀ k, words[i + k]? = z.words[k]?) (hhour : r.hour = some hour)
    (hname : r.zoneName = none) (hoffset : r.zoneOffset = none) (fuel : Nat) :
    ∃ name offset, readFrom reference (fuel + 3) words i r =
        some { r with zoneName := name, zoneOffset := offset } ∧
      offsetOf { r with zoneName := name, zoneOffset := offset } = z.offset := by
  have hutc (w : String) (h : isUtcName w = true) :
      offsetOf { r with zoneName := some w, zoneOffset := none } = some 0 := by
    simp [offsetOf, h]
  have hsign (east : Bool) : IsNameless (ZoneSpelling.sign east) ∧
      looksLikeZone (ZoneSpelling.sign east) = false ∧
      (ZoneSpelling.sign east = "+" ∨ ZoneSpelling.sign east = "-") := by
    revert east
    decide +kernel
  have hfactor (east : Bool) :
      (if ZoneSpelling.sign east = "+" then 1 else -1 : Int) = if east then 1 else -1 := by
    cases east <;> rfl
  have hfirst := hwords 0
  rw [Nat.add_zero] at hfirst
  -- Three steps are enough: two for the words of the longest spelling and one for the end.
  cases z with
  | absent =>
    refine ⟨none, none, ?_, rfl⟩
    rw [readFrom_end hfirst, ← hname, ← hoffset]
  | zulu =>
    refine ⟨some "Z", none, ?_, hutc "Z" (by decide +kernel)⟩
    rw [readFrom_of_zone hfirst (fuel + 1) hhour hname hoffset (by decide +kernel) (hwords 1),
      hoffset]
  | utc =>
    refine ⟨some "UTC", none, ?_, hutc "UTC" (by decide +kernel)⟩
    rw [readFrom_of_filler hfirst (fuel + 2) (by decide +kernel) (.inr (by decide +kernel)),
      readFrom_of_zone (hwords 1) fuel hhour hname hoffset (by decide +kernel) (hwords 2), hoffset]
  | hours east h =>
    refine ⟨none, _, ?_, rfl⟩
    have hread := readOffset_hours (r := r) (if ZoneSpelling.sign east = "+" then 1 else -1)
      ⟨hwords 1, hwords 2⟩ (.zeroPad 2 h) (length_two (by omega))
    rw [readFrom_of_sign hfirst (fuel + 2) hhour (hsign east) hread, readFrom_end (hwords 2),
      hfactor, hname]
  | minutes east h m =>
    refine ⟨none, _, ?_, rfl⟩
    have hread := readOffset_minutes (r := r) (if ZoneSpelling.sign east = "+" then 1 else -1)
      ⟨hwords 1, hwords 2, hwords 3, hwords 4⟩ (.zeroPad 2 h) (.zeroPad 2 m)
      (length_two (by omega)) (length_two (by omega))
    rw [readFrom_of_sign hfirst (fuel + 2) hhour (hsign east) hread, readFrom_end (hwords 4),
      hfactor, hname]

section

variable (d : Date)

theorem length_year : (zeroPad 4 d.year).length = 4 := by
  have hle := d.year_le
  rw [← String.length_toList]
  exact length_zeroPad (by decide) (by omega)

theorem readFrom_date (rest : List String) (fuel : Nat) :
    let words :=
      zeroPad 4 d.year :: "-" :: zeroPad 2 d.month :: "-" :: zeroPad 2 d.dayOfMonth :: rest
    readFrom reference (fuel + 1) words.toArray 0 .start =
      readFrom reference fuel words.toArray 5 (.dated d.year d.month d.dayOfMonth) := by
  have hmonth : d.month < 100 := Nat.lt_of_le_of_lt d.month_le (by decide)
  have hday : d.dayOfMonth < 100 := Nat.lt_of_le_of_lt d.dayOfMonth_le (by decide)
  exact readFrom_of_digits rfl fuel (.zeroPad 4 d.year) (readNumber_date rest (.zeroPad 4 d.year)
    (.zeroPad 2 d.month) (.zeroPad 2 d.dayOfMonth) (length_year d) (length_two hmonth)
    (length_two hday))

/-- A day alone is read as its start. -/
theorem read?_date : read? reference d.isoText = some ⟨d, ⟨0, by decide⟩, 0, none⟩ := by
  have hsplit : split d.isoText =
      [zeroPad 4 d.year, "-", zeroPad 2 d.month, "-", zeroPad 2 d.dayOfMonth] := by
    have h := splitFrom_date d .nil
    rw [List.append_nil, splitFrom, List.append_nil] at h
    rw [Date.isoText, split_of_clear (.date 4 d), ← Date.isoText, h]
    simp
  rw [read?_of_split hsplit ((readFrom_date d [] 5).trans (readFrom_end rfl 4 _)) rfl,
    build_dated rfl rfl (by simp [offsetOf, Reading.dated, Reading.start])]
  simp [Reading.dated, Reading.start, offsetOf, DateTime.ofFields?]

end

section

variable (form : TimeSpelling) (t : DateTime)

/-- What has been read of a time before its zone. -/
def Reading.timed : Reading :=
  (Reading.dated t.date.year t.date.month t.date.dayOfMonth).clocked t.hour t.minute
    t.secondOfMinute (form.meaning t).micro.val

theorem readFrom_time (fuel : Nat) :
    readFrom reference (fuel + 3) (form.words t).toArray 0 .start =
      readFrom reference fuel (form.words t).toArray 11 (.timed form t) := by
  have hhour : t.hour < 100 := by
    have hlt : t.second.val < 86400 := t.second.isLt
    unfold DateTime.hour
    omega
  have hseconds : seconds? (zeroPad 2 t.secondOfMinute ++ form.fractionText t) =
      some (t.secondOfMinute, (form.meaning t).micro.val) := by
    have hsecond : t.secondOfMinute < 100 := by
      unfold DateTime.secondOfMinute
      omega
    have hlimit : (zeroPad 2 t.secondOfMinute).length ≤ digitLimit := by
      rw [length_two hsecond]
      decide
    unfold TimeSpelling.fractionText TimeSpelling.meaning
    cases form.fraction
    · simpa using seconds?_of_digits (.zeroPad 2 t.secondOfMinute) hlimit
    · have hplaces : (zeroPad 6 t.micro).length = 6 := by
        rw [← String.length_toList]
        exact length_zeroPad (by decide) t.micro.isLt
      simpa [← String.append_assoc] using seconds?_of_decimal (.zeroPad 2 t.secondOfMinute)
        (.zeroPad 6 t.micro) hlimit hplaces
  have hfiller : IsNameless form.separator ∧ isFiller form.separator = true := by
    unfold TimeSpelling.separator
    cases form.spaced <;> decide +kernel
  have hbefore : unit? form.separator = none := by
    unfold TimeSpelling.separator
    cases form.spaced <;> decide +kernel
  have hclock : readNumber (form.words t).toArray 6
      (.dated t.date.year t.date.month t.date.dayOfMonth) = some (11, .timed form t) := by
    refine readNumber_clock ⟨rfl, rfl, rfl, rfl, rfl⟩ ?_ (.zeroPad 2 t.hour)
      (.zeroPad 2 t.minute) (length_two hhour) hseconds _
    exact fun _ => hbefore
  calc readFrom reference (fuel + 3) (form.words t).toArray 0 .start
    _ = readFrom reference (fuel + 2) (form.words t).toArray 5
        (.dated t.date.year t.date.month t.date.dayOfMonth) := readFrom_date t.date _ (fuel + 2)
    _ = readFrom reference (fuel + 1) (form.words t).toArray 6
        (.dated t.date.year t.date.month t.date.dayOfMonth) :=
      readFrom_of_filler rfl (fuel + 1) hfiller (.inl rfl)
    _ = readFrom reference fuel (form.words t).toArray 11 (.timed form t) :=
      readFrom_of_digits rfl fuel (.zeroPad 2 t.hour) hclock

/-- A time in any form is read as what it tells. -/
theorem read?_text : read? reference (form.text t) = some (form.meaning t) := by
  have hzone (k : Nat) : (form.words t).toArray[11 + k]? = form.zone.words[k]? := by
    rw [Nat.add_comm, List.getElem?_toArray]
    rfl
  obtain ⟨name, offset, hread, hoffset⟩ :=
    readFrom_zone (r := .timed form t) form.zone hzone rfl rfl rfl (form.zone.words.length + 6)
  have hwords : readFrom reference ((form.words t).length + 1) (form.words t).toArray 0 .start =
      some { Reading.timed form t with zoneName := name, zoneOffset := offset } :=
    (readFrom_time form t _).trans hread
  have hlt := form.zone.natAbs_lt
  rw [← hoffset] at hlt
  rw [read?_of_split (form.split_text t) hwords rfl,
    build_dated (d := t.date) (by rfl) (by rfl) hlt, hoffset]
  exact DateTime.ofFields?_fields (form.meaning t) form.zone.offset

end

end Lenient

end SplitTest
