import SplitTest.Calendar.Lenient
import SplitTest.Proofs.Calendar.Instant
import SplitTest.Proofs.Calendar.Words

/-! Words of a date text as they are read. -/

namespace SplitTest.Lenient

open Text Word

/-! ### Words of digits -/

section Digits

variable {w : String} {n : Nat} (h : Digits w.toList n)
include h

theorem lower_of_digits : lower w = w := by
  have hmap : w.toList.map lowerChar = w.toList := by
    refine (List.map_congr_left fun c hc => ?_).trans (List.map_id _)
    obtain ⟨hlow, hhigh⟩ := isDigit_iff_toNat.mp (h.isDigit c hc)
    have hkelvin : c.toNat ≠ 0x212a := by omega
    have hcapital : ¬(c.val ≥ 'A'.val ∧ c.val ≤ 'Z'.val) := by
      simp [UInt32.le_iff_toNat_le]
      omega
    have hlower : c.toLower = c := dif_neg hcapital
    rw [lowerChar, if_neg hkelvin, hlower, id]
  rw [← String.toList_inj, lower, String.toList_map, hmap]

/-- No name in the list begins with a digit. -/
def areNames (names : List String) : Bool :=
  names.all fun name => !(name.toList.head?).any Char.isDigit

theorem contains_of_digits {names : List String} (hnames : areNames names = true) :
    names.contains (lower w) = false := by
  rw [lower_of_digits h]
  obtain ⟨c, cs, hw, hc, -⟩ := h.eq_cons
  refine Bool.eq_false_iff.mpr fun hmem => ?_
  have hfirst := List.all_eq_true.mp hnames w (List.contains_iff_mem.mp hmem)
  simp [hw, hc] at hfirst

theorem isFiller_of_digits : isFiller w = false :=
  contains_of_digits h (by decide +kernel)

theorem indexIn_of_digits {groups : List (List String)} (hgroups : groups.all areNames = true) :
    indexIn groups w = none :=
  List.findIdx?_eq_none_iff.mpr fun names hmem =>
    contains_of_digits h (List.all_eq_true.mp hgroups names hmem)

theorem month?_of_digits : month? w = none := by
  rw [month?, indexIn_of_digits h (by decide +kernel), Option.map_none]

theorem whole?_of_digits (hlimit : w.length ≤ digitLimit) : whole? w = some n := by
  have hne : w.isEmpty = false := by simpa using h.ne_nil
  rw [whole?, hne, if_neg Bool.false_ne_true, if_neg (by omega), h.mapM_digit?]

theorem read?_of_digits : Quantity.read? w = some ⟨n, 0⟩ := by
  obtain ⟨c, cs, hw, -⟩ := h.eq_cons
  have hvalue := h.ofDigits_map
  rw [Quantity.read?, h.map_asciiDigit, splitDigits_of_forall h.isDigit]
  rw [hw, List.map_cons] at hvalue ⊢
  simp only [hvalue]

theorem head?_of_digits : (w.toList.head?).any isDigit = true := by
  obtain ⟨c, cs, hw, hc, -⟩ := h.eq_cons
  rw [hw, List.head?_cons, Option.any_some, isDigit_of_isDigit hc]

theorem all_of_digits : w.toList.all isDigit = true :=
  List.all_eq_true.mpr fun c hc => isDigit_of_isDigit (h.isDigit c hc)

end Digits

/-! ### Numbers before a mark -/

/-- A number of two or four digits at a position, away from the names of units. -/
structure IsNumberAt (words : Array String) (i : Nat) (w : String) (n : Nat) : Prop where
  digits : Digits w.toList n
  length : w.length = 2 ∨ w.length = 4
  word : words[i]? = some w
  unit : unitAt words i = none

namespace IsNumberAt

variable {words : Array String} {i : Nat} {r : Reading} {w : String} {n : Nat}
  (h : IsNumberAt words i w n)
include h

theorem length_plain :
    w.length ≠ 6 ∧ ¬6 < w.length ∧ w.length ≠ 8 ∧ w.length ≠ 12 ∧ w.length ≠ 14 := by
  have hlength := h.length
  omega

theorem readNumber_eq_readJoined (hnext : words[i + 1]? = some "-")
    (hr : r.parts.numbers.length ≠ 3) : readNumber words i r = readJoined words i r "-" := by
  rw [readNumber, h.word, hnext]
  simp [read?_of_digits h.digits, hr, h.length_plain, h.unit]

theorem readNumber_eq_readClock (hnext : words[i + 1]? = some ":") (hsize : i + 2 < words.size) :
    readNumber words i r = readClock words i r ⟨n, 0⟩ := by
  rw [readNumber, h.word, hnext]
  simp [read?_of_digits h.digits, h.length_plain, h.unit, hsize]

end IsNumberAt

/-- Away from the names of units a number has none. -/
theorem unitAt_eq_none {words : Array String} {i : Nat}
    (hnext : (words[i + 1]?).bind unit? = none) (hspace : words[i + 1]? ≠ some " ")
    (hlast : 0 < i → (words[i - 1]?).bind unit? = none)
    (hend : i + 1 ≠ words.size) : unitAt words i = none := by
  simp only [unitAt, hnext, if_neg hspace]
  by_cases hi : 0 < i
  · simp [hi, hlast hi, hend]
  · simp [hi, show ¬1 < i by omega]

/-! ### The day -/

/-- A number of one or two digits may be any part of the date. -/
theorem Reading.addWord_of_short {w : String} {n : Nat} (hw : Digits w.toList n)
    (hlength : w.length = 2) (r : Reading) :
    r.addWord w none = some { r with parts.numbers := r.parts.numbers ++ [n] } := by
  have hwhole : whole? w = some n := whole?_of_digits hw (by rw [hlength]; decide)
  simp [addWord, DayParts.add, hwhole, hlength]

/-- What has been read after year, month and day of the month. -/
def Reading.dated (year month day : Nat) : Reading :=
  { Reading.start with parts := ⟨[year, month, day], some 0, none, true⟩ }

theorem readNumber_date {y m d : String} {year month day : Nat} (rest : List String)
    (hy : Digits y.toList year) (hm : Digits m.toList month) (hd : Digits d.toList day)
    (hylength : y.length = 4) (hmlength : m.length = 2) (hdlength : d.length = 2) :
    readNumber (y :: "-" :: m :: "-" :: d :: rest).toArray 0 .start =
      some (5, .dated year month day) := by
  have hyear : Reading.start.addWord y none =
      some { Reading.start with parts := ⟨[year], some 0, none, true⟩ } := by
    have hwhole : whole? y = some year := whole?_of_digits hy (by rw [hylength]; decide)
    simp [Reading.addWord, DayParts.add, hwhole, hylength, Reading.start, DayParts.none]
  have hmark : unit? "-" = none := by decide +kernel
  have hunit : unitAt (y :: "-" :: m :: "-" :: d :: rest).toArray 0 = none :=
    unitAt_eq_none hmark (by simp) (by simp) (by simp)
  have hnumber : IsNumberAt (y :: "-" :: m :: "-" :: d :: rest).toArray 0 y year :=
    ⟨hy, .inr hylength, rfl, hunit⟩
  rw [hnumber.readNumber_eq_readJoined rfl (by decide), readJoined]
  simp [hyear, isFiller_of_digits hm, all_of_digits hm, month?_of_digits hd,
    Reading.addWord_of_short hm hmlength, Reading.addWord_of_short hd hdlength,
    Reading.addWordOrMonth]
  rfl

/-! ### The clock -/

theorem seconds?_of_digits {w : String} {n : Nat} (hw : Digits w.toList n)
    (hlength : w.length ≤ digitLimit) : seconds? w = some (n, 0) := by
  rw [seconds?, List.splitOn_eq_singleton (dot_notMem_of_digits hw)]
  simp [whole?_of_digits hw hlength]

theorem seconds?_of_decimal {w f : String} {n m : Nat} (hw : Digits w.toList n)
    (hf : Digits f.toList m) (hlength : w.length ≤ digitLimit) (hplaces : f.length = 6) :
    seconds? (w ++ "." ++ f) = some (n, m) := by
  have hsplit : (w ++ "." ++ f).toList.splitOn '.' = [w.toList, f.toList] := by
    have hdot : ".".toList = ['.'] := rfl
    rw [String.toList_append, String.toList_append, hdot, List.append_assoc, List.singleton_append,
      List.splitOn_append_cons_self_of_not_mem (dot_notMem_of_digits hw),
      List.splitOn_eq_singleton (dot_notMem_of_digits hf)]
  have htake : (f.toList ++ List.replicate 6 '0').take 6 = f.toList :=
    List.take_left' (by rw [String.length_toList, hplaces])
  have hplacesLimit : f.length ≤ digitLimit := by
    rw [hplaces]
    decide
  rw [seconds?, hsplit]
  simp only [htake, String.ofList_toList, whole?_of_digits hw hlength,
    whole?_of_digits hf hplacesLimit]
  rfl

def Reading.clocked (r : Reading) (hour minute second micro : Nat) : Reading :=
  { r with hour := some hour, minute := some minute, second := some second, micro := some micro }

theorem readNumber_clock {words : Array String} {i : Nat} {h m s : String}
    {hour minute second micro : Nat} (hwords : words[i]? = some h ∧ words[i + 1]? = some ":" ∧
      words[i + 2]? = some m ∧ words[i + 3]? = some ":" ∧ words[i + 4]? = some s)
    (hbefore : 0 < i → (words[i - 1]?).bind unit? = none) (hh : Digits h.toList hour)
    (hm : Digits m.toList minute) (hlength : h.length = 2)
    (hs : seconds? s = some (second, micro)) (r : Reading) :
    readNumber words i r = some (i + 5, r.clocked hour minute second micro) := by
  obtain ⟨h0, h1, h2, h3, h4⟩ := hwords
  have hsize : i + 4 < words.size := (Array.getElem?_eq_some_iff.mp h4).1
  have hmark : (words[i + 1]?).bind unit? = none := by
    rw [h1]
    decide +kernel
  have hunit : unitAt words i = none :=
    unitAt_eq_none hmark (by simp [h1]) hbefore (by omega)
  have hnumber : IsNumberAt words i h hour := ⟨hh, .inl hlength, h0, hunit⟩
  rw [hnumber.readNumber_eq_readClock h1 (by omega), readClock]
  simp [h2, h3, h4, read?_of_digits hm, Reading.setMinutes, Reading.setSeconds, hs,
    Reading.clocked, Quantity.whole]

/-! ### Steps -/

/-- A word that is no number and names no weekday, no month and no half of the day. -/
structure IsNameless (w : String) : Prop where
  digit : (w.toList.head?).any isDigit = false
  number : isNoNumber w = false
  weekday : weekday? w = none
  month : month? w = none
  half : afternoon? w = none

instance (w : String) : Decidable (IsNameless w) :=
  decidable_of_iff ((w.toList.head?).any isDigit = false ∧ isNoNumber w = false ∧
      weekday? w = none ∧ month? w = none ∧ afternoon? w = none)
    ⟨fun ⟨h1, h2, h3, h4, h5⟩ => ⟨h1, h2, h3, h4, h5⟩,
      fun ⟨h1, h2, h3, h4, h5⟩ => ⟨h1, h2, h3, h4, h5⟩⟩

variable {reference : Reference}

theorem readFrom_end {words : Array String} {i : Nat} (h : words[i]? = none) (fuel : Nat)
    (r : Reading) : readFrom reference (fuel + 1) words i r = some r := by
  rw [readFrom, h]

section

variable {words : Array String} {i : Nat} {r : Reading} {w : String} (hword : words[i]? = some w)
  (fuel : Nat)
include hword

theorem readFrom_of_digits {n j : Nat} {r' : Reading} (hw : Digits w.toList n)
    (hread : readNumber words i r = some (j, r')) :
    readFrom reference (fuel + 1) words i r = readFrom reference fuel words j r' := by
  rw [readFrom, hword]
  simp only [head?_of_digits hw, if_true, hread, Option.bind_some]

/-- A nameless word can only be the name of a zone, the sign of an offset or a filler. -/
theorem readFrom_of_nameless (hw : IsNameless w) : readFrom reference (fuel + 1) words i r =
    if r.canNameZone r.zoneOffset w then
      readFrom reference fuel (readZone words i r w).1 (readZone words i r w).2.1
        (readZone words i r w).2.2
    else if r.hour.isSome && (w == "+" || w == "-") then
      (readOffset words i r (if w == "+" then 1 else -1)).bind fun p =>
        readFrom reference fuel words p.1 p.2
    else if isFiller w then readFrom reference fuel words (i + 1) r
    else none := by
  rw [readFrom, hword]
  simp only [hw.digit, hw.number, hw.weekday, hw.month, hw.half, Bool.false_eq_true, if_false]

theorem readFrom_of_filler (hw : IsNameless w ∧ isFiller w = true)
    (hzone : r.hour = none ∨ looksLikeZone w = false ∧ w ≠ "+" ∧ w ≠ "-") :
    readFrom reference (fuel + 1) words i r = readFrom reference fuel words (i + 1) r := by
  obtain ⟨hnameless, hfiller⟩ := hw
  have hname : r.canNameZone r.zoneOffset w = false := by
    rcases hzone with hhour | ⟨hzone, -, -⟩
    · simp [Reading.canNameZone, hhour]
    · simp [Reading.canNameZone, hzone]
  have hsign : (r.hour.isSome && (w == "+" || w == "-")) = false := by
    rcases hzone with hhour | ⟨-, hplus, hminus⟩
    · simp [hhour]
    · simp [hplus, hminus]
  rw [readFrom_of_nameless hword fuel hnameless, hname, hsign, hfiller]
  rfl

variable {hour : Nat} (hhour : r.hour = some hour)
include hhour

/-- The name of a zone at the end of the text. -/
theorem readFrom_of_zone (hname : r.zoneName = none) (hoffset : r.zoneOffset = none)
    (hw : IsNameless w ∧ looksLikeZone w = true ∧ w ≠ "z")
    (hend : words[i + 1]? = none) :
    readFrom reference (fuel + 2) words i r = some { r with zoneName := some w } := by
  obtain ⟨hnameless, hzone, hz⟩ := hw
  have hcan : r.canNameZone r.zoneOffset w = true := by
    simp [Reading.canNameZone, hhour, hname, hoffset, hzone]
  have hread : readZone words i r w = (words, i + 1, { r with zoneName := some w }) := by
    simp [readZone, hend, hz, ← hoffset]
  rw [readFrom_of_nameless hword (fuel + 1) hnameless, if_pos hcan, hread]
  exact readFrom_end hend fuel _

theorem readFrom_of_sign {j : Nat} {r' : Reading}
    (hw : IsNameless w ∧ looksLikeZone w = false ∧ (w = "+" ∨ w = "-"))
    (hread : readOffset words i r (if w = "+" then 1 else -1) = some (j, r')) :
    readFrom reference (fuel + 1) words i r = readFrom reference fuel words j r' := by
  obtain ⟨hnameless, hzone, hsign⟩ := hw
  have hcan : r.canNameZone r.zoneOffset w = false := by
    simp [Reading.canNameZone, hzone]
  rw [readFrom_of_nameless hword fuel hnameless, hcan]
  simp [hhour, hsign, hread]

end

theorem readOffset_minutes {words : Array String} {i : Nat} {r : Reading} {h m : String}
    {hours minutes : Nat} (sign : Int) (hwords : words[i + 1]? = some h ∧
      words[i + 2]? = some ":" ∧ words[i + 3]? = some m ∧ words[i + 4]? = none)
    (hh : Digits h.toList hours) (hm : Digits m.toList minutes) (hhlength : h.length = 2)
    (hmlength : m.length = 2) :
    readOffset words i r sign =
      some (i + 4, { r with zoneOffset := some (sign * (hours * 3600 + minutes * 60 : Nat)) }) := by
  obtain ⟨h1, h2, h3, h4⟩ := hwords
  have hhours : whole? h = some hours := whole?_of_digits hh (by rw [hhlength]; decide)
  have hminutes : whole? m = some minutes := whole?_of_digits hm (by rw [hmlength]; decide)
  rw [readOffset]
  simp [h1, h2, h3, h4, hhlength, hhours, hminutes]

theorem readOffset_hours {words : Array String} {i : Nat} {r : Reading} {h : String} {hours : Nat}
    (sign : Int) (hwords : words[i + 1]? = some h ∧ words[i + 2]? = none)
    (hh : Digits h.toList hours) (hlength : h.length = 2) :
    readOffset words i r sign =
      some (i + 2, { r with zoneOffset := some (sign * (hours * 3600 : Nat)) }) := by
  obtain ⟨h1, h2⟩ := hwords
  have hhours : whole? h = some hours := whole?_of_digits hh (by rw [hlength]; decide)
  rw [readOffset]
  simp [h1, h2, hlength, hhours]

/-! ### The time that was read -/

theorem read?_of_split {s : String} {words : List String} {r : Reading}
    (hsplit : Word.split s = words)
    (hread : readFrom reference (words.length + 1) words.toArray 0 .start = some r)
    (hnonempty : isNonempty r = true) : read? reference s = build reference r := by
  rw [read?, hsplit, List.size_toArray, hread]
  exact if_pos hnonempty

/-- The day is put together from its parts, as a time of the parts of the clock and the offset. -/
theorem build_dated {r : Reading} {d : Date}
    (hparts : r.parts = (Reading.dated d.year d.month d.dayOfMonth).parts)
    (hweekday : r.weekday = none) (hoffset : ∀ offset ∈ offsetOf r, offset.natAbs < secondsPerDay) :
    build reference r = DateTime.ofFields? d (r.hour.getD 0) (r.minute.getD 0) (r.second.getD 0)
      (r.micro.getD 0) (offsetOf r) := by
  have hresolve : r.parts.resolve = some ⟨d.year, d.month, d.dayOfMonth⟩ := by
    simp [hparts, Reading.dated, DayParts.resolve, DayParts.resolveLabelled]
  have hyear : fullYear reference d.year r.parts.fullYear = d.year := by
    simp [fullYear, hparts, Reading.dated]
  have hbound : (offsetOf r).any (fun o => o / 86400 < -offsetDays || offsetDays < o / 86400) =
      false := by
    cases h : offsetOf r with
    | none => rfl
    | some offset =>
      have hlt : offset.natAbs < 86400 := hoffset offset h
      simp only [Option.any_some, Bool.or_eq_false_iff, decide_eq_false_iff_not]
      unfold offsetDays
      omega
  rw [build, hresolve]
  simp [hyear, Date.ofFields?_fields, hweekday, hbound]

end SplitTest.Lenient
