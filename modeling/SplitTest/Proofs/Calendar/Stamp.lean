import SplitTest.Dialect
import SplitTest.Proofs.Calendar.Spelling
import SplitTest.Proofs.Sql.Scan

/-! Stamps.  The literal of a time holds the stamp of its counterpart in UTC, from which day and
clock can be told; so two literals are the same exactly if the times are the same instant to the
second. -/

namespace SplitTest

open Text

/-- A year of four digits is written without leading zeros. -/
theorem Date.textWith_zero {d : Date} (h : 1000 ≤ d.year) : d.textWith 0 = d.isoText := by
  have hlength : 4 ≤ (natText d.year).length := by
    have hnot : ¬(natText d.year).length ≤ 3 := by
      rw [natText, Nat.toString_eq_repr, Nat.length_repr_le_iff (by decide)]
      omega
    omega
  have hyear : zeroPad 0 d.year = zeroPad 4 d.year := by
    rw [← String.toList_inj, toList_zeroPad, toList_zeroPad, Nat.zero_sub,
      Nat.sub_eq_zero_of_le hlength]
  rw [isoText, textWith, textWith, hyear]

/-- The form of a stamp. -/
def TimeSpelling.stamp : TimeSpelling := ⟨true, false, .absent⟩

theorem DateTime.stampText_eq {t : DateTime} (h : 1000 ≤ t.date.year) :
    t.stampText = TimeSpelling.stamp.text t := by
  have hend (s : String) : s ++ "" ++ "" = s := by simp
  rw [stampText, Date.textWith_zero h]
  exact (hend _).symm

namespace Literal

theorem encode_of_clear {s : String} (h : Word.Clear s) :
    encode s = String.singleton quote ++ s ++ String.singleton quote :=
  encode_of_notMem fun hmem => (h quote hmem).2 rfl

end Literal

theorem Word.Clear.stamp (t : DateTime) : Clear t.stampText :=
  ((Clear.date 0 t.date).append (by decide)).append (.clock t)

/-! ### Stamps told apart -/

/-- What stands before the first occurrence of a character is told from what stands after it. -/
theorem append_cons_inj_of_first {c : Char} {cs ds rest rest' : List Char} (hcs : c ∉ cs)
    (hds : c ∉ ds) (h : cs ++ c :: rest = ds ++ c :: rest') : cs = ds ∧ rest = rest' := by
  induction cs generalizing ds with
  | nil =>
    cases ds with
    | nil => exact ⟨rfl, List.tail_eq_of_cons_eq h⟩
    | cons d ds => exact absurd (List.head_eq_of_cons_eq h ▸ List.mem_cons_self) hds
  | cons a cs ih =>
    cases ds with
    | nil => exact absurd (List.head_eq_of_cons_eq h ▸ List.mem_cons_self) hcs
    | cons d ds =>
      obtain ⟨rfl, htail⟩ := List.cons.inj h
      obtain ⟨rfl, hrest⟩ := ih (mt (List.mem_cons_of_mem _) hcs) (mt (List.mem_cons_of_mem _) hds)
        htail
      exact ⟨rfl, hrest⟩

/-- A number is told from the text up to the first character that is no digit. -/
theorem Digits.append_cons_inj {cs ds rest rest' : List Char} {n m : Nat} {c : Char}
    (hcs : Digits cs n) (hds : Digits ds m) (hc : c.isDigit = false)
    (h : cs ++ c :: rest = ds ++ c :: rest') : n = m ∧ rest = rest' := by
  have hnot {cs : List Char} {n : Nat} (hcs : Digits cs n) : c ∉ cs := fun hmem =>
    absurd (hcs.isDigit c hmem) (by simp [hc])
  obtain ⟨rfl, rfl⟩ := append_cons_inj_of_first (hnot hcs) (hnot hds) h
  exact ⟨hcs.value.symm.trans hds.value, rfl⟩

theorem DateTime.toList_stampText (t : DateTime) :
    t.stampText.toList = (zeroPad 0 t.date.year).toList ++
      '-' :: ((zeroPad 2 t.date.month).toList ++ '-' :: ((zeroPad 2 t.date.dayOfMonth).toList ++
        ' ' :: ((zeroPad 2 t.hour).toList ++ ':' :: ((zeroPad 2 t.minute).toList ++
          ':' :: (zeroPad 2 t.secondOfMinute).toList)))) := by
  have hspace : " ".toList = [' '] := rfl
  have hclock := t.toList_clockText []
  rw [List.append_nil, List.append_nil] at hclock
  rw [stampText, String.toList_append, String.toList_append, List.append_assoc,
    Date.toList_textWith, hspace, List.singleton_append, hclock]

theorem DateTime.stampText_inj {t u : DateTime} (hoffset : t.offset = u.offset)
    (hmicro : t.micro = u.micro) (h : t.stampText = u.stampText) : t = u := by
  have hchars := congrArg String.toList h
  rw [toList_stampText, toList_stampText] at hchars
  obtain ⟨hyear, hchars⟩ := (Digits.zeroPad _ _).append_cons_inj (.zeroPad _ _) (by decide) hchars
  obtain ⟨hmonth, hchars⟩ := (Digits.zeroPad _ _).append_cons_inj (.zeroPad _ _) (by decide) hchars
  obtain ⟨hday, hchars⟩ := (Digits.zeroPad _ _).append_cons_inj (.zeroPad _ _) (by decide) hchars
  obtain ⟨hhour, hchars⟩ := (Digits.zeroPad _ _).append_cons_inj (.zeroPad _ _) (by decide) hchars
  obtain ⟨hminute, hchars⟩ := (Digits.zeroPad _ _).append_cons_inj (.zeroPad _ _) (by decide) hchars
  have hsecond : t.secondOfMinute = u.secondOfMinute := by
    rw [← (Digits.zeroPad 2 t.secondOfMinute).value, hchars, (Digits.zeroPad 2 _).value]
  have hdate : t.date = u.date := by
    have ht := t.date.ofFields?_fields
    rw [hyear, hmonth, hday, u.date.ofFields?_fields] at ht
    exact (Option.some.inj ht).symm
  have hclock : t.second = u.second := by
    have ht := t.ofFields?_fields none
    rw [hhour, hminute, hsecond, hmicro, hdate, u.ofFields?_fields] at ht
    exact (congrArg DateTime.second (Option.some.inj ht)).symm
  cases t
  cases u
  exact (DateTime.mk.injEq ..).mpr ⟨hdate, hclock, hmicro, hoffset⟩

/-- Two times without fractions of a second have the same stamp in UTC exactly if they are the same
instant. -/
theorem DateTime.stampText_eq_iff {t t' u u' : DateTime} (ht : t.toUtc = .ok u)
    (ht' : t'.toUtc = .ok u') (hmicro : t.micro = t'.micro) :
    u.stampText = u'.stampText ↔ SameInstant t t' := by
  obtain ⟨-, hu, hsame⟩ := toUtc_eq_ok_iff.mp ht
  obtain ⟨-, hu', hsame'⟩ := toUtc_eq_ok_iff.mp ht'
  constructor
  · intro hstamp
    have hmicro' : u.micro = u'.micro := by rw [← hsame.micro, ← hsame'.micro, hmicro]
    obtain rfl := stampText_inj (hu.trans hu'.symm) hmicro' hstamp
    exact hsame.trans hsame'.symm
  · intro h
    rw [((hsame.symm.trans h).trans hsame').eq hu hu']

/-! ### Stamps read back -/

/-- Reads a number up to the mark that ends it. -/
def Text.numberBefore (mark : Char) (cs : List Char) : Option (Nat × List Char) :=
  match Numeral.splitDigits cs with
  | (d :: ds, c :: rest) => if c = mark then some (ofDigits (d :: ds), rest) else none
  | _ => none

/-- Reads a number that ends the text. -/
def Text.lastNumber (cs : List Char) : Option Nat :=
  match Numeral.splitDigits cs with
  | (d :: ds, []) => some (ofDigits (d :: ds))
  | _ => none

/-- The time without an offset, to the second, whose stamp a text is. -/
def DateTime.ofStamp? (s : String) : Option DateTime := do
  let (year, cs) ← numberBefore '-' s.toList
  let (month, cs) ← numberBefore '-' cs
  let (day, cs) ← numberBefore ' ' cs
  let (hour, cs) ← numberBefore ':' cs
  let (minute, cs) ← numberBefore ':' cs
  let second ← lastNumber cs
  let date ← Date.ofFields? year month day
  ofFields? date hour minute second 0 none

theorem Digits.numberBefore {cs : List Char} {n : Nat} (h : Digits cs n) (mark : Char)
    (hmark : mark.isDigit = false) (rest : List Char) :
    Text.numberBefore mark (cs ++ mark :: rest) = some (n, rest) := by
  obtain ⟨d, ds, hcs, -, -⟩ := h.eq_cons
  have hsplit : Numeral.splitDigits (cs ++ mark :: rest) = (cs.map digitValue, mark :: rest) :=
    splitDigits_append h.isDigit fun c hc => by
      obtain rfl : mark = c := by simpa using hc
      exact hmark
  have hvalue := h.ofDigits_map
  rw [hcs, List.map_cons] at hsplit hvalue
  rw [Text.numberBefore, hcs, hsplit]
  simp [hvalue]

theorem Digits.lastNumber {cs : List Char} {n : Nat} (h : Digits cs n) :
    Text.lastNumber cs = some n := by
  obtain ⟨d, ds, hcs, -, -⟩ := h.eq_cons
  have hsplit := splitDigits_of_forall h.isDigit
  have hvalue := h.ofDigits_map
  rw [hcs, List.map_cons] at hsplit hvalue
  rw [Text.lastNumber, hcs, hsplit]
  simp [hvalue]

/-- A stamp is read as the day and the clock for which it is written. -/
theorem DateTime.ofStamp?_stampText (t : DateTime) :
    ofStamp? t.stampText = some { t with micro := 0, offset := none } := by
  have hclock := ofFields?_fields { t with micro := 0 } none
  simp only [ofStamp?, toList_stampText, (Digits.zeroPad _ _).numberBefore '-' rfl,
    (Digits.zeroPad _ _).numberBefore ' ' rfl,
    (Digits.zeroPad _ _).numberBefore ':' rfl, (Digits.zeroPad _ _).lastNumber,
    Option.bind_eq_bind, Option.bind_some, Date.ofFields?_fields]
  exact hclock

namespace Dialect

variable (d : Dialect) {t u : DateTime}

theorem formatTimestamp_eq_ok {q : Sql} :
    d.formatTimestamp t = .ok q ↔ ∃ u, t.toUtc = .ok u ∧ q = .literal u.stampText := by
  unfold formatTimestamp timestampText
  cases ht : t.toUtc with
  | ok u => simp [Except.map, eq_comm]
  | error e => cases e <;> simp [Except.map]

/-- The literal of a time holds the stamp of its counterpart in UTC. -/
theorem formatTimestamp_text (hutc : t.toUtc = .ok u) : (d.formatTimestamp t).map Sql.text =
    .ok (String.singleton Literal.quote ++ u.stampText ++ String.singleton Literal.quote) := by
  rw [← Literal.encode_of_clear (.stamp u)]
  simp [formatTimestamp, timestampText, hutc, Except.map, Sql.literal, Sql.text, Piece.text]

end Dialect

end SplitTest
