import SplitTest.Proofs.Except
import SplitTest.Proofs.Results.TextRows
import SplitTest.Proofs.Results.Times
import SplitTest.Results.Rows

/-! Past experiments from rows of texts and nulls.  A date that the reader of dates makes nothing of
is absent, and a count that is no number is zero; neither costs its row.  A date that is read has to
be moved into UTC, and where that is impossible, because its offset is a day or more or because its
instant lies outside the calendar, all rows are lost. -/

namespace SplitTest

/-! ### Times that have a counterpart in UTC -/

namespace DateTime

/-- The instant of a time lies in the years 1 to 9999. -/
def InCalendar (t : DateTime) : Prop :=
  0 ≤ t.instant ∧ t.instant < Date.count * secondsPerDay

theorem inCalendar_of_sameInstant {t u : DateTime} (hu : u.offset = none)
    (h : SameInstant t u) : t.InCalendar := by
  have hday : u.date.number.val < Date.count := u.date.number.isLt
  have hsecond : u.second.val < secondsPerDay := u.second.isLt
  have hinstant : t.instant = u.clock := by
    rw [h.instant, instant, hu, Option.getD_none, Int.sub_zero]
  simp only [InCalendar, hinstant, clock, Date.count, secondsPerDay] at *
  omega

theorem InCalendar.exists_sameInstant {t : DateTime} (h : t.InCalendar) :
    ∃ u : DateTime, u.offset = none ∧ SameInstant t u := by
  obtain ⟨hstart, hend⟩ := h
  simp only [Date.count, secondsPerDay] at hend
  let u : DateTime :=
    { date := ⟨⟨(t.instant / 86400).toNat, by simp only [Date.count]; omega⟩⟩
      second := ⟨(t.instant % 86400).toNat, by simp only [secondsPerDay]; omega⟩
      micro := t.micro, offset := none }
  have hclock : u.clock = (t.instant / 86400).toNat * 86400 + (t.instant % 86400).toNat := rfl
  have hinstant : u.instant = u.clock := Int.sub_zero _
  refine ⟨u, rfl, ?_, rfl⟩
  omega

/-- A time has a counterpart in UTC if its offset is below a day and its instant in the calendar. -/
theorem exists_toUtc_iff {t : DateTime} : (∃ u, t.toUtc = .ok u) ↔ t.IsZoned ∧ t.InCalendar := by
  simp only [toUtc_eq_ok_iff]
  constructor
  · rintro ⟨u, hzoned, hu, h⟩
    exact ⟨hzoned, inCalendar_of_sameInstant hu h⟩
  · rintro ⟨hzoned, h⟩
    obtain ⟨u, hu, hsame⟩ := h.exists_sameInstant
    exact ⟨u, hzoned, hu, hsame⟩

end DateTime

/-! ### Cells -/

namespace Cell

open DateTime

variable (read? : String → Option DateTime)

/-- The time, if any, that a cell of a text row stands for: the instant that its text names, without
a zone. -/
inductive IsTimeOf : Value → Option DateTime → Prop
  | null : IsTimeOf .null none
  | unread {s : String} (h : read? s = none) : IsTimeOf (.text s) none
  | read {s : String} {t u : DateTime} (h : read? s = some t) (hu : u.offset = none)
      (hsame : SameInstant t u) : IsTimeOf (.text s) (some u)

/-- If the text of a cell is read as a time, then the time has a counterpart in UTC. -/
def FitsUtc (v : Value) : Prop :=
  ∀ s t, v = .text s → read? s = some t → t.IsZoned ∧ t.InCalendar

/-- The whole number that a cell of a text row stands for: a numeral cut off at its point, and zero
in place of anything else. -/
inductive IsCountOf : Value → Int → Prop
  | null : IsCountOf .null 0
  | whole {s : String} {n : Int} (h : intOfText? s = some n) : IsCountOf (.text s) n
  | cut {s : String} {x : Double} {n : Int} (h : intOfText? s = none)
      (hread : Double.ofText? s = some x) (hcut : x.truncate? = some n) : IsCountOf (.text s) n
  | garbled {s : String} (h : intOfText? s = none)
      (hread : ∀ x, Double.ofText? s = some x → x.truncate? = none) : IsCountOf (.text s) 0

section

variable {read?} {s : String} {t : DateTime}

theorem fitsUtc_null : FitsUtc read? .null := fun _ _ h => by simp at h

theorem fitsUtc_of_unread (hread : read? s = none) : FitsUtc read? (.text s) := by
  rintro _ t ⟨⟩ ht
  simp [hread] at ht

theorem fitsUtc_iff (hread : read? s = some t) :
    FitsUtc read? (.text s) ↔ ∃ u, t.toUtc = .ok u := by
  rw [exists_toUtc_iff]
  constructor
  · intro h
    exact h s t rfl hread
  · rintro h _ _ ⟨⟩ ht
    obtain rfl := Option.some.inj (hread.symm.trans ht)
    exact h

theorem toTimeBy_of_unread (hread : read? s = none) : toTimeBy read? (.text s) = .ok none := by
  simp only [toTimeBy, Value.display, hread]

theorem toTimeBy_eq_ok_iff_of_read (hread : read? s = some t) {time : Option DateTime} :
    toTimeBy read? (.text s) = .ok time ↔ ∃ u, t.toUtc = .ok u ∧ some u = time := by
  simp only [toTimeBy, Value.display, hread]
  cases t.toUtc with
  | ok u => simp
  | error fault => cases fault <;> simp

variable {v : Value} (hv : v.isTextCell = true)
include hv

theorem exists_toTimeBy_iff : (∃ time, toTimeBy read? v = .ok time) ↔ FitsUtc read? v := by
  cases v with
  | null => exact iff_of_true ⟨none, rfl⟩ fitsUtc_null
  | text s =>
    cases hread : read? s with
    | none => exact iff_of_true ⟨none, toTimeBy_of_unread hread⟩ (fitsUtc_of_unread hread)
    | some t =>
      rw [fitsUtc_iff hread]
      simp only [toTimeBy_eq_ok_iff_of_read hread]
      constructor
      · rintro ⟨_, u, hutc, -⟩
        exact ⟨u, hutc⟩
      · rintro ⟨u, hutc⟩
        exact ⟨_, u, hutc, rfl⟩
  | _ => simp [Value.isTextCell] at hv

theorem toTimeBy_eq_ok_iff {time : Option DateTime} :
    toTimeBy read? v = .ok time ↔ FitsUtc read? v ∧ IsTimeOf read? v time := by
  rw [← exists_toTimeBy_iff hv]
  cases v with
  | null =>
    constructor
    · intro h
      obtain rfl := Except.ok.inj h
      exact ⟨⟨none, rfl⟩, .null⟩
    · rintro ⟨-, ⟨⟩⟩
      rfl
  | text s =>
    cases hread : read? s with
    | none =>
      rw [toTimeBy_of_unread hread]
      constructor
      · intro h
        obtain rfl := Except.ok.inj h
        exact ⟨⟨none, rfl⟩, .unread hread⟩
      · rintro ⟨-, h⟩
        cases h with
        | unread => rfl
        | read h => simp [hread] at h
    | some t =>
      simp only [toTimeBy_eq_ok_iff_of_read hread]
      constructor
      · rintro ⟨u, hutc, rfl⟩
        obtain ⟨-, hu, hsame⟩ := toUtc_eq_ok_iff.mp hutc
        exact ⟨⟨_, u, hutc, rfl⟩, .read hread hu hsame⟩
      · rintro ⟨⟨_, u, hutc, -⟩, h⟩
        obtain ⟨-, hu, hsame⟩ := toUtc_eq_ok_iff.mp hutc
        cases h with
        | unread h => simp [hread] at h
        | read h hu' hsame' =>
          -- A text names one instant, and an instant has one time without a zone.
          obtain rfl := Option.some.inj (hread.symm.trans h)
          exact ⟨u, hutc, congrArg some ((hsame.symm.trans hsame').eq hu hu')⟩
  | _ => simp [Value.isTextCell] at hv

omit hv in
/-- A date fails only where it has no counterpart in UTC. -/
theorem fault_of_toTimeBy {f : Fault} (h : toTimeBy read? v = .error f) :
    f = .offsetTooLarge ∨ f = .outOfCalendar := by
  unfold toTimeBy at h
  split at h
  · simp at h
  · split at h
    · simp at h
    · split at h
      · simp at h
      · exact .inl (Except.error.inj h).symm
      · exact .inr (Except.error.inj h).symm

end

theorem isCountOf_text_iff {s : String} {n : Int} :
    IsCountOf (.text s) n ↔ intOfText s = n := by
  unfold intOfText
  cases hint : intOfText? s with
  | some k =>
    constructor
    · rintro (h | h | h) <;> simp_all
    · rintro rfl
      exact .whole hint
  | none =>
    cases hread : Double.ofText? s with
    | none =>
      constructor
      · rintro (h | h | h) <;> simp_all
      · rintro rfl
        exact .garbled hint (by simp [hread])
    | some x =>
      cases hcut : x.truncate? with
      | none =>
        constructor
        · rintro (h | h | h) <;> simp_all
        · rintro rfl
          simp only [Option.bind_some, hcut, Option.getD_none]
          exact .garbled hint (by simp [hread, hcut])
      | some k =>
        constructor
        · rintro (h | h | h) <;> simp_all
        · rintro rfl
          simp only [Option.bind_some, hcut, Option.getD_some]
          exact .cut hint hread hcut

theorem toInt_eq_ok_iff {v : Value} (hv : v.isTextCell = true) {n : Int} :
    toInt v = .ok n ↔ IsCountOf v n := by
  cases v with
  | null =>
    constructor
    · intro h
      obtain rfl := Except.ok.inj h
      exact .null
    · rintro ⟨⟩
      rfl
  | text s => rw [isCountOf_text_iff, toInt, Except.ok.injEq]
  | _ => simp [Value.isTextCell] at hv

end Cell

/-! ### Rows -/

namespace PastExperiment

variable (read? : String → Option DateTime)

/-- The dates of a row that are read have counterparts in UTC. -/
structure FitsUtc (row : Row) : Prop where
  startDate : Cell.FitsUtc read? (row.get "start_date")
  endDate : Cell.FitsUtc read? (row.get "end_date")

/-- The variation that a text row describes. -/
structure IsOf (row : Row) (e : PastExperiment) : Prop where
  experimentId : e.experimentId = (row.get "experiment_id").display
  variationId : e.variationId = (row.get "variation_id").display
  startDate : Cell.IsTimeOf read? (row.get "start_date") e.startDate
  endDate : Cell.IsTimeOf read? (row.get "end_date") e.endDate
  users : Cell.IsCountOf (row.get "users") e.users

section

variable {read?} {row : Row}

theorem ofRowBy_eq_ok_iff (h : row.isText = true) {e : PastExperiment} :
    ofRowBy read? row = .ok e ↔ FitsUtc read? row ∧ IsOf read? row e := by
  have htext (column : String) := Row.isTextCell_get h column
  simp only [ofRowBy, Except.bind_eq_ok, Except.pure_eq_ok, Cell.toTimeBy_eq_ok_iff (htext _),
    Cell.toInt_eq_ok_iff (htext _)]
  constructor
  · rintro ⟨startDate, ⟨hsfits, hstart⟩, endDate, ⟨hefits, hend⟩, users, husers, rfl⟩
    exact ⟨⟨hsfits, hefits⟩, ⟨rfl, rfl, hstart, hend, husers⟩⟩
  · rintro ⟨⟨hsfits, hefits⟩, ⟨hexperiment, hvariation, hstart, hend, husers⟩⟩
    refine ⟨_, ⟨hsfits, hstart⟩, _, ⟨hefits, hend⟩, _, husers, ?_⟩
    rw [← hexperiment, ← hvariation]

theorem exists_ofRowBy_iff (h : row.isText = true) :
    (∃ e, ofRowBy read? row = .ok e) ↔ FitsUtc read? row := by
  constructor
  · rintro ⟨e, he⟩
    exact ((ofRowBy_eq_ok_iff h).mp he).1
  · rintro ⟨hsfits, hefits⟩
    obtain ⟨startDate, hstart⟩ :=
      (Cell.exists_toTimeBy_iff (Row.isTextCell_get h "start_date")).mpr hsfits
    obtain ⟨endDate, hend⟩ :=
      (Cell.exists_toTimeBy_iff (Row.isTextCell_get h "end_date")).mpr hefits
    obtain ⟨users, husers⟩ := Cell.toInt_of_isTextCell (Row.isTextCell_get h "users")
    simp only [ofRowBy, hstart, hend, husers]
    exact ⟨_, rfl⟩

theorem fault_of_ofRowBy (h : row.isText = true) {f : Fault} (hf : ofRowBy read? row = .error f) :
    f = .offsetTooLarge ∨ f = .outOfCalendar := by
  rcases Except.bind_eq_error.mp hf with hstart | ⟨startDate, -, hf⟩
  · exact Cell.fault_of_toTimeBy hstart
  rcases Except.bind_eq_error.mp hf with hend | ⟨endDate, -, hf⟩
  · exact Cell.fault_of_toTimeBy hend
  obtain ⟨users, husers⟩ := Cell.toInt_of_isTextCell (Row.isTextCell_get h "users")
  simp [husers, bind, Except.bind, pure, Except.pure] at hf

end

/-- Text rows describe one variation each, in their order, exactly if all dates among them that the
reader makes out have counterparts in UTC.  A date that it does not make out is absent, every other
date has no zone, and a count that is no number is zero.  All faults come from moving a date into
UTC. -/
theorem ofRowsBy_of_text {rows : List Row} (htext : ∀ row ∈ rows, row.isText = true) :
    ((∃ es, ofRowsBy read? rows = .ok es) ↔ ∀ row ∈ rows, FitsUtc read? row) ∧
      (∀ es, ofRowsBy read? rows = .ok es ↔
        (∀ row ∈ rows, FitsUtc read? row) ∧ List.Forall₂ (IsOf read?) rows es) ∧
      ∀ f, ofRowsBy read? rows = .error f → f = .offsetTooLarge ∨ f = .outOfCalendar := by
  refine ⟨?_, fun es => ?_, fun f hf => ?_⟩
  · rw [ofRowsBy, Except.exists_mapM_iff]
    exact forall₂_congr fun row hmem => exists_ofRowBy_iff (htext row hmem)
  · calc ofRowsBy read? rows = .ok es
        ↔ List.Forall₂ (fun row e => ofRowBy read? row = .ok e) rows es := Except.mapM_eq_ok
      _ ↔ List.Forall₂ (fun row e => row.isText = true ∧ ofRowBy read? row = .ok e) rows es := by
        rw [List.forall₂_and_left, and_iff_right htext]
      _ ↔ List.Forall₂ (fun row e => row.isText = true ∧ FitsUtc read? row ∧ IsOf read? row e)
          rows es := by
        have hrow (row : Row) (e : PastExperiment) :
            (row.isText = true ∧ ofRowBy read? row = .ok e) ↔
              row.isText = true ∧ FitsUtc read? row ∧ IsOf read? row e :=
          and_congr_right fun h => ofRowBy_eq_ok_iff h
        simp only [hrow]
      _ ↔ (∀ row ∈ rows, FitsUtc read? row) ∧ List.Forall₂ (IsOf read?) rows es := by
        rw [List.forall₂_and_left, List.forall₂_and_left, and_iff_right htext]
  · obtain ⟨row, hmem, hrow⟩ := Except.exists_of_mapM_eq_error hf
    exact fault_of_ofRowBy (htext row hmem) hrow

/-- A garbled date, a date with an offset, a garbled count and a row without cells. -/
theorem ofRowsBy_of_text_garbled :
    let rows : List Row :=
      [[("experiment_id", .text "checkout"), ("variation_id", .text "1"),
          ("start_date", .text "soon"), ("end_date", .text "2021-03-04T23:30:00-05:00"),
          ("users", .text "many")], []]
    let t : DateTime := ⟨⟨⟨737852, by decide⟩⟩, ⟨84600, by decide⟩, 0, some (-18000)⟩
    let reference : Lenient.Reference := ⟨t.date, 2021⟩
    (∀ row ∈ rows, row.isText = true) ∧ Lenient.read? reference "soon" = none ∧
      Lenient.read? reference "2021-03-04T23:30:00-05:00" = some t ∧
      ∃ es, ofRows reference rows = .ok es := by
  intro rows t reference
  have htext : ∀ row ∈ rows, row.isText = true := by decide
  have hsoon : Lenient.read? reference "soon" = none := by decide +kernel
  have hevening : Lenient.read? reference "2021-03-04T23:30:00-05:00" = some t := by
    decide +kernel
  refine ⟨htext, hsoon, hevening, (ofRowsBy_of_text (Lenient.read? reference) htext).1.mpr ?_⟩
  have hutc : t.toUtc = .ok ⟨⟨⟨737853, by decide⟩⟩, ⟨16200, by decide⟩, 0, none⟩ := by
    decide +kernel
  simp only [rows, List.forall_mem_cons, List.not_mem_nil, false_implies, implies_true, and_true]
  exact ⟨⟨Cell.fitsUtc_of_unread hsoon, (Cell.fitsUtc_iff hevening).mpr ⟨_, hutc⟩⟩,
    ⟨Cell.fitsUtc_null, Cell.fitsUtc_null⟩⟩

/-- A date whose instant lies before the calendar, or whose offset is a whole day, costs all
rows. -/
theorem rows_lost_to_a_date :
    let row (date : String) : Row :=
      [("experiment_id", .text "checkout"), ("variation_id", .text "1"),
        ("start_date", .text date), ("end_date", .text "2021-03-13"), ("users", .text "250")]
    let reference : Lenient.Reference := ⟨⟨⟨737852, by decide⟩⟩, 2021⟩
    (∀ date, (row date).isText = true) ∧
      ofRows reference [row "0001-01-01T00:00:00+05:00"] = .error .outOfCalendar ∧
      ofRows reference [row "2021-03-04", row "2021-03-04T00:00:00+24:00"] =
        .error .offsetTooLarge := by
  intro row reference
  refine ⟨fun _ => rfl, by decide +kernel, by decide +kernel⟩

end PastExperiment
end SplitTest
