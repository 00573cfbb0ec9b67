import SplitTest.Proofs.Assignments
import SplitTest.Proofs.Except
import SplitTest.Proofs.Results.Times
import SplitTest.Results.Rows
import SplitTest.Warehouse.Runner

/-! Times on their way from the warehouse to the results.  A row of texts holds the time to the
second that the clock of each time shows; the zone is lost on the way, and with it the instant of a
time whose zone is not UTC. -/

namespace SplitTest

/-! ### Rows of texts -/

namespace Value

variable (f : Value → Value)

theorem dedupe_map (fields : List (String × Value)) :
    dedupe (fields.map (Prod.map id f)) = (dedupe fields).map (Prod.map id f) := by
  suffices hfold : ∀ acc : List (String × Value),
      (fields.map (Prod.map id f)).foldl (fun acc field => assign field.1 field.2 acc)
          (acc.map (Prod.map id f)) =
        (fields.foldl (fun acc field => assign field.1 field.2 acc) acc).map (Prod.map id f) from
    hfold []
  induction fields with
  | nil => exact fun _ => rfl
  | cons field rest ih =>
    intro acc
    rw [List.map_cons, List.foldl_cons, List.foldl_cons, ← ih, ← assign_map]
    rfl

end Value

theorem Row.get_map {f : Value → Value} (hnull : f .null = .null) (row : Row) (column : String) :
    Row.get (row.map (Prod.map id f)) column = f (row.get column) := by
  rw [Row.get, Row.get, lookup_map]
  cases row.lookup column with
  | none => exact hnull.symm
  | some v => rfl

namespace Warehouse

/-- The row of an answer before its cells are made texts. -/
def answeredRow (columns : List String) (cells : List Value) : Row :=
  Value.dedupe (columns.zip cells)

theorem textRows_eq (columns : List String) (rows : List (List Value)) :
    textRows columns rows =
      (rows.map (answeredRow columns)).map (·.map (Prod.map id cellText)) := by
  simp only [textRows, answeredRow, List.map_map, Function.comp_def, ← Value.dedupe_map,
    List.zip_map_right]

/-! ### Cells with times -/

variable {reference : Lenient.Reference}

/-- The time to the second that the clock in a cell shows. -/
def clockReading : Value → Option DateTime
  | .date date => some { (default : DateTime) with date }
  | .datetime t => some { t.truncated with offset := none }
  | _ => none

/-- A cell of a column of times is a null, a day or a time in a year of four digits. -/
def IsTimeCell : Value → Prop
  | .null | .date _ => True
  | .datetime t => 1000 ≤ t.date.year
  | _ => False

/-- The text of a cell is read as what its clock shows. -/
theorem toTime_cellText {v : Value} (h : IsTimeCell v) :
    Cell.toTime reference (cellText v) = .ok (clockReading v) := by
  cases v with
  | null => rfl
  | date d => exact Cell.toTime_text (Lenient.read?_date d) rfl
  | datetime t => exact Cell.toTime_stampText h
  | _ => exact h.elim

/-- The instant in a cell as a time in UTC to the second. -/
def instantReading : Value → Option DateTime
  | .date date => clockReading (.date date)
  | .datetime t => t.toUtc.toOption.map DateTime.truncated
  | _ => none

/-- The clock in a cell goes by UTC. -/
def GoesByUtc : Value → Prop
  | .datetime t => t.offset.getD 0 = 0
  | _ => True

/-- The clock shows the instant exactly if it goes by UTC. -/
theorem clockReading_eq_iff (v : Value) : clockReading v = instantReading v ↔ GoesByUtc v := by
  cases v with
  | datetime t =>
    show some _ = t.toUtc.toOption.map DateTime.truncated ↔ t.offset.getD 0 = 0
    constructor
    · intro heq
      cases hutc : t.toUtc with
      | error fault => simp [hutc, Except.toOption] at heq
      | ok u =>
        obtain ⟨-, hoffset, h⟩ := DateTime.toUtc_eq_ok_iff.mp hutc
        rw [hutc] at heq
        have hclock : t.clock = u.clock :=
          Option.some.inj (congrArg (Option.map DateTime.clock) heq)
        have hinstant := h.instant
        simp only [DateTime.instant, hoffset, Option.getD_none, hclock] at hinstant
        omega
    · intro hzero
      have hzoned : t.IsZoned := by
        intro offset hoffset
        rw [Option.mem_def.mp hoffset, Option.getD_some] at hzero
        simp [hzero, secondsPerDay]
      have h : t.SameInstant { t with offset := none } := by
        refine ⟨?_, rfl⟩
        simp [DateTime.instant, DateTime.clock, hzero]
      rw [DateTime.toUtc_eq_ok_iff.mpr ⟨hzoned, rfl, h⟩]
      rfl
  | _ => exact iff_of_true rfl trivial

/-- What is read for a cell: what its clock shows, which is the instant exactly if the clock goes by
UTC. -/
structure IsRead (v : Value) (read : Option DateTime) : Prop where
  clock : read = clockReading v
  instant : read = instantReading v ↔ GoesByUtc v

theorem isRead_clockReading (v : Value) : IsRead v (clockReading v) := ⟨rfl, clockReading_eq_iff v⟩

/-- The cells of a row are read without a fault if its times are time cells. -/
theorem ofRow_cellText {row : Row} (hstart : IsTimeCell (row.get "start_date"))
    (hend : IsTimeCell (row.get "end_date")) :
    ∃ e, PastExperiment.ofRowBy (Lenient.read? reference) (row.map (Prod.map id cellText)) = .ok e ∧
      IsRead (row.get "start_date") e.startDate ∧ IsRead (row.get "end_date") e.endDate := by
  have hget := Row.get_map (f := cellText) rfl row
  obtain ⟨users, husers⟩ : ∃ n, Cell.toInt (cellText (row.get "users")) = .ok n := by
    unfold cellText
    split <;> exact ⟨_, rfl⟩
  have htime {v : Value} (hv : IsTimeCell v) :
      Cell.toTimeBy (Lenient.read? reference) (cellText v) = .ok (clockReading v) :=
    toTime_cellText hv
  simp only [PastExperiment.ofRowBy, hget, htime hstart, htime hend, husers]
  exact ⟨_, rfl, isRead_clockReading _, isRead_clockReading _⟩

/-- Every time cell reaches the results as what its clock shows, which is the instant exactly if the
clock goes by UTC; and so do the start and the end of every past experiment in an answer. -/
theorem times_of_textRows (reference : Lenient.Reference) {columns : List String}
    {rows : List (List Value)}
    (hcells : ∀ cells ∈ rows, IsTimeCell ((answeredRow columns cells).get "start_date") ∧
      IsTimeCell ((answeredRow columns cells).get "end_date")) :
    (∀ v, IsTimeCell v → ∃ read, Cell.toTime reference (cellText v) = .ok read ∧ IsRead v read) ∧
    ∃ experiments, PastExperiment.ofRows reference (textRows columns rows) = .ok experiments ∧
      List.Forall₂ (fun cells e =>
        IsRead ((answeredRow columns cells).get "start_date") e.startDate ∧
        IsRead ((answeredRow columns cells).get "end_date") e.endDate) rows experiments := by
  refine ⟨fun v hv => ⟨_, toTime_cellText hv, isRead_clockReading v⟩, ?_⟩
  rw [textRows_eq, PastExperiment.ofRows, PastExperiment.ofRowsBy]
  simp only [Except.mapM_eq_ok, List.forall₂_map_left_iff]
  induction rows with
  | nil => exact ⟨[], .nil, .nil⟩
  | cons cells rows ih =>
    obtain ⟨⟨hstart, hend⟩, hrows⟩ := List.forall_mem_cons.mp hcells
    obtain ⟨e, he, htimes⟩ := ofRow_cellText hstart hend
    obtain ⟨experiments, hread, hall⟩ := ih hrows
    exact ⟨e :: experiments, .cons he hread, .cons htimes hall⟩

/-- An experiment that starts at noon in UTC and ends on a day. -/
theorem times_of_textRows_noon :
    let t : DateTime := ⟨⟨⟨737852, by decide⟩⟩, ⟨43200, by decide⟩, 250, some 0⟩
    let d : Date := ⟨⟨737861, by decide⟩⟩
    let columns := ["experiment_id", "variation_id", "start_date", "end_date", "users"]
    let rows := [[.text "checkout", .text "1", .datetime t, .date d, .int 250]]
    let reference : Lenient.Reference := ⟨d, 2021⟩
    (∀ cells ∈ rows, IsTimeCell ((answeredRow columns cells).get "start_date") ∧
      IsTimeCell ((answeredRow columns cells).get "end_date")) ∧
    ∃ e, PastExperiment.ofRows reference (textRows columns rows) = .ok [e] ∧
      e.startDate = instantReading (.datetime t) ∧ e.endDate = instantReading (.date d) := by
  intro t d columns rows reference
  have hyear : 1000 ≤ t.date.year := by decide +kernel
  have hcells : ∀ cells ∈ rows, IsTimeCell ((answeredRow columns cells).get "start_date") ∧
      IsTimeCell ((answeredRow columns cells).get "end_date") := by
    intro cells hmem
    obtain rfl := List.mem_singleton.mp hmem
    exact ⟨hyear, trivial⟩
  obtain ⟨-, experiments, hread, hall⟩ := times_of_textRows reference hcells
  obtain ⟨e, experiments, ⟨hstart, hend⟩, hrest, rfl⟩ := List.forall₂_cons_left_iff.mp hall
  obtain rfl := List.forall₂_nil_left_iff.mp hrest
  exact ⟨hcells, e, hread, hstart.instant.mpr rfl, hend.instant.mpr trivial⟩

/-- A time of the evening in New York is read as that of the evening in UTC. -/
theorem zone_lost_in_text_rows :
    let t : DateTime := ⟨⟨⟨737852, by decide⟩⟩, ⟨84600, by decide⟩, 0, some (-18000)⟩
    let u : DateTime := ⟨⟨⟨737853, by decide⟩⟩, ⟨16200, by decide⟩, 0, none⟩
    let reference : Lenient.Reference := ⟨u.date, 2021⟩
    t.isoText = "2021-03-04T23:30:00-05:00" ∧ u.isoText = "2021-03-05T04:30:00" ∧
      1000 ≤ t.date.year ∧ 1000 ≤ u.date.year ∧ t.toUtc = .ok u ∧
      Cell.toTime reference (cellText (.datetime t)) = .ok (some { t with offset := none }) ∧
      Cell.toTime reference (cellText (.datetime t)) ≠ .ok (some u.truncated) := by
  intro t u reference
  have hyear : 1000 ≤ t.date.year := by decide +kernel
  have hread : Cell.toTime reference (cellText (.datetime t)) =
      .ok (some { t with offset := none }) :=
    toTime_cellText (v := .datetime t) hyear
  refine ⟨by decide +kernel, by decide +kernel, hyear, by decide +kernel, by decide +kernel, hread,
    ?_⟩
  rw [hread]
  decide +kernel

end Warehouse

end SplitTest
