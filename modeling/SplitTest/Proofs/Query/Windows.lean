import SplitTest.Proofs.Dialect.Shift
import SplitTest.Proofs.Query.Composition
import SplitTest.Proofs.Schema.Checked
import SplitTest.Proofs.Schema.Minimal

/-! Conversion windows.  Every table of users has three times: its start, the start of the session,
half an hour before, and the end of the conversion window, the window's hours after.  They are in
order exactly if the window is not negative.  The definitions of metrics and of experiments refuse a
negative window; the parameters of the exploratory queries take any. -/

namespace SplitTest

open Checked

/-! ### Windows that are read -/

/-- What is wrong with a negative window. -/
def Issue.negativeWindow : Issue :=
  ⟨["conversion_window_hours"], .rule "conversion_window_hours must be >= 0"⟩

namespace MetricDefinition

theorem yields_readWindow (v : Value) : Yields (0 ≤ ·) (readWindow v) := by
  refine .andThen (p := fun _ => True) (fun _ _ => trivial) fun n _ => ?_
  intro k hk
  by_cases hn : 0 ≤ n
  · rw [if_pos (decide_eq_true hn)] at hk
    cases hk
    exact hn
  · rw [if_neg (by simpa using hn)] at hk
    cases hk

/-- The window field of a metric and of an experiment. -/
def windowField (fields : List (String × Value)) : Checked Int :=
  Reader.withDefault "conversion_window_hours" defaultWindow readWindow fields

theorem yields_windowField (fields : List (String × Value)) :
    Yields (0 ≤ ·) (windowField fields) :=
  Reader.yields_withDefault (by decide) yields_readWindow

theorem mem_issues_windowField {fields : List (String × Value)} {v : Value} {n : Int}
    (hfield : Value.field? "conversion_window_hours" fields = some v)
    (hn : Reader.int v = .ok n) (hneg : n < 0) :
    Issue.negativeWindow ∈ (windowField fields).issues := by
  have hread : readWindow v = .problem (.rule "conversion_window_hours must be >= 0") := by
    rw [readWindow, keep, hn, andThen, if_neg (by simpa using hneg)]
  rw [windowField, Reader.withDefault_of_field hfield, hread]
  simp [under, problem, issues, Issue.under, Issue.negativeWindow]

theorem yields_read (v : Value) : Yields (fun m => 0 ≤ m.conversionWindowHours) (read v) := by
  cases v with
  | object fields =>
    have hfields : Yields (fun m => windowField fields = .ok m.conversionWindowHours)
        (readFields fields) := by
      unfold readFields
      iterate 14 apply Yields.seq
      apply Yields.map
      iterate 12 intro _ _
      intro window hwindow _ _ _ _
      exact hwindow
    refine .andThen hfields fun m hm => ?_
    intro m' hm'
    split at hm'
    · cases hm'
    · cases hm'
      exact yields_windowField fields _ hm
  | _ =>
    intro m hm
    cases hm

theorem negativeWindow_mem_issues {fields : List (String × Value)}
    (h : Issue.negativeWindow ∈ (windowField fields).issues) :
    Issue.negativeWindow ∈ (read (.object fields)).issues := by
  apply mem_issues_andThen
  simp only [readFields, issues_seq, List.mem_append]
  exact .inl (.inl (.inr h))

end MetricDefinition

namespace ExperimentDefinition

theorem yields_read (v : Value) : Yields (fun e => 0 ≤ e.conversionWindowHours) (read v) := by
  cases v with
  | object fields =>
    have hfields : Yields
        (fun e => MetricDefinition.windowField fields = .ok e.conversionWindowHours)
        (read (.object fields)) := by
      simp only [read, Reader.object]
      iterate 6 apply Yields.seq
      apply Yields.map
      iterate 5 intro _ _
      intro window hwindow _ _
      exact hwindow
    intro e he
    exact MetricDefinition.yields_windowField fields _ (hfields e he)
  | _ =>
    intro e he
    cases he

theorem negativeWindow_mem_issues {fields : List (String × Value)}
    (h : Issue.negativeWindow ∈ (MetricDefinition.windowField fields).issues) :
    Issue.negativeWindow ∈ (read (.object fields)).issues := by
  simp only [read, Reader.object, issues_seq, List.mem_append]
  exact .inl (.inr h)

end ExperimentDefinition

/-- The window field of the parameters; any whole number will do. -/
def UsersQueryParams.windowField (fields : List (String × Value)) : Checked Int :=
  Reader.withDefault "conversion_window_hours" MetricDefinition.defaultWindow Reader.int fields

theorem UsersQueryParams.yields_readFields (fields : List (String × Value)) :
    Yields (fun p => windowField fields = .ok p.conversionWindowHours) (readFields fields) := by
  unfold readFields
  iterate 7 apply Yields.seq
  apply Yields.map
  iterate 6 intro _ _
  intro window hwindow _ _
  exact hwindow

namespace MetricValueParams

theorem yields_read_window (fields : List (String × Value)) :
    Yields (fun p => UsersQueryParams.windowField fields = .ok p.conversionWindowHours)
      (read (.object fields)) := by
  simp only [read, Reader.object]
  iterate 2 apply Yields.seq
  apply Yields.map
  intro p hp _ _ _ _
  exact UsersQueryParams.yields_readFields fields p hp

theorem yields_read_metric (v : Value) :
    Yields (fun p => 0 ≤ p.metric.conversionWindowHours) (read v) := by
  cases v with
  | object fields =>
    simp only [read, Reader.object]
    iterate 2 apply Yields.seq
    apply Yields.map
    intro p _ m hm _ _
    unfold Reader.required at hm
    split at hm
    · exact (MetricDefinition.yields_read _).under "metric" m hm
    · cases hm
  | _ =>
    intro p hp
    cases hp

end MetricValueParams

/-! ### Times of a table -/

/-- The three times that a table of users selects. -/
structure TableTimes where
  start : String
  conversionEnd : Shift
  sessionStart : Shift

/-- The time of a shift in a row that has a time, in minutes, in each column. -/
def Shift.inRow (x : Shift) (row : String → Int) : Int :=
  row x.column + x.minutes

namespace TableTimes

/-- In every row the session begins no later than the start, and the window ends no earlier. -/
def Ordered (t : TableTimes) : Prop :=
  ∀ row : String → Int,
    t.sessionStart.inRow row ≤ row t.start ∧ row t.start ≤ t.conversionEnd.inRow row

/-- A session that begins half an hour before the start, and a window of some hours after it. -/
def around (start : String) (hours : Int) : TableTimes :=
  ⟨start, ⟨start, hours * 60⟩, ⟨start, -30⟩⟩

theorem ordered_around_iff {start : String} {hours : Int} :
    (around start hours).Ordered ↔ 0 ≤ hours := by
  simp only [Ordered, around, Shift.inRow]
  constructor
  · intro h
    have hrow := (h fun _ => 0).2
    omega
  · intro h row
    omega

end TableTimes

/-- A text that selects three times by their names, as the dialect reads them. -/
def Dialect.Selects (d : Dialect) (text : String) (t : TableTimes) : Prop :=
  ∃ before last session after,
    text = before ++ ",\n      " ++ t.start ++ " as actual_start,\n      " ++ last ++
      " as conversion_end,\n      " ++ session ++ " as session_start\n    FROM\n      " ++ after ∧
    d.readShift? last = some t.conversionEnd ∧ d.readShift? session = some t.sessionStart

theorem Dialect.Selects.append {d : Dialect} {text : String} {t : TableTimes} (h : d.Selects text t)
    (more : String) : d.Selects (text ++ more) t := by
  obtain ⟨before, last, session, after, rfl, hlast, hsession⟩ := h
  exact ⟨before, last, session, after ++ more, by simp only [String.append_assoc], hlast, hsession⟩

/-- A text that selects a start, the start with the window's hours added, and the start less the
minutes of a session. -/
theorem Dialect.selects_around (d : Dialect) (before first : String) {lead : String}
    (hlead : lead = first ++ ",\n      ") (start : Sql) (hours : Int) (after : String) :
    d.Selects (before ++ lead ++ start.text ++ " as actual_start,\n      " ++
      (d.addHours start hours).text ++ " as conversion_end,\n      " ++
      (d.subtractMinutes start sessionMinutes).text ++ " as session_start\n    FROM\n      " ++
      after) (.around start.text hours) := by
  refine ⟨before ++ first, _, _, after, ?_, d.readShift?_addHours start hours,
    d.readShift?_subtractMinutes start 30⟩
  rw [hlead, ← String.append_assoc]
  rfl

/-- Such a text as a template writes it. -/
theorem Dialect.selects_of_template (d : Dialect) (before : List Sql) {lead : String}
    (first : String) (hlead : lead = first ++ ",\n      ") (start : Sql) (hours : Int)
    (after : List Sql) :
    d.Selects (Sql.concat (before ++ [(lead : Sql), start, " as actual_start,\n      ",
      d.addHours start hours, " as conversion_end,\n      ",
      d.subtractMinutes start Dialect.sessionMinutes, " as session_start\n    FROM\n      "] ++
      after)).text (.around start.text hours) := by
  have hselects := d.selects_around (Sql.concat before).text first hlead start hours
    (Sql.concat after).text
  simpa [String.append_assoc] using hselects

namespace Source

variable (s : Source)

theorem metricTable_selects {m : MetricDefinition} {idType : IdType} {sql : Sql}
    (h : s.metricTable m idType = .ok sql) :
    s.dialect.Selects sql.text
      (.around ("m." ++ s.settings.timestampColumn .default m) m.conversionWindowHours) := by
  obtain ⟨value, -, hsql⟩ := Except.bind_eq_ok.mp h
  obtain rfl := Except.pure_eq_ok.mp hsql
  exact s.dialect.selects_of_template [_, _, _, _, _] " as value" rfl _ _ _

theorem experimentTable_selects {e : ExperimentDefinition} {phase : ExperimentPhase}
    {idType : IdType} {sql : Sql} (h : s.experimentTable e phase idType = .ok sql) :
    s.dialect.Selects sql.text
      (.around ("e." ++ s.settings.timestampColumn .experiments none) e.conversionWindowHours) := by
  obtain ⟨first, last, -, -, rfl⟩ := withinPhase_eq_ok h
  exact s.dialect.selects_of_template [_, _, _, _, _] " as variation" rfl _ _ _

theorem selects_visitColumns (p : UsersQueryParams) :
    s.dialect.Selects (s.visitColumns p)
      (.around ("MIN(" ++ s.settings.timestampColumn .pageviews none ++ ")")
        p.conversionWindowHours) :=
  s.dialect.selects_around _ " as user_id" rfl _ _ _

theorem pageUsersTable_selects {p : UsersQueryParams} {sql : Sql}
    (h : s.pageUsersTable p = .ok sql) :
    s.dialect.Selects sql.text
      (.around ("MIN(" ++ s.settings.timestampColumn .pageviews none ++ ")")
      p.conversionWindowHours) := by
  obtain ⟨_, _, -, -, htext⟩ := text_pageUsersTable h
  rw [htext]
  simpa only [String.append_assoc] using (s.selects_visitColumns p).append _

/-- A table of users whose three times are in order in every row. -/
def OrdersTimes (text start : String) (hours : Int) : Prop :=
  s.dialect.Selects text (.around start hours) ∧ 0 ≤ hours ∧
    (TableTimes.around start hours).Ordered

theorem ordersTimes_iff {text start : String} {hours : Int} :
    s.OrdersTimes text start hours ↔ s.dialect.Selects text (.around start hours) ∧ 0 ≤ hours := by
  rw [OrdersTimes, TableTimes.ordered_around_iff, and_self]

/-- The tables of accepted metrics and of accepted experiments have their times in order, and a
negative window is refused by the definitions of both.  The parameters of the exploratory queries
take any window; the table of visitors has its times in order exactly if it is not negative. -/
theorem times_of_user_tables :
    (∀ v m idType sql, MetricDefinition.read v = .ok m → s.metricTable m idType = .ok sql →
      s.OrdersTimes sql.text ("m." ++ s.settings.timestampColumn .default m)
        m.conversionWindowHours) ∧
    (∀ v e phase idType sql, ExperimentDefinition.read v = .ok e →
      s.experimentTable e phase idType = .ok sql →
      s.OrdersTimes sql.text ("e." ++ s.settings.timestampColumn .experiments none)
        e.conversionWindowHours) ∧
    (∀ v p idType sql, MetricValueParams.read v = .ok p →
      s.metricTable p.metric idType = .ok sql →
      s.OrdersTimes sql.text ("m." ++ s.settings.timestampColumn .default p.metric)
        p.metric.conversionWindowHours) ∧
    (∀ fields v n, Value.field? "conversion_window_hours" fields = some v →
      Reader.int v = .ok n → n < 0 →
      Issue.negativeWindow ∈ (MetricDefinition.read (.object fields)).issues ∧
        Issue.negativeWindow ∈ (ExperimentDefinition.read (.object fields)).issues) ∧
    (∀ fields p, UsersQueryParams.read (.object fields) = .ok p →
      UsersQueryParams.windowField fields = .ok p.conversionWindowHours) ∧
    (∀ fields p, MetricValueParams.read (.object fields) = .ok p →
      UsersQueryParams.windowField fields = .ok p.conversionWindowHours) ∧
    (∀ p sql, s.pageUsersTable p = .ok sql →
      let t := TableTimes.around ("MIN(" ++ s.settings.timestampColumn .pageviews none ++ ")")
        p.conversionWindowHours
      s.dialect.Selects sql.text t ∧ (t.Ordered ↔ 0 ≤ p.conversionWindowHours)) := by
  refine ⟨?metrics, ?experiments, ?valueParams, ?refused, ?users, ?values, ?visitors⟩
  case metrics =>
    intro v m idType sql hm hsql
    rw [ordersTimes_iff]
    exact ⟨s.metricTable_selects hsql, MetricDefinition.yields_read v m hm⟩
  case experiments =>
    intro v e phase idType sql he hsql
    rw [ordersTimes_iff]
    exact ⟨s.experimentTable_selects hsql, ExperimentDefinition.yields_read v e he⟩
  case valueParams =>
    intro v p idType sql hp hsql
    rw [ordersTimes_iff]
    exact ⟨s.metricTable_selects hsql, MetricValueParams.yields_read_metric v p hp⟩
  case refused =>
    intro fields v n hfield hn hneg
    have hwindow := MetricDefinition.mem_issues_windowField hfield hn hneg
    exact ⟨MetricDefinition.negativeWindow_mem_issues hwindow,
      ExperimentDefinition.negativeWindow_mem_issues hwindow⟩
  case users => exact UsersQueryParams.yields_readFields
  case values => exact MetricValueParams.yields_read_window
  case visitors =>
    intro p sql hsql
    exact ⟨s.pageUsersTable_selects hsql, TableTimes.ordered_around_iff⟩

/-- The parameters for the visitors of ten days, with a conversion window of some hours. -/
def traffic (hours : Int) : UsersQueryParams :=
  { name := "Traffic", dateFrom := { (default : DateTime) with date := ⟨⟨737821, by decide⟩⟩ }
    dateTo := { (default : DateTime) with date := ⟨⟨737830, by decide⟩⟩ }, urlRegex := none
    segment := none, userIdType := .user, conversionWindowHours := hours, includeByDate := false }

/-- The fields that state them. -/
def trafficFields (hours : Int) : List (String × Value) :=
  [("name", .text "Traffic"), ("date_from", .text "2021-02-01T00:00:00"),
    ("date_to", .text "2021-02-10T00:00:00"), ("conversion_window_hours", .int hours)]

theorem times_of_user_tables_builtin :
    let s : Source := ⟨.builtin, ⟨.postgres, none, none⟩⟩
    let orders := MetricDefinition.minimal "m" "Orders" .count "orders"
    let checkout := ExperimentDefinition.minimal "e" "checkout" ["a"]
    let fields := ("metric", .object [("id", .text "m"), ("name", .text "Orders"),
      ("type", .text "count"), ("table", .text "orders")]) :: trafficFields 24
    (∃ sql, s.metricTable orders .user = .ok sql ∧ s.OrdersTimes sql.text "m.received_at" 72) ∧
    (∃ sql, s.experimentTable checkout ⟨(traffic 24).dateFrom, none⟩ .user = .ok sql ∧
      s.OrdersTimes sql.text "e.received_at" 72) ∧
    (∃ p sql, MetricValueParams.read (.object fields) = .ok p ∧
      s.metricTable p.metric .anonymous = .ok sql ∧
      s.OrdersTimes sql.text "m.received_at" 72 ∧
      UsersQueryParams.windowField fields = .ok p.conversionWindowHours) ∧
    Issue.negativeWindow ∈ (MetricDefinition.read (.object (trafficFields (-5)))).issues ∧
    UsersQueryParams.windowField (trafficFields 24) = .ok 24 ∧
    (∃ sql, s.pageUsersTable (traffic 24) = .ok sql ∧
      s.dialect.Selects sql.text (.around "MIN(received_at)" 24) ∧
      (TableTimes.around "MIN(received_at)" 24).Ordered) := by
  intro s orders checkout fields
  obtain ⟨hmetrics, hexperiments, hvalueParams, hrefused, husers, hvalues, hvisitors⟩ :=
    s.times_of_user_tables
  have horders := MetricDefinition.read_minimal "m" "Orders" .count "orders" rfl
  have hcheckout := ExperimentDefinition.read_minimal "e" "checkout" (show ["a"] ≠ [] by simp)
  let values : MetricValueParams := ⟨traffic 24, orders, true⟩
  have hparams : MetricValueParams.read (.object fields) = .ok values := by decide +kernel
  have htraffic : UsersQueryParams.read (.object (trafficFields 24)) = .ok (traffic 24) := by
    decide +kernel
  refine ⟨?_, ?_, ?_, ?_, ?_, ?_⟩
  · obtain ⟨sql, hsql⟩ := Except.exists_eq_ok (x := s.metricTable orders .user) (by decide +kernel)
    exact ⟨sql, hsql, hmetrics _ orders .user sql horders hsql⟩
  · obtain ⟨sql, hsql⟩ := Except.exists_eq_ok
      (x := s.experimentTable checkout ⟨(traffic 24).dateFrom, none⟩ .user) (by decide +kernel)
    exact ⟨sql, hsql, hexperiments _ checkout _ .user sql hcheckout hsql⟩
  · obtain ⟨sql, hsql⟩ := Except.exists_eq_ok (x := s.metricTable orders .anonymous)
      (by decide +kernel)
    exact ⟨values, sql, hparams, hsql, hvalueParams _ values .anonymous sql hparams hsql,
      hvalues fields values hparams⟩
  · exact (hrefused _ _ (-5) rfl rfl (by decide)).1
  · exact husers _ _ htraffic
  · obtain ⟨sql, hsql⟩ := Except.exists_eq_ok (x := s.pageUsersTable (traffic 24))
      (by decide +kernel)
    obtain ⟨hselects, hordered⟩ := hvisitors (traffic 24) sql hsql
    exact ⟨sql, hsql, hselects, hordered.mpr (by decide)⟩

/-- A negative window is taken as it is, and the window of each visitor ends before it starts. -/
theorem window_of_visitors_ends_before_start :
    let s : Source := ⟨.builtin, ⟨.postgres, none, none⟩⟩
    let t := TableTimes.around "MIN(received_at)" (-5)
    UsersQueryParams.read (.object (trafficFields (-5))) = .ok (traffic (-5)) ∧
      ∃ sql, s.pageUsersTable (traffic (-5)) = .ok sql ∧ s.dialect.Selects sql.text t ∧
        ¬t.Ordered := by
  intro s t
  have hread : UsersQueryParams.read (.object (trafficFields (-5))) = .ok (traffic (-5)) := by
    decide +kernel
  obtain ⟨sql, hsql⟩ := Except.exists_eq_ok (x := s.pageUsersTable (traffic (-5)))
    (by decide +kernel)
  refine ⟨hread, sql, hsql, s.pageUsersTable_selects hsql, ?_⟩
  rw [TableTimes.ordered_around_iff]
  decide

end Source

end SplitTest
