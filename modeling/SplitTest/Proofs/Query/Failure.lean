import SplitTest.Proofs.Query.Composition
import SplitTest.Proofs.Results.PastRows
import SplitTest.Proofs.Schema.Checked
import SplitTest.Proofs.Schema.Minimal
import SplitTest.Query.Discovery

/-! When composition fails.  The only step of a builder that can fail, once the definitions are
accepted, is the literal of a time: it needs the counterpart of the time in UTC, which lies outside
the calendar for some times near its ends. -/

namespace SplitTest

open DateTime (IsZoned InCalendar)

/-! ### Times without a literal -/

theorem DateTime.toUtc_eq_error {t : DateTime} (hzoned : t.IsZoned) {e : ZoneError}
    (h : t.toUtc = .error e) : e = .outOfCalendar := by
  unfold toUtc at h
  cases hoffset : t.offset with
  | none => simp [hoffset] at h
  | some offset =>
    have hsmall : ¬86400 ≤ offset.natAbs := by simpa [secondsPerDay] using hzoned offset hoffset
    simp only [hoffset, hsmall, if_false] at h
    split at h
    · cases h
    · exact (Except.error.inj h).symm

/-- A time with an offset below a day has no literal only if its instant is outside the calendar,
and it has an offset then. -/
theorem Dialect.timestampText_eq_error {t : DateTime} (hzoned : t.IsZoned) {fault : Fault}
    (h : timestampText t = .error fault) :
    fault = .outOfCalendar ∧ t.offset ≠ none ∧ ¬t.InCalendar := by
  unfold timestampText at h
  cases hutc : t.toUtc with
  | ok u => simp [hutc] at h
  | error e =>
    obtain rfl := DateTime.toUtc_eq_error hzoned hutc
    have hout : ¬t.InCalendar := by
      intro hin
      obtain ⟨u, hu⟩ := DateTime.exists_toUtc_iff.mpr ⟨hzoned, hin⟩
      simp [hutc] at hu
    have hoffset : t.offset ≠ none := fun hnone =>
      hout (DateTime.inCalendar_of_sameInstant hnone (.refl t))
    rw [hutc] at h
    exact ⟨(Except.error.inj h).symm, hoffset, hout⟩

theorem Dialect.inCalendar_of_timestampText {t : DateTime} {text : String}
    (h : timestampText t = .ok text) : t.InCalendar := by
  unfold timestampText at h
  cases hutc : t.toUtc with
  | ok u => exact (DateTime.exists_toUtc_iff.mp ⟨u, hutc⟩).2
  | error e =>
    rw [hutc] at h
    cases e <;> cases h

/-- A computation that has a result if all these times have literals, and else fails as the literal
of one of them does. -/
def FailsBy {α : Type} (times : List DateTime) : Except Fault α → Prop
  | .ok _ => ∀ t ∈ times, ∃ text, Dialect.timestampText t = .ok text
  | .error fault => ∃ t ∈ times, Dialect.timestampText t = .error fault

namespace FailsBy

variable {α β : Type} {times times' : List DateTime} {x : Except Fault α}

theorem ok (a : α) : FailsBy [] (.ok a : Except Fault α) := List.forall_mem_nil _

theorem literal (d : Dialect) (t : DateTime) : FailsBy [t] (d.formatTimestamp t) := by
  unfold Dialect.formatTimestamp
  cases h : Dialect.timestampText t with
  | ok text => exact List.forall_mem_singleton.mpr ⟨text, h⟩
  | error fault => exact ⟨t, List.mem_singleton_self t, h⟩

theorem bind {f : α → Except Fault β} (hx : FailsBy times x)
    (hf : ∀ a, x = .ok a → FailsBy times' (f a)) : FailsBy (times ++ times') (x >>= f) := by
  cases x with
  | error fault =>
    obtain ⟨t, ht, hfault⟩ := hx
    exact ⟨t, List.mem_append_left _ ht, hfault⟩
  | ok a =>
    have hrest := hf a rfl
    rw [show (Except.ok a >>= f) = f a from rfl]
    cases hfa : f a with
    | error fault =>
      rw [hfa] at hrest
      obtain ⟨t, ht, hfault⟩ := hrest
      exact ⟨t, List.mem_append_right _ ht, hfault⟩
    | ok b =>
      rw [hfa] at hrest
      exact List.forall_mem_append.mpr ⟨hx, hrest⟩

theorem map (hx : FailsBy times x) (f : α → β) : FailsBy times (x.map f) := by
  cases x with
  | error fault => exact hx
  | ok a => exact hx

/-- What follows without a fault of its own changes nothing. -/
theorem andThen {f : α → Except Fault β} (hx : FailsBy times x)
    (hf : ∀ a, x = .ok a → FailsBy [] (f a)) : FailsBy times (x >>= f) := by
  simpa using hx.bind hf

/-- Where the times have offsets below a day, the computation fails exactly if one of them is
outside the calendar. -/
theorem fault_iff (hx : FailsBy times x) (hzoned : ∀ t ∈ times, t.IsZoned) :
    ((∃ fault, x = .error fault) ↔ ∃ t ∈ times, t.offset ≠ none ∧ ¬t.InCalendar) ∧
      ∀ fault, x = .error fault → fault = .outOfCalendar := by
  cases x with
  | ok a =>
    have hnone : ¬∃ t ∈ times, t.offset ≠ none ∧ ¬t.InCalendar := by
      rintro ⟨t, ht, -, hout⟩
      obtain ⟨text, htext⟩ := hx t ht
      exact hout (Dialect.inCalendar_of_timestampText htext)
    exact ⟨iff_of_false (fun ⟨_, h⟩ => nomatch h) hnone, fun _ h => nomatch h⟩
  | error fault =>
    obtain ⟨t, ht, hfault⟩ := hx
    obtain ⟨rfl, hout⟩ := Dialect.timestampText_eq_error (hzoned t ht) hfault
    exact ⟨iff_of_true ⟨_, rfl⟩ ⟨t, ht, hout⟩, fun _ h => (Except.error.inj h).symm⟩

end FailsBy

/-! ### Accepted definitions -/

theorem MetricDefinition.hasColumn_of_read {v : Value} {m : MetricDefinition}
    (h : read v = .ok m) (hneeds : m.type.needsColumn = true) : m.hasColumn = true := by
  have hyields : Checked.Yields (fun m : MetricDefinition =>
      m.type.needsColumn = true → m.hasColumn = true) (read v) := by
    cases v with
    | object fields =>
      refine Checked.Yields.andThen (p := fun _ => True) (fun _ _ => trivial) fun m' _ m hm => ?_
      split at hm
      · cases hm
      · cases hm
        simp_all
    | _ => exact fun _ hm => nomatch hm
  exact hyields m h hneeds

theorem MetricDefinition.valueColumn_of_hasColumn {m : MetricDefinition} (h : m.hasColumn = true)
    (tableName : String) : ∃ value, m.valueColumn tableName = .ok value := by
  unfold hasColumn at h
  unfold valueColumn
  cases hcolumn : m.column with
  | none => simp [hcolumn] at h
  | some column => exact ⟨_, rfl⟩

/-- An accepted metric without a column counts each event as one. -/
theorem MetricDefinition.rawValue_of_no_column {v : Value} {m : MetricDefinition}
    (h : read v = .ok m) (hnone : m.column = none) (tableName : String) :
    m.rawValue tableName = .ok "1" := by
  have hhas : m.hasColumn = false := by simp [hasColumn, hnone]
  have hneeds : m.type.needsColumn = false := by
    by_contra hneeds
    simpa [hhas] using hasColumn_of_read h (by simpa using hneeds)
  unfold rawValue
  cases htype : m.type with
  | binomial => rfl
  | count => simp [hhas]
  | duration | revenue => simp [htype, MetricType.needsColumn] at hneeds

/-- An accepted metric has a raw value, since its column is asked for only where it has one. -/
theorem MetricDefinition.exists_rawValue {v : Value} {m : MetricDefinition} (h : read v = .ok m)
    (tableName : String) : ∃ value, m.rawValue tableName = .ok value := by
  have hcolumn := hasColumn_of_read h
  unfold rawValue
  cases htype : m.type with
  | binomial => exact ⟨_, rfl⟩
  | count =>
    cases hhas : m.hasColumn with
    | false => exact ⟨_, rfl⟩
    | true => exact valueColumn_of_hasColumn hhas tableName
  | duration | revenue =>
    rw [htype] at hcolumn
    exact valueColumn_of_hasColumn (hcolumn rfl) tableName

namespace Source

variable (s : Source)

theorem metricTable_failsBy {v : Value} {m : MetricDefinition} (h : MetricDefinition.read v = .ok m)
    (idType : IdType) : FailsBy [] (s.metricTable m idType) := by
  obtain ⟨value, hvalue⟩ := MetricDefinition.exists_rawValue h "m"
  rw [metricTable, hvalue]
  exact .ok _

theorem experimentTable_failsBy (e : ExperimentDefinition) (phase : ExperimentPhase)
    (idType : IdType) :
    FailsBy (phase.dateEnded.toList ++ [phase.dateStarted]) (s.experimentTable e phase idType) := by
  obtain ⟨started, ended⟩ := phase
  cases ended with
  | none => exact .bind (.ok _) fun _ _ => .andThen (.literal s.dialect started) fun _ _ => .ok _
  | some t =>
    exact .bind (.literal s.dialect t) fun _ _ => .bind (.ok _) fun _ _ =>
      .andThen (.literal s.dialect started) fun _ _ => .ok _

theorem populationTables_failsBy {a : Analysis}
    (h : ∀ m ∈ a.activation, ∃ v, MetricDefinition.read v = .ok m) :
    FailsBy [] (s.populationTables a) := by
  refine .andThen ?_ fun activation _ => .ok _
  cases hactivation : a.activation with
  | none => exact .ok _
  | some m =>
    obtain ⟨v, hv⟩ := h m hactivation
    have htable := (s.metricTable_failsBy hv a.experiment.userIdType).andThen fun table _ =>
      .ok (DerivedTable.mk "__activationMetric" table)
    exact htable.andThen fun _ _ => .ok _

theorem visitorTables_failsBy (p : UsersQueryParams) :
    FailsBy [p.dateFrom.startOfDay, p.dateTo.startOfDay] (s.visitorTables p) :=
  have hpages : FailsBy [p.dateFrom.startOfDay, p.dateTo.startOfDay] (s.pageUsersTable p) :=
    .bind (.literal s.dialect _) fun _ _ => .andThen (.literal s.dialect _) fun _ _ => .ok _
  hpages.andThen fun _ _ => .ok _

end Source

/-! ### Queries -/

/-- The times of a phase for which a query of an experiment has literals: for an override its start
and its end, whether or not the text uses them, and for a composed query only the end that it
has. -/
def Analysis.times (a : Analysis) (key : String) : List DateTime :=
  if (a.experiment.sqlOverride.lookup key).isSome then
    [a.phase.dateStarted, a.phase.dateEnded.getD a.now]
  else a.phase.dateEnded.toList ++ [a.phase.dateStarted]

theorem ExperimentDefinition.override_failsBy (e : ExperimentDefinition) (d : Dialect)
    (phase : ExperimentPhase) (now : DateTime) {key sql : String}
    (h : e.sqlOverride.lookup key = some sql) :
    FailsBy [phase.dateStarted, phase.dateEnded.getD now] (e.override d phase key now) := by
  rw [override, h]
  have hplaceholders : FailsBy [phase.dateStarted, phase.dateEnded.getD now]
      (e.placeholders d phase now) :=
    .bind (.literal d _) fun _ _ => .andThen (.literal d _) fun _ _ => .ok _
  exact hplaceholders.map _

/-- A query as it can be asked for: one of those with definitions among its arguments, or that for
past experiments. -/
inductive QueryRequest
  | composition (c : Composition)
  | pastExperiments (dateFrom : DateTime)

namespace QueryRequest

/-- The times for which the query has literals. -/
def times : QueryRequest → List DateTime
  | composition (.users p) => [p.dateFrom.startOfDay, p.dateTo.startOfDay]
  | composition (.metricValue p) => [p.dateFrom.startOfDay, p.dateTo.startOfDay]
  | composition (.experimentUsers a) => a.times Analysis.usersKey
  | composition (.experimentMetric a m) => a.times m.id
  | pastExperiments dateFrom => [dateFrom]

/-- The metrics among the arguments. -/
def metrics : QueryRequest → List MetricDefinition
  | composition (.users _) => []
  | composition (.metricValue p) => [p.metric]
  | composition (.experimentUsers a) => a.activation.toList
  | composition (.experimentMetric a m) => m :: a.activation.toList
  | pastExperiments _ => []

end QueryRequest

/-- An analysis whose definitions are ones that documents are accepted as. -/
structure Analysis.IsAccepted (a : Analysis) : Prop where
  experiment : ∃ v, ExperimentDefinition.read v = .ok a.experiment
  phase : ∃ v, ExperimentPhase.read v = .ok a.phase
  activation : ∀ m ∈ a.activation, ∃ v, MetricDefinition.read v = .ok m
  dimension : ∀ d ∈ a.dimension, ∃ v, DimensionDefinition.read v = .ok d

/-- All definitions among the arguments are ones that documents are accepted as. -/
def QueryRequest.IsAccepted : QueryRequest → Prop
  | composition (.users p) => ∃ v, UsersQueryParams.read v = .ok p
  | composition (.metricValue p) => ∃ v, MetricValueParams.read v = .ok p
  | composition (.experimentUsers a) => a.IsAccepted
  | composition (.experimentMetric a m) => a.IsAccepted ∧ ∃ v, MetricDefinition.read v = .ok m
  | pastExperiments _ => True

theorem Reader.exists_read_of_required {α : Type} {name : String} {read : Value → Checked α}
    {fields : List (String × Value)} {a : α} (h : required name read fields = .ok a) :
    ∃ v, read v = .ok a := by
  unfold required at h
  split at h
  · exact ⟨_, Checked.under_eq_ok.mp h⟩
  · cases h

theorem MetricValueParams.exists_read_metric {v : Value} {p : MetricValueParams}
    (h : read v = .ok p) : ∃ w, MetricDefinition.read w = .ok p.metric := by
  cases v with
  | object fields =>
    simp only [read, Reader.object, Checked.seq_eq_ok, Checked.map_eq_ok] at h
    obtain ⟨_, ⟨_, ⟨_, -, rfl⟩, metric, hmetric, rfl⟩, _, -, rfl⟩ := h
    exact Reader.exists_read_of_required hmetric
  | _ => cases h

theorem QueryRequest.IsAccepted.metric {r : QueryRequest} (h : r.IsAccepted) :
    ∀ m ∈ r.metrics, ∃ v, MetricDefinition.read v = .ok m := by
  cases r with
  | composition c =>
    cases c with
    | users p => exact List.forall_mem_nil _
    | metricValue p =>
      obtain ⟨v, hv⟩ := h
      exact List.forall_mem_singleton.mpr (MetricValueParams.exists_read_metric hv)
    | experimentUsers a => exact fun m hm => h.activation m (Option.mem_toList.mp hm)
    | experimentMetric a m =>
      exact List.forall_mem_cons.mpr
        ⟨h.2, fun m hm => h.1.activation m (Option.mem_toList.mp hm)⟩
  | pastExperiments dateFrom => exact List.forall_mem_nil _

namespace Source

variable (s : Source)

def answer : QueryRequest → Except Fault Sql
  | .composition c => s.compose c
  | .pastExperiments dateFrom => (s.pastExperimentsQuery dateFrom).map Query.sql

theorem composedUsersQuery_failsBy {a : Analysis} (h : a.IsAccepted) :
    FailsBy (a.phase.dateEnded.toList ++ [a.phase.dateStarted]) (s.composedUsersQuery a) :=
  (s.experimentTable_failsBy a.experiment a.phase _).andThen fun _ _ =>
    (s.populationTables_failsBy h.activation).andThen fun _ _ => .ok _

theorem composedMetricQuery_failsBy {a : Analysis} (h : a.IsAccepted) {v : Value}
    {m : MetricDefinition} (hm : MetricDefinition.read v = .ok m) :
    FailsBy (a.phase.dateEnded.toList ++ [a.phase.dateStarted]) (s.composedMetricQuery a m) :=
  (s.experimentTable_failsBy a.experiment a.phase _).andThen fun _ _ =>
    (s.populationTables_failsBy h.activation).andThen fun _ _ =>
      (s.metricTable_failsBy hm _).andThen fun _ _ => .ok _

/-- An override, or else a composed query. -/
theorem override_failsBy (a : Analysis) (key : String) {composed : Except Fault Sql}
    (h : FailsBy (a.phase.dateEnded.toList ++ [a.phase.dateStarted]) composed) :
    FailsBy (a.times key) (do
      match ← a.experiment.override s.dialect a.phase key a.now with
      | some sql => pure sql
      | none => composed : Except Fault Sql) := by
  unfold Analysis.times
  cases hkey : a.experiment.sqlOverride.lookup key with
  | none =>
    have hnone : a.experiment.override s.dialect a.phase key a.now = .ok none := by
      rw [ExperimentDefinition.override, hkey]
    rw [hnone]
    exact h
  | some sql =>
    refine (a.experiment.override_failsBy s.dialect a.phase a.now hkey).andThen
      fun filled hfilled => ?_
    obtain ⟨text, rfl⟩ : ∃ text, filled = some text := by
      rw [ExperimentDefinition.override, hkey] at hfilled
      obtain ⟨placeholders, -, rfl⟩ := Except.map_eq_ok.mp hfilled
      exact ⟨_, rfl⟩
    exact .ok _

theorem answer_failsBy {r : QueryRequest} (h : r.IsAccepted) : FailsBy r.times (s.answer r) := by
  cases r with
  | composition c =>
    cases c with
    | users p =>
      have hquery : FailsBy _ (s.usersQuery p) :=
        (s.visitorTables_failsBy p).andThen fun _ _ => .ok _
      exact hquery.map _
    | metricValue p =>
      obtain ⟨v, hv⟩ := h
      obtain ⟨w, hmetric⟩ := MetricValueParams.exists_read_metric hv
      have hquery : FailsBy _ (s.metricValueQuery p) :=
        (s.visitorTables_failsBy p.toUsersQueryParams).andThen fun _ _ =>
          (s.metricTable_failsBy hmetric _).andThen fun _ _ => .ok _
      exact hquery.map _
    | experimentUsers a =>
      exact s.override_failsBy a _ ((s.composedUsersQuery_failsBy h).andThen fun _ _ => .ok _)
    | experimentMetric a m =>
      obtain ⟨ha, v, hv⟩ := h
      exact s.override_failsBy a _ ((s.composedMetricQuery_failsBy ha hv).andThen fun _ _ => .ok _)
  | pastExperiments dateFrom =>
    have hquery : FailsBy _ (s.pastExperimentsQuery dateFrom) :=
      (FailsBy.literal s.dialect dateFrom).andThen fun _ _ => .ok _
    exact hquery.map _

/-- A query for accepted definitions fails exactly if it needs the literal of a time with an offset
that denotes an instant outside the calendar; a metric without a column is never asked for it. -/
theorem answer_fault_iff {r : QueryRequest} (h : r.IsAccepted) (hzoned : ∀ t ∈ r.times, t.IsZoned) :
    ((∃ fault, s.answer r = .error fault) ↔
        ∃ t ∈ r.times, t.offset ≠ none ∧ ¬t.InCalendar) ∧
      (∀ fault, s.answer r = .error fault → fault = .outOfCalendar) ∧
      ∀ m ∈ r.metrics, ∀ tableName, (∃ value, m.rawValue tableName = .ok value) ∧
        (m.column = none → m.valueColumn tableName = .error .wrongType ∧
          m.rawValue tableName = .ok "1") := by
  obtain ⟨hfails, hfault⟩ := (s.answer_failsBy h).fault_iff hzoned
  refine ⟨hfails, hfault, fun m hm tableName => ?_⟩
  obtain ⟨v, hv⟩ := h.metric m hm
  refine ⟨MetricDefinition.exists_rawValue hv tableName, fun hnone => ⟨?_, ?_⟩⟩
  · rw [MetricDefinition.valueColumn, hnone]
  · exact MetricDefinition.rawValue_of_no_column hv hnone tableName

/-- A day that begins before the calendar does in UTC. -/
theorem answer_fault_iff_first_day :
    let s : Source := { settings := .builtin, dialect := ⟨.postgres, none, none⟩ }
    let first : DateTime := ⟨⟨0, by decide⟩, ⟨0, by decide⟩, ⟨0, by decide⟩, some 18000⟩
    let document : Value := .object [("name", .text "Traffic"), ("date_from", .datetime first),
      ("date_to", .datetime { first with offset := none })]
    ∃ p, UsersQueryParams.read document = .ok p ∧
      ∃ fault, s.answer (.composition (.users p)) = .error fault := by
  intro s first document
  refine ⟨_, rfl, (s.answer_fault_iff (r := .composition (.users _)) ⟨document, rfl⟩ ?_).1.mpr
    ⟨first.startOfDay, List.mem_cons_self, nofun, ?_⟩⟩
  · refine List.forall_mem_cons.mpr ⟨?_, List.forall_mem_singleton.mpr ?_⟩
    · rintro _ ⟨⟩
      decide
    · rintro _ ⟨⟩
  · rintro ⟨hstart, -⟩
    exact absurd hstart (by decide)

end Source

end SplitTest
