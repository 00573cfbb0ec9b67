import SplitTest.Proofs.Except
import SplitTest.Proofs.Sql.Readable
import SplitTest.Query.Exploration

/-! The four composed queries as one function of their arguments, and what the arguments contribute
to the text: names, which label derived tables; given values, which conditions compare with; and raw
texts, which stand in the query as they are. -/

namespace SplitTest

/-- A query with its arguments. -/
inductive Composition
  /-- The number of the visitors of pages. -/
  | users (p : UsersQueryParams)
  /-- The value of a metric among the visitors of pages. -/
  | metricValue (p : MetricValueParams)
  /-- The users of an experiment. -/
  | experimentUsers (a : Analysis)
  /-- The value of a metric in an experiment. -/
  | experimentMetric (a : Analysis) (m : MetricDefinition)

/-- The text of a query. -/
def Source.compose (s : Source) : Composition → Except Fault Sql
  | .users p => (s.usersQuery p).map Query.sql
  | .metricValue p => (s.metricValueQuery p).map Query.sql
  | .experimentUsers a => s.experimentUsersQuery a
  | .experimentMetric a m => s.experimentMetricQuery a m

/-! ### Arguments without their names -/

def MetricDefinition.withoutName (m : MetricDefinition) : MetricDefinition :=
  { m with name := "" }

def SegmentDefinition.withoutName (g : SegmentDefinition) : SegmentDefinition :=
  { g with name := "" }

def DimensionDefinition.withoutName (d : DimensionDefinition) : DimensionDefinition :=
  { d with name := "" }

def UsersQueryParams.withoutNames (p : UsersQueryParams) : UsersQueryParams :=
  { p with name := "", segment := p.segment.map SegmentDefinition.withoutName }

def MetricValueParams.withoutNames (p : MetricValueParams) : MetricValueParams :=
  { p with
    toUsersQueryParams := p.toUsersQueryParams.withoutNames
    metric := p.metric.withoutName }

def Analysis.withoutNames (a : Analysis) : Analysis :=
  { a with
    activation := a.activation.map MetricDefinition.withoutName
    dimension := a.dimension.map DimensionDefinition.withoutName }

/-- The arguments with every name erased. -/
def Composition.withoutNames : Composition → Composition
  | users p => users p.withoutNames
  | metricValue p => metricValue p.withoutNames
  | experimentUsers a => experimentUsers a.withoutNames
  | experimentMetric a m => experimentMetric a.withoutNames m.withoutName

/-! ### Arguments without the given values -/

def MetricCondition.withoutValue (c : MetricCondition) : MetricCondition :=
  { c with value := "" }

def MetricDefinition.withoutValues (m : MetricDefinition) : MetricDefinition :=
  { m with conditions := m.conditions.map MetricCondition.withoutValue }

/-- Of the expression for pages, only whether there is one is kept. -/
def UsersQueryParams.withoutPages (p : UsersQueryParams) : UsersQueryParams :=
  { p with urlRegex := p.pageFilter?.map fun _ => "" }

def MetricValueParams.withoutValues (p : MetricValueParams) : MetricValueParams :=
  { p with
    toUsersQueryParams := p.toUsersQueryParams.withoutPages
    metric := p.metric.withoutValues }

def ExperimentDefinition.withoutKey (e : ExperimentDefinition) : ExperimentDefinition :=
  { e with trackingKey := "" }

def Analysis.withoutValues (a : Analysis) : Analysis :=
  { a with
    experiment := a.experiment.withoutKey
    activation := a.activation.map MetricDefinition.withoutValues }

/-- The arguments with the tracking key, the values of conditions and the expression for pages
erased. -/
def Composition.withoutValues : Composition → Composition
  | users p => users p.withoutPages
  | metricValue p => metricValue p.withoutValues
  | experimentUsers a => experimentUsers a.withoutValues
  | experimentMetric a m => experimentMetric a.withoutValues m.withoutValues

/-! ### What the arguments contribute -/

/-- The text of the literal for a regular expression. -/
def Dialect.patternText (d : Dialect) (pattern : String) : String :=
  match d.flavor with
  | .snowflake => ".*(" ++ pattern ++ ").*"
  | _ => pattern

/-- The text of the literal that a condition compares with. -/
def MetricCondition.given (d : Dialect) (c : MetricCondition) : String :=
  match c.operator with
  | .isMatch | .isNoMatch => d.patternText c.value
  | _ => c.value

def MetricDefinition.given (d : Dialect) (m : MetricDefinition) : List String :=
  m.conditions.map (MetricCondition.given d)

def UsersQueryParams.given (d : Dialect) (p : UsersQueryParams) : List String :=
  p.pageFilter?.toList.map d.patternText

def Analysis.given (d : Dialect) (a : Analysis) : List String :=
  a.activation.toList.flatMap (MetricDefinition.given d)

/-- The texts of the literals for the given values, in the order of the query. -/
def Composition.given (d : Dialect) : Composition → List String
  | users p => p.given d
  | metricValue p => p.toUsersQueryParams.given d ++ p.metric.given d
  | experimentUsers a => a.experiment.trackingKey :: a.given d
  | experimentMetric a m => a.experiment.trackingKey :: (m.given d ++ a.given d)

def UsersQueryParams.names (p : UsersQueryParams) : List String :=
  p.name :: p.segment.toList.map SegmentDefinition.name

def Analysis.names (a : Analysis) : List String :=
  a.dimension.toList.map DimensionDefinition.name ++ a.activation.toList.map MetricDefinition.name

/-- The names that label the query and its derived tables. -/
def Composition.names : Composition → List String
  | users p => p.names
  | metricValue p => p.metric.name :: p.toUsersQueryParams.names
  | experimentUsers a => a.names
  | experimentMetric a m => m.name :: a.names

def Columns.texts (c : Columns) : List String :=
  c.timestamp.toList ++ c.userId.toList ++ c.anonymousId.toList

def SourceSettings.texts (s : SourceSettings) : List String :=
  s.default.texts ++ s.experiments.toColumns.texts ++ s.users.toColumns.texts ++
    s.pageviews.toColumns.texts ++ s.identifies.toColumns.texts ++
    [s.experiments.table, s.experiments.experimentIdColumn, s.experiments.variationColumn,
      s.users.table, s.pageviews.table, s.pageviews.urlColumn, s.identifies.table]

/-- The names of tables and columns in the settings, and what qualifies table names. -/
def Source.texts (s : Source) : List String :=
  s.settings.texts ++ s.dialect.project.toList ++ s.dialect.dataset.toList

/-- The names of a metric's table and columns, without its value column. -/
def MetricDefinition.texts (m : MetricDefinition) : List String :=
  m.table :: (m.userIdColumn.toList ++ m.anonymousIdColumn.toList ++ m.timestampColumn.toList ++
    m.conditions.map MetricCondition.column)

def UsersQueryParams.texts (p : UsersQueryParams) : List String :=
  p.segment.toList.map SegmentDefinition.sql

def Analysis.texts (a : Analysis) : List String :=
  a.dimension.toList.map DimensionDefinition.sql ++
    a.activation.toList.flatMap MetricDefinition.texts

/-- The texts of the arguments that stand in the query as they are. -/
def Composition.texts : Composition → List String
  | users p => p.texts
  | metricValue p => p.toUsersQueryParams.texts ++ p.metric.texts
  | experimentUsers a => a.texts
  | experimentMetric a m => a.texts ++ m.texts

def Analysis.columns (a : Analysis) : List String :=
  a.activation.toList.flatMap fun m => m.column.toList

/-- The value columns of the metrics, in which the mark for the metric's table is replaced. -/
def Composition.columns : Composition → List String
  | users _ => []
  | metricValue p => p.metric.column.toList
  | experimentUsers a => a.columns
  | experimentMetric a m => a.columns ++ m.column.toList

/-- Whether the query is a text of the experiment's own. -/
def Composition.isOverridden : Composition → Bool
  | users _ | metricValue _ => false
  | experimentUsers a => (a.experiment.sqlOverride.lookup Analysis.usersKey).isSome
  | experimentMetric a m => (a.experiment.sqlOverride.lookup m.id).isSome

namespace Source

variable (s : Source)

/-- The composed query, whether or not the experiment has a text of its own. -/
def composed : Composition → Except Fault Query
  | .users p => s.usersQuery p
  | .metricValue p => s.metricValueQuery p
  | .experimentUsers a => s.composedUsersQuery a
  | .experimentMetric a m => s.composedMetricQuery a m

theorem compose_of_not_overridden {c : Composition} (h : c.isOverridden = false) :
    s.compose c = (s.composed c).map Query.sql := by
  cases c with
  | users p => rfl
  | metricValue p => rfl
  | experimentUsers a =>
    have hnone : a.experiment.sqlOverride.lookup Analysis.usersKey = none := by
      simpa [Composition.isOverridden] using h
    simp only [compose, composed, experimentUsersQuery, ExperimentDefinition.override, hnone]
    cases s.composedUsersQuery a <;> rfl
  | experimentMetric a m =>
    have hnone : a.experiment.sqlOverride.lookup m.id = none := by
      simpa [Composition.isOverridden] using h
    simp only [compose, composed, experimentMetricQuery, ExperimentDefinition.override, hnone]
    cases s.composedMetricQuery a m <;> rfl

variable {s}

/-- A table of what lies within a phase.  Only the condition on the end of the phase may be
absent. -/
theorem withinPhase_eq_ok {d : Dialect} {time : Sql} {phase : ExperimentPhase}
    {table : Sql → Sql → Sql} {q : Sql}
    (hq : (do
      let last ← match phase.dateEnded with
        | some t => do pure (Sql.concat ["\n      AND ", time, " <= ", ← d.formatTimestamp t])
        | none => pure Sql.empty
      let first ← d.formatTimestamp phase.dateStarted
      pure (table first last) : Except Fault Sql) = .ok q) :
    ∃ first last, d.formatTimestamp phase.dateStarted = .ok first ∧
      (last = .empty ∨ ∃ t ended, d.formatTimestamp t = .ok ended ∧
        last = .concat ["\n      AND ", time, " <= ", ended]) ∧
      table first last = q := by
  obtain ⟨started, ended⟩ := phase
  cases ended with
  | none =>
    obtain ⟨last, hlast, hq⟩ := Except.bind_eq_ok.mp hq
    obtain ⟨first, hfirst, hq⟩ := Except.bind_eq_ok.mp hq
    exact ⟨first, last, hfirst, .inl (Except.pure_eq_ok.mp hlast).symm, Except.pure_eq_ok.mp hq⟩
  | some t =>
    obtain ⟨ended, hended, hq⟩ := Except.bind_eq_ok.mp hq
    obtain ⟨last, hlast, hq⟩ := Except.bind_eq_ok.mp hq
    obtain ⟨first, hfirst, hq⟩ := Except.bind_eq_ok.mp hq
    exact ⟨first, last, hfirst, .inr ⟨t, ended, hended, (Except.pure_eq_ok.mp hlast).symm⟩,
      Except.pure_eq_ok.mp hq⟩

variable (s) in
/-- The condition on the pages that the table of visitors adds to those on the time. -/
def pagesFilter (p : UsersQueryParams) : Sql :=
  match p.pageFilter? with
  | some pattern =>
    .concat ["\n      AND ", s.dialect.regexMatch s.settings.pageviews.urlColumn pattern]
  | none => .empty

variable (s) in
/-- What the table of visitors selects: the person and three times of the first visit. -/
def visitColumns (p : UsersQueryParams) : String :=
  let visit : Sql := "MIN(" ++ s.settings.timestampColumn .pageviews none ++ ")"
  "-- " ++ "Users visiting specific pages" ++ "\n    SELECT\n      " ++
    s.settings.idColumn p.userIdType .pageviews none ++ " as user_id,\n      " ++ visit.text ++
    " as actual_start,\n      " ++
    (s.dialect.addHours visit p.conversionWindowHours).text ++ " as conversion_end,\n      " ++
    (s.dialect.subtractMinutes visit Dialect.sessionMinutes).text ++
    " as session_start\n    FROM\n      " ++ s.dialect.fullTableName s.settings.pageviews.table

/-- The text of the table of visitors, with the visits that it keeps: those between two days, to the
pages of the filter. -/
theorem text_pageUsersTable {p : UsersQueryParams} {q : Sql} (hq : s.pageUsersTable p = .ok q) :
    let time := s.settings.timestampColumn .pageviews none
    ∃ first last, s.dialect.formatTimestamp p.dateFrom.startOfDay = .ok first ∧
      s.dialect.formatTimestamp p.dateTo.startOfDay = .ok last ∧
      q.text = s.visitColumns p ++ "\n    WHERE\n      " ++ time ++ " >= " ++ first.text ++
        "\n      AND " ++ time ++ " <= " ++ last.text ++ (s.pagesFilter p).text ++
        "\n    GROUP BY\n      " ++ s.settings.idColumn p.userIdType .pageviews none ++
        "\n    " := by
  obtain ⟨first, hfirst, hq⟩ := Except.bind_eq_ok.mp hq
  obtain ⟨last, hlast, hq⟩ := Except.bind_eq_ok.mp hq
  obtain rfl := Except.pure_eq_ok.mp hq
  refine ⟨first, last, hfirst, hlast, ?_⟩
  unfold visitColumns pagesFilter
  cases p.pageFilter? <;> simp [-String.reduceAppend, String.append_assoc]

/-- The tables of the visitors are that of their visits and that of the segment. -/
theorem visitorTables_eq_ok {p : UsersQueryParams} {ts : List DerivedTable} :
    s.visitorTables p = .ok ts ↔ ∃ users, s.pageUsersTable p = .ok users ∧
      ⟨"__users", users⟩ :: p.segment.toList.map (fun g =>
        DerivedTable.mk "__segment" (s.segmentTable g p.userIdType)) = ts := by
  simp only [visitorTables, Except.bind_eq_ok, Except.pure_eq_ok]

/-- The tables of a population are related, one by one, to what is there of a dimension and of an
activation metric. -/
theorem forall₂_populationTables {α : Type} {R : α → DerivedTable → Prop} {a : Analysis}
    {ts : List DerivedTable} (hts : s.populationTables a = .ok ts) {f : DimensionDefinition → α}
    {g : MetricDefinition → α}
    (hdimension : ∀ d ∈ a.dimension,
      R (f d) ⟨"__dimension", s.dimensionTable d a.experiment.userIdType⟩)
    (hactivation : ∀ m ∈ a.activation, ∀ table,
      s.metricTable m a.experiment.userIdType = .ok table → R (g m) ⟨"__activationMetric", table⟩) :
    List.Forall₂ R (a.dimension.toList.map f ++ a.activation.toList.map g) ts := by
  obtain ⟨activation, htables, hts⟩ := Except.bind_eq_ok.mp hts
  obtain rfl := Except.ok.inj hts
  refine List.rel_append ?_ ?_
  · rw [List.forall₂_map_left_iff, List.forall₂_map_right_iff, List.forall₂_same]
    exact fun d hd => hdimension d (Option.mem_toList.mp hd)
  · rw [Except.mapM_eq_ok] at htables
    rw [List.forall₂_map_left_iff]
    have htables := (List.forall₂_and_left _ _).mpr ⟨fun m hm => Option.mem_toList.mp hm, htables⟩
    refine htables.imp fun m t ⟨hm, ht⟩ => ?_
    obtain ⟨table, htable, ht⟩ := Except.bind_eq_ok.mp ht
    obtain rfl := Except.ok.inj ht
    exact hactivation m hm table htable

theorem forall_mem_populationTables {P : DerivedTable → Prop} {a : Analysis}
    {ts : List DerivedTable} (hts : s.populationTables a = .ok ts)
    (hdimension : ∀ d ∈ a.dimension,
      P ⟨"__dimension", s.dimensionTable d a.experiment.userIdType⟩)
    (hactivation : ∀ m ∈ a.activation, ∀ table,
      s.metricTable m a.experiment.userIdType = .ok table → P ⟨"__activationMetric", table⟩) :
    ∀ t ∈ ts, P t := by
  intro t ht
  have hall := forall₂_populationTables (R := fun (_ : Unit) t => P t) (f := fun _ => ())
    (g := fun _ => ()) hts hdimension hactivation
  obtain ⟨_, _, h⟩ := Except.exists_of_forall₂ hall.flip t ht
  exact h

end Source

theorem MetricType.oneLine_name (t : MetricType) : OneLine t.name := by
  cases t <;> exact .of rfl

theorem Composition.isOverridden_erased (c : Composition) :
    c.withoutNames.withoutValues.isOverridden = c.isOverridden := by
  cases c <;> rfl

end SplitTest
