import SplitTest.Query.Discovery
import SplitTest.Query.Exploration

/-! Qualified names of tables.  The project and the dataset of a dialect do nothing but replace the
name of each table that a query reads, once: a query is the one that a dialect without a project
and a dataset composes from settings and metrics that give the qualified names themselves. -/

namespace SplitTest

/-! ### Tables under other names -/

/-- Settings in which the tables that queries read have other names. -/
def SourceSettings.mapTables (f : String → String) (s : SourceSettings) : SourceSettings :=
  { s with
    experiments := { s.experiments with table := f s.experiments.table }
    pageviews := { s.pageviews with table := f s.pageviews.table }
    identifies := { s.identifies with table := f s.identifies.table } }

/-- A metric whose events lie in a table with another name. -/
def MetricDefinition.mapTable (f : String → String) (m : MetricDefinition) : MetricDefinition :=
  { m with table := f m.table }

def MetricValueParams.mapTable (f : String → String) (p : MetricValueParams) : MetricValueParams :=
  { p with metric := p.metric.mapTable f }

def Analysis.mapTable (f : String → String) (a : Analysis) : Analysis :=
  { a with activation := a.activation.map (MetricDefinition.mapTable f) }

/-- The dialect without a project and a dataset. -/
def Dialect.unqualified (d : Dialect) : Dialect :=
  { d with project := none, dataset := none }

theorem Dialect.fullTableName_unqualified (d : Dialect) (table : String) :
    d.unqualified.fullTableName table = table := by
  obtain ⟨flavor, project, dataset⟩ := d
  cases flavor <;> rfl

/-- The source that has the qualified names in its settings. -/
def Source.qualified (s : Source) : Source :=
  ⟨s.settings.mapTables s.dialect.fullTableName, s.dialect.unqualified⟩

/-! ### What does not depend on the names of tables -/

namespace SourceSettings

variable (s : SourceSettings) (f : String → String)

theorem columnsOf_mapTables (sect : Section) :
    (s.mapTables f).columnsOf sect = s.columnsOf sect := by
  cases sect <;> rfl

theorem column_mapTables (role : ColumnRole) (sect : Section) (metric : Option MetricDefinition) :
    (s.mapTables f).column role sect metric = s.column role sect metric := by
  unfold column
  rw [columnsOf_mapTables]
  rfl

end SourceSettings

namespace Source

variable (s : Source)

theorem column_qualified (role : ColumnRole) (sect : Section) (metric : Option MetricDefinition) :
    s.qualified.settings.column role sect metric = s.settings.column role sect metric :=
  s.settings.column_mapTables _ role sect metric

theorem idColumn_qualified (idType : IdType) (sect : Section) (metric : Option MetricDefinition) :
    s.qualified.settings.idColumn idType sect metric = s.settings.idColumn idType sect metric :=
  s.column_qualified idType.role sect metric

theorem timestampColumn_qualified (sect : Section) (metric : Option MetricDefinition) :
    s.qualified.settings.timestampColumn sect metric = s.settings.timestampColumn sect metric :=
  s.column_qualified .timestamp sect metric

/-! ### Derived tables -/

theorem identifiesJoin_qualified : s.qualified.identifiesJoin = s.identifiesJoin := by
  funext nativeColumn native
  unfold identifiesJoin
  rw [idColumn_qualified]
  simp only [qualified, SourceSettings.mapTables, Dialect.fullTableName_unqualified]

theorem reconcile_qualified : s.qualified.reconcile = s.reconcile := by
  funext requested native tableName nativeColumn requestedColumn
  unfold reconcile
  rw [idColumn_qualified, identifiesJoin_qualified]

theorem pageUsersTable_qualified : s.qualified.pageUsersTable = s.pageUsersTable := by
  funext p
  unfold pageUsersTable
  rw [idColumn_qualified, timestampColumn_qualified]
  simp only [qualified, SourceSettings.mapTables, Dialect.fullTableName_unqualified]
  rfl

theorem segmentTable_qualified : s.qualified.segmentTable = s.segmentTable := by
  funext g idType
  unfold segmentTable
  rw [reconcile_qualified]

theorem dimensionTable_qualified : s.qualified.dimensionTable = s.dimensionTable := by
  funext d idType
  unfold dimensionTable
  rw [reconcile_qualified]

theorem metricTable_qualified (m : MetricDefinition) :
    s.qualified.metricTable (m.mapTable s.dialect.fullTableName) = s.metricTable m := by
  funext idType
  unfold metricTable
  rw [reconcile_qualified]
  simp only [idColumn_qualified, timestampColumn_qualified]
  simp only [qualified, MetricDefinition.mapTable, Dialect.fullTableName_unqualified]
  -- The columns, the value and the conditions of a metric do not depend on its table.
  rfl

theorem experimentTable_qualified : s.qualified.experimentTable = s.experimentTable := by
  funext e phase idType
  unfold experimentTable
  rw [reconcile_qualified]
  simp only [idColumn_qualified, timestampColumn_qualified]
  simp only [qualified, SourceSettings.mapTables, Dialect.fullTableName_unqualified]
  rfl

theorem experimentDates_qualified : s.qualified.experimentDates = s.experimentDates := by
  funext horizon
  unfold experimentDates
  simp only [column_qualified, timestampColumn_qualified]
  simp only [qualified, SourceSettings.mapTables, Dialect.fullTableName_unqualified]
  rfl

/-! ### Queries -/

theorem populationTables_qualified (a : Analysis) :
    s.qualified.populationTables (a.mapTable s.dialect.fullTableName) = s.populationTables a := by
  obtain ⟨experiment, phase, activation, dimension, now⟩ := a
  unfold populationTables
  rw [dimensionTable_qualified]
  cases activation with
  | none => rfl
  | some m =>
    simp only [Analysis.mapTable, Option.map_some, Option.toList_some, List.mapM_cons,
      List.mapM_nil, metricTable_qualified]

theorem visitorTables_qualified : s.qualified.visitorTables = s.visitorTables := by
  funext p
  unfold visitorTables
  rw [pageUsersTable_qualified, segmentTable_qualified]

/-- The window and the value of a metric do not depend on its table. -/
theorem userMetricTable_qualified (m : MetricDefinition) :
    s.qualified.userMetricTable (m.mapTable s.dialect.fullTableName) = s.userMetricTable m :=
  rfl

theorem usersQuery_qualified : s.qualified.usersQuery = s.usersQuery := by
  funext p
  unfold usersQuery
  rw [visitorTables_qualified]
  rfl

theorem metricValueQuery_qualified (p : MetricValueParams) :
    s.qualified.metricValueQuery (p.mapTable s.dialect.fullTableName) = s.metricValueQuery p := by
  unfold metricValueQuery
  rw [visitorTables_qualified]
  simp only [MetricValueParams.mapTable, metricTable_qualified, userMetricTable_qualified]
  rfl

theorem composedUsersQuery_qualified (a : Analysis) :
    s.qualified.composedUsersQuery (a.mapTable s.dialect.fullTableName) =
      s.composedUsersQuery a := by
  unfold composedUsersQuery
  rw [experimentTable_qualified, populationTables_qualified]
  obtain ⟨experiment, phase, activation, dimension, now⟩ := a
  cases activation <;> rfl

theorem composedMetricQuery_qualified (a : Analysis) (m : MetricDefinition) :
    s.qualified.composedMetricQuery (a.mapTable s.dialect.fullTableName)
      (m.mapTable s.dialect.fullTableName) = s.composedMetricQuery a m := by
  unfold composedMetricQuery
  rw [experimentTable_qualified, populationTables_qualified, metricTable_qualified,
    userMetricTable_qualified]
  obtain ⟨experiment, phase, activation, dimension, now⟩ := a
  cases activation <;> rfl

theorem experimentUsersQuery_qualified (a : Analysis) :
    s.qualified.experimentUsersQuery (a.mapTable s.dialect.fullTableName) =
      s.experimentUsersQuery a := by
  unfold experimentUsersQuery
  rw [composedUsersQuery_qualified]
  rfl

theorem experimentMetricQuery_qualified (a : Analysis) (m : MetricDefinition) :
    s.qualified.experimentMetricQuery (a.mapTable s.dialect.fullTableName)
      (m.mapTable s.dialect.fullTableName) = s.experimentMetricQuery a m := by
  unfold experimentMetricQuery
  rw [composedMetricQuery_qualified]
  rfl

theorem pastExperimentsQuery_qualified :
    s.qualified.pastExperimentsQuery = s.pastExperimentsQuery := by
  funext dateFrom
  unfold pastExperimentsQuery
  rw [experimentDates_qualified]
  rfl

/-- In BigQuery a project and a dataset qualify each table that a query reads, once, and change
nothing else: every query and every derived table, and every fault, is the one composed without
them from settings and metrics that give the qualified names. -/
theorem bigquery_qualifies_uniformly (settings : SourceSettings) (project dataset : Option String) :
    let full := (Dialect.mk .bigquery project dataset).fullTableName
    let s : Source := ⟨settings, ⟨.bigquery, project, dataset⟩⟩
    let plain : Source := ⟨settings.mapTables full, ⟨.bigquery, none, none⟩⟩
    (∀ table, plain.dialect.fullTableName table = table) ∧
      (∀ p, s.usersQuery p = plain.usersQuery p) ∧
      (∀ p, s.metricValueQuery p = plain.metricValueQuery (p.mapTable full)) ∧
      (∀ a, s.experimentUsersQuery a = plain.experimentUsersQuery (a.mapTable full)) ∧
      (∀ a m, s.experimentMetricQuery a m =
        plain.experimentMetricQuery (a.mapTable full) (m.mapTable full)) ∧
      (∀ dateFrom, s.pastExperimentsQuery dateFrom = plain.pastExperimentsQuery dateFrom) ∧
      (∀ p, s.pageUsersTable p = plain.pageUsersTable p) ∧
      (∀ g idType, s.segmentTable g idType = plain.segmentTable g idType) ∧
      (∀ d idType, s.dimensionTable d idType = plain.dimensionTable d idType) ∧
      (∀ m idType, s.metricTable m idType = plain.metricTable (m.mapTable full) idType) ∧
      (∀ e phase idType, s.experimentTable e phase idType = plain.experimentTable e phase idType) ∧
      (∀ native column, s.identifiesJoin column native = plain.identifiesJoin column native) := by
  intro full s plain
  have hplain : plain = s.qualified := rfl
  rw [hplain]
  refine ⟨fun table => s.dialect.fullTableName_unqualified table, fun p => ?_, fun p => ?_,
    fun a => ?_, fun a m => ?_, fun dateFrom => ?_, fun p => ?_, fun g idType => ?_,
    fun d idType => ?_, fun m idType => ?_, fun e phase idType => ?_, fun native column => ?_⟩
  · rw [usersQuery_qualified]
  · exact (s.metricValueQuery_qualified p).symm
  · exact (s.experimentUsersQuery_qualified a).symm
  · exact (s.experimentMetricQuery_qualified a m).symm
  · rw [pastExperimentsQuery_qualified]
  · rw [pageUsersTable_qualified]
  · rw [segmentTable_qualified]
  · rw [dimensionTable_qualified]
  · rw [← s.metricTable_qualified m]
  · rw [experimentTable_qualified]
  · rw [identifiesJoin_qualified]

end Source

end SplitTest
