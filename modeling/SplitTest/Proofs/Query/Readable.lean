import SplitTest.Proofs.Except
import SplitTest.Proofs.Query.Fragments

/-! Composed queries are readable: a scanner sees in them what they are meant to be, as long as this
holds for the texts that stand in them as they are, and every name is of one line. -/

namespace SplitTest

open Scan

/-! ### Derived tables -/

namespace Source

variable {s : Source} (hs : ∀ t ∈ s.texts, Closed t.toList)
include hs

theorem metricTable_readable {m : MetricDefinition} {idType : IdType} {q : Sql}
    (htexts : ∀ t ∈ m.texts, Closed t.toList) (hcolumn : ∀ column ∈ m.column, Plain column.toList)
    (hname : OneLine m.name) (hq : s.metricTable m idType = .ok q) : q.Readable := by
  obtain ⟨value, hvalue, hq⟩ := Except.bind_eq_ok.mp hq
  obtain rfl := Except.ok.inj hq
  have hown (role : ColumnRole) : Closed (s.settings.column role .default m).toList :=
    closed_column hs role .default fun _ hm => Option.mem_some.mp hm ▸ htexts
  obtain ⟨hcolumn', hjoin⟩ := reconcile_readable hs idType m.userIdType (.of rfl : Tight "m")
    (hown m.userIdType.role) (hown idType.role)
  have hvalue' := MetricDefinition.rawValue_readable hcolumn hvalue
  have htime : (Sql.code "m." ++ Sql.code (s.settings.timestampColumn .default m)).Readable :=
    .before (.code (.of rfl)) (.code (hown .timestamp))
  have htable : (Sql.code (s.dialect.fullTableName m.table)).Readable :=
    .code (closed_fullTableName hs (htexts m.table List.mem_cons_self))
  have hfilter : (if m.conditions.isEmpty then Sql.empty
      else .concat ["WHERE\n      ", s.conditions m "m"]).Framed := by
    split
    · exact .empty
    · exact .slot (.of rfl) (s.conditions_readable htexts) .nil
  refine .comment (.between (.of rfl) hname (.of rfl)) .of
    (.slot (.of rfl) hcolumn' (.slot (.of rfl) hvalue' ?_))
  refine .slot (.of rfl) htime (.slot (.of rfl) (s.dialect.addHours_readable htime _) ?_)
  refine .slot (.of rfl) (s.dialect.subtractMinutes_readable htime) (.slot (.of rfl) htable ?_)
  exact .slot (.of rfl) hjoin.readable (.slot (.of rfl) hfilter.readable (.last (.of rfl)))

theorem experimentTable_readable {e : ExperimentDefinition} {phase : ExperimentPhase}
    {idType : IdType} {q : Sql} (hq : s.experimentTable e phase idType = .ok q) : q.Readable := by
  have hown (role : ColumnRole) := closed_sectionColumn hs role .experiments
  have hsetting {t : String} (h : t ∈ s.settings.texts) : (Sql.code t).Readable :=
    .code (closed_setting hs h)
  obtain ⟨hcolumn, hjoin⟩ := reconcile_readable hs idType e.userIdType (.of rfl : Tight "e")
    (hown e.userIdType.role) (hown idType.role)
  have htime :
      (Sql.code "e." ++ Sql.code (s.settings.timestampColumn .experiments none)).Readable :=
    .before (.code (.of rfl)) (.code (hown .timestamp))
  have htable : (Sql.code (s.dialect.fullTableName s.settings.experiments.table)).Readable :=
    settingTable_readable hs (by simp [SourceSettings.texts])
  have hvariation : (Sql.code s.settings.variationColumn).Readable :=
    hsetting (by simp [SourceSettings.texts, SourceSettings.variationColumn])
  have hexperiment : (Sql.code s.settings.experimentIdColumn).Readable :=
    hsetting (by simp [SourceSettings.texts, SourceSettings.experimentIdColumn])
  obtain ⟨first, last, hfirst, hlast, rfl⟩ := withinPhase_eq_ok hq
  have hfirst := s.dialect.readable_of_formatTimestamp hfirst
  have hlast : last.Framed := by
    obtain rfl | ⟨t, ended, hended, rfl⟩ := hlast
    · exact .empty
    · exact .slot (.of rfl) htime
        (.slot (.of rfl) (s.dialect.readable_of_formatTimestamp hended) .nil)
  refine .comment (.of rfl) .of (.slot (.of rfl) hcolumn (.slot (.of rfl) hvariation ?_))
  refine .slot (.of rfl) htime (.slot (.of rfl) (s.dialect.addHours_readable htime _) ?_)
  refine .slot (.of rfl) (s.dialect.subtractMinutes_readable htime) (.slot (.of rfl) htable ?_)
  refine .slot (.of rfl) hjoin.readable (.slot (.of rfl) hexperiment ?_)
  refine .slot (.of rfl) (.literal _) (.slot (.of rfl) htime (.slot (.of rfl) hfirst ?_))
  exact .next hlast (.last (.of rfl))

theorem segmentTable_readable {g : SegmentDefinition} (hsql : Closed g.sql.toList)
    (hname : OneLine g.name) (idType : IdType) : (s.segmentTable g idType).Readable := by
  have hid : Closed "user_id".toList := (Tight.of rfl).closed
  obtain ⟨hcolumn, hjoin⟩ :=
    reconcile_readable hs idType g.userIdType (.of rfl : Tight "s") hid hid
  refine .comment (.between (.of rfl) hname (.of rfl)) .of
    (.slot (.of rfl) hcolumn (.slot (.of rfl) (.code hsql) ?_))
  exact .slot (.of rfl) hjoin.readable (.last (.of rfl))

theorem dimensionTable_readable {d : DimensionDefinition} (hsql : Closed d.sql.toList)
    (hname : OneLine d.name) (idType : IdType) : (s.dimensionTable d idType).Readable := by
  have hid : Closed "user_id".toList := (Tight.of rfl).closed
  obtain ⟨hcolumn, hjoin⟩ :=
    reconcile_readable hs idType d.userIdType (.of rfl : Tight "d") hid hid
  refine .comment (.between (.of rfl) hname (.of rfl)) .of
    (.slot (.of rfl) hcolumn (.slot (.of rfl) (.code hsql) ?_))
  exact .slot (.of rfl) hjoin.readable (.last (.of rfl))

end Source

/-! ### Queries of experiments -/

theorem DerivedTable.sql_readable {name : String} {body : Sql} (hname : Tight name)
    (hbody : body.Readable) : (DerivedTable.mk name body).sql.Readable :=
  .tight hname (.slot (.of rfl) hbody (.last (.of rfl)))

/-- A query whose title is of one line and whose tables and body are readable. -/
structure Query.IsReadable (q : Query) : Prop where
  title : OneLine q.title
  separator : Tight q.separator
  tables : ∀ t ∈ q.tables, t.sql.Readable
  body : q.body.Readable

theorem Query.IsReadable.sql {q : Query} (h : q.IsReadable) : q.sql.Readable :=
  .comment h.title .of (.slot (.of rfl) (.join h.separator (List.forall_mem_map.mpr h.tables))
    (.slot (.of rfl) h.body .nil))

namespace Analysis

variable (a : Analysis)

theorem distinctUsersHead_readable : a.distinctUsersHead.Readable := by
  have hvalue : a.dimensionValue.Readable := by
    unfold dimensionValue
    split
    · exact (.of_tight (.of rfl))
    · exact .literal _
  exact .tight (.of rfl) (.comment (.of rfl) .of (.slot (.of rfl) hvalue (.last (.of rfl))))

theorem distinctUserJoins_readable : a.distinctUserJoins.Readable := by
  unfold distinctUserJoins dimensionJoins activationJoins
  refine .join (.of rfl) (List.forall_mem_append.mpr ⟨?_, ?_⟩)
  · split
    · exact List.forall_mem_singleton.mpr (.of_tight (.of rfl))
    · exact List.forall_mem_nil _
  · split
    · refine List.forall_mem_singleton.mpr (Sql.Sealed.framed ?_).readable
      exact .append (.append (.code (.of rfl)) (.code (.of rfl))) (.code (.of rfl))
    · exact List.forall_mem_nil _

theorem distinctUsersTail_framed : a.distinctUsersTail.Framed := by
  have hgroup : a.dimensionGroup.Framed := by
    unfold dimensionGroup
    split
    · exact .code (.of rfl)
    · exact .empty
  exact .slot (.of rfl) a.distinctUserJoins_readable
    (.slot (.of rfl) hgroup.readable (.last (.of rfl)))

end Analysis

namespace Source

variable {s : Source} (hs : ∀ t ∈ s.texts, Closed t.toList)
include hs

theorem populationTables_readable {a : Analysis} {ts : List DerivedTable}
    (htexts : ∀ t ∈ a.texts, Closed t.toList)
    (hcolumns : ∀ column ∈ a.columns, Plain column.toList)
    (hnames : ∀ name ∈ a.names, OneLine name) (hts : s.populationTables a = .ok ts) :
    ∀ t ∈ ts, t.sql.Readable := by
  simp only [Analysis.texts, Analysis.columns, Analysis.names, List.forall_mem_append,
    List.forall_mem_map, List.forall_mem_flatMap, Option.mem_toList] at htexts hcolumns hnames
  refine forall_mem_populationTables hts (fun d hd => ?_) fun m hm table htable => ?_
  · exact DerivedTable.sql_readable (.of rfl)
      (dimensionTable_readable hs (htexts.1 d hd) (hnames.1 d hd) _)
  · exact DerivedTable.sql_readable (.of rfl)
      (metricTable_readable hs (htexts.2 m hm) (hcolumns m hm) (hnames.2 m hm) htable)

theorem composedUsersQuery_readable {a : Analysis} {q : Query}
    (htexts : ∀ t ∈ a.texts, Closed t.toList)
    (hcolumns : ∀ column ∈ a.columns, Plain column.toList)
    (hnames : ∀ name ∈ a.names, OneLine name) (hq : s.composedUsersQuery a = .ok q) :
    q.IsReadable := by
  obtain ⟨views, hviews, hq⟩ := Except.bind_eq_ok.mp hq
  obtain ⟨population, hpopulation, hq⟩ := Except.bind_eq_ok.mp hq
  obtain rfl := Except.ok.inj hq
  refine Query.IsReadable.mk (.of rfl) (.of rfl) ?_ ?_
  · simp only [List.forall_mem_append, List.forall_mem_cons]
    refine ⟨⟨DerivedTable.sql_readable (.of rfl) (experimentTable_readable hs hviews), ?_⟩, ?_, ?_⟩
    · exact populationTables_readable hs htexts hcolumns hnames hpopulation
    · exact DerivedTable.sql_readable (.of rfl) (.next a.distinctUsersHead_readable
        (.next a.distinctUsersTail_framed .nil))
    · exact List.forall_mem_nil _
  · show (Sql.concat [.comment _, .code _, .code _]).Readable
    exact .comment (.of rfl) .of (.tight (.of rfl) (.last (.of rfl)))

omit hs in
theorem userMetricTable_readable (m : MetricDefinition) {name comment : String}
    {columns groups : Sql} (hname : Tight name) (hcomment : OneLine comment)
    (hcolumns : columns.Readable) (hgroups : groups.Readable) :
    (s.userMetricTable m name comment columns groups).sql.Readable := by
  have hvalue : (m.aggregateValue "m.value").Framed :=
    m.aggregateValue_framed (.of_tight (.of rfl))
  have hsource : (Sql.code " as value\n      FROM\n        __distinctUsers d\n" ++
      Sql.code "        JOIN __metric m ON (\n          ").Sealed :=
    .append (.code (.of rfl)) (.code (.of rfl))
  refine DerivedTable.sql_readable hname (.tight (.of rfl) (.comment hcomment .of ?_))
  refine .slot (.of rfl) hcolumns (.next hvalue (.next hsource.framed ?_))
  exact .next (s.conversionWindowJoin_framed m) (.slot (.of rfl) hgroups (.last (.of rfl)))

omit hs in
theorem tight_momentColumns : Tight momentColumns :=
  .of rfl

theorem composedMetricQuery_readable {a : Analysis} {m : MetricDefinition} {q : Query}
    (htexts : ∀ t ∈ a.texts ++ m.texts, Closed t.toList)
    (hcolumns : ∀ column ∈ a.columns ++ m.column.toList, Plain column.toList)
    (hnames : ∀ name ∈ m.name :: a.names, OneLine name) (hq : s.composedMetricQuery a m = .ok q) :
    q.IsReadable := by
  obtain ⟨htexts, hmtexts⟩ := List.forall_mem_append.mp htexts
  obtain ⟨hcolumns, hmcolumn⟩ := List.forall_mem_append.mp hcolumns
  obtain ⟨hmname, hnames⟩ := List.forall_mem_cons.mp hnames
  replace hmcolumn : ∀ column ∈ m.column, Plain column.toList := fun column hcolumn =>
    hmcolumn column (Option.mem_toList.mpr hcolumn)
  obtain ⟨views, hviews, hq⟩ := Except.bind_eq_ok.mp hq
  obtain ⟨population, hpopulation, hq⟩ := Except.bind_eq_ok.mp hq
  obtain ⟨metric, hmetric, hq⟩ := Except.bind_eq_ok.mp hq
  obtain rfl := Except.ok.inj hq
  refine Query.IsReadable.mk ?_ (.of rfl) ?_ ?_
  · exact .append (.append (.append hmname (.of rfl)) m.type.oneLine_name) (.of rfl)
  · simp only [List.forall_mem_append, List.forall_mem_cons]
    refine ⟨⟨?_, ?_, ?_⟩, ?_, ?_, List.forall_mem_nil _⟩
    · exact DerivedTable.sql_readable (.of rfl) (experimentTable_readable hs hviews)
    · exact DerivedTable.sql_readable (.of rfl)
        (metricTable_readable hs hmtexts hmcolumn hmname hmetric)
    · exact populationTables_readable hs htexts hcolumns hnames hpopulation
    · refine DerivedTable.sql_readable (.of rfl) (.next a.distinctUsersHead_readable
        (.tight ?_ (.next a.distinctUsersTail_framed.readable .nil)))
      refine .append (.append (.append (.append (.append (.append (.of rfl) ?_) (.of rfl)) ?_)
        (.of rfl)) ?_) (.of rfl)
      all_goals split <;> exact .of rfl
    · exact userMetricTable_readable m (.of rfl) (.of rfl) (.of_tight (.of rfl))
        (.of_tight (.of rfl))
  · show (Sql.concat [.comment _, .code _, .code momentColumns, .code _]).Readable
    exact .comment (.of rfl) .of (.tight (.of rfl) (.tight tight_momentColumns (.last (.of rfl))))

/-! ### Visitors of pages -/

theorem pageUsersTable_readable {p : UsersQueryParams} {q : Sql}
    (hq : s.pageUsersTable p = .ok q) : q.Readable := by
  have hown (role : ColumnRole) : (Sql.code (s.settings.column role .pageviews none)).Readable :=
    .code (closed_sectionColumn hs role .pageviews)
  have hvisit : (Sql.code "MIN(" ++ Sql.code (s.settings.timestampColumn .pageviews none) ++
      Sql.code ")").Readable :=
    ((Sql.Framed.before (.code (.of rfl)) (hown .timestamp)).append (.code (.of rfl))).readable
  have htable : (Sql.code (s.dialect.fullTableName s.settings.pageviews.table)).Readable :=
    settingTable_readable hs (by simp [SourceSettings.texts])
  have hurl : (Sql.code s.settings.pageviews.urlColumn).Readable :=
    .code (closed_setting hs (by simp [SourceSettings.texts]))
  obtain ⟨first, hfirst, hq⟩ := Except.bind_eq_ok.mp hq
  obtain ⟨last, hlast, hq⟩ := Except.bind_eq_ok.mp hq
  obtain rfl := Except.ok.inj hq
  have hfirst := s.dialect.readable_of_formatTimestamp hfirst
  have hlast := s.dialect.readable_of_formatTimestamp hlast
  refine .comment (.of rfl) .of (.slot (.of rfl) (hown p.userIdType.role) ?_)
  refine .slot (.of rfl) hvisit (.slot (.of rfl) (s.dialect.addHours_readable hvisit _) ?_)
  refine .slot (.of rfl) (s.dialect.subtractMinutes_readable hvisit) (.slot (.of rfl) htable ?_)
  refine .slot (.of rfl) (hown .timestamp) (.slot (.of rfl) hfirst ?_)
  refine .slot (.of rfl) (hown .timestamp) (.slot (.of rfl) hlast (.next ?hfilter ?hgroup))
  case hfilter =>
    split
    · exact .slot (.of rfl) (s.dialect.regexMatch_readable hurl _) .nil
    · exact .empty
  case hgroup => exact .slot (.of rfl) (hown p.userIdType.role) (.last (.of rfl))

theorem visitorTables_readable {p : UsersQueryParams} {ts : List DerivedTable}
    (htexts : ∀ t ∈ p.texts, Closed t.toList) (hnames : ∀ name ∈ p.names, OneLine name)
    (hts : s.visitorTables p = .ok ts) : ∀ t ∈ ts, t.sql.Readable := by
  simp only [UsersQueryParams.texts, UsersQueryParams.names, List.forall_mem_cons,
    List.forall_mem_map, Option.mem_toList] at htexts hnames
  obtain ⟨users, husers, rfl⟩ := visitorTables_eq_ok.mp hts
  refine List.forall_mem_cons.mpr ⟨?_, List.forall_mem_map.mpr fun g hg => ?_⟩
  · exact DerivedTable.sql_readable (.of rfl) (pageUsersTable_readable hs husers)
  · have hg := Option.mem_toList.mp hg
    exact DerivedTable.sql_readable (.of rfl)
      (segmentTable_readable hs (htexts g hg) (hnames.2 g hg) _)

omit hs in
theorem segmentJoin_readable (p : UsersQueryParams) : p.segmentJoin.Readable := by
  unfold UsersQueryParams.segmentJoin
  split
  · exact (.of_tight (.of rfl))
  · exact Sql.Framed.empty.readable

omit hs in
theorem dateColumn_readable (p : UsersQueryParams) : p.dateColumn.Readable := by
  unfold UsersQueryParams.dateColumn
  split
  · exact (.of_tight (.of rfl))
  · exact Sql.Framed.empty.readable

theorem usersQuery_readable {p : UsersQueryParams} {q : Query}
    (htexts : ∀ t ∈ p.texts, Closed t.toList) (hnames : ∀ name ∈ p.names, OneLine name)
    (hq : s.usersQuery p = .ok q) : q.IsReadable := by
  obtain ⟨ts, hts, hq⟩ := Except.bind_eq_ok.mp hq
  obtain rfl := Except.ok.inj hq
  have hday : (s.dialect.dateTrunc "u.actual_start").Readable :=
    (s.dialect.dateTrunc_framed (.of_tight (.of rfl))).readable
  refine Query.IsReadable.mk ?_ (.of rfl) (visitorTables_readable hs htexts hnames hts) ?_
  · exact .append (hnames _ List.mem_cons_self) (.of rfl)
  · refine .slot (.of rfl) (dateColumn_readable p) (.slot (.of rfl) (segmentJoin_readable p)
      (.slot (.of rfl) ?_ (.last (.of rfl))))
    split
    · exact .slot (.of rfl) hday (.slot (.of rfl) (segmentJoin_readable p)
        (.slot (.of rfl) hday (.last (.of rfl))))
    · exact Sql.Framed.empty.readable

omit hs in
theorem percentileColumns_readable (m : MetricDefinition) {column : Option Sql}
    (hcolumn : ∀ c ∈ column, c.Readable) : (s.percentileColumns m column).Framed := by
  unfold percentileColumns
  split
  · exact .empty
  · refine .slot (.of rfl) (.join (.of rfl) (List.forall_mem_map.mpr fun fraction _ => ?_)) .nil
    have halias : (Sql.code (percentileAlias fraction)).Readable := by
      have hp : Calm "p" := .of rfl
      exact .code (hp.append_plain (plain_int _)).closed
    split
    · exact .next (s.dialect.percentile_framed (hcolumn _ rfl) fraction).readable
        (.slot (.of rfl) halias .nil)
    · exact .tight (.of rfl) (.slot (.of rfl) halias .nil)

theorem metricValueQuery_readable {p : MetricValueParams} {q : Query}
    (htexts : ∀ t ∈ p.toUsersQueryParams.texts ++ p.metric.texts, Closed t.toList)
    (hcolumn : ∀ column ∈ p.metric.column, Plain column.toList)
    (hnames : ∀ name ∈ p.metric.name :: p.toUsersQueryParams.names, OneLine name)
    (hq : s.metricValueQuery p = .ok q) : q.IsReadable := by
  obtain ⟨htexts, hmtexts⟩ := List.forall_mem_append.mp htexts
  obtain ⟨hmname, hnames⟩ := List.forall_mem_cons.mp hnames
  obtain ⟨visitors, hvisitors, hq⟩ := Except.bind_eq_ok.mp hq
  obtain ⟨metric, hmetric, hq⟩ := Except.bind_eq_ok.mp hq
  obtain rfl := Except.ok.inj hq
  have hday : (s.dialect.dateTrunc "d.actual_start").Framed :=
    s.dialect.dateTrunc_framed (.of_tight (.of rfl))
  have hladder {column : Option Sql} (h : ∀ c ∈ column, c.Readable) :
      (if p.includePercentiles then s.percentileColumns p.metric column else .empty).Framed := by
    split
    · exact percentileColumns_readable p.metric h
    · exact .empty
  have hmoments {start : String} (h : Tight start) :
      (Sql.code start ++ Sql.code momentColumns).Framed :=
    .before (.code h) (Sql.Framed.code tight_momentColumns).readable
  refine Query.IsReadable.mk ?_ (.of rfl) ?_ ?_
  · exact .append (.append (.append (hnames _ List.mem_cons_self) (.of rfl)) hmname) (.of rfl)
  · simp only [List.forall_mem_append, List.forall_mem_cons]
    refine ⟨⟨?_, ?_, ?_, ?_, List.forall_mem_nil _⟩, ?_⟩
    · exact visitorTables_readable hs htexts hnames hvisitors
    · exact DerivedTable.sql_readable (.of rfl)
        (metricTable_readable hs hmtexts hcolumn hmname hmetric)
    · refine DerivedTable.sql_readable (.of rfl) (Sql.Framed.readable (.before ?_
        (.next (segmentJoin_readable _) (.last (.of rfl)))))
      exact .append (.append (.append (.code (.of rfl)) (.code (.of rfl))) (.code (.of rfl)))
        (.code (.of rfl))
    · exact userMetricTable_readable p.metric (.of rfl) (.of rfl) Sql.Framed.empty.readable
        (.of_tight (.of rfl))
    · split
      · refine List.forall_mem_singleton.mpr ?_
        exact userMetricTable_readable p.metric (.of rfl) (.of rfl)
          (.next hday.readable (.last (.of rfl))) (.next hday.readable (.last (.of rfl)))
      · exact List.forall_mem_nil _
  · refine .slot (.of rfl) (dateColumn_readable p.toUsersQueryParams) (.next (hmoments (.of rfl))
      (.next (hladder ?_) (.slot (.of rfl) ?_ (.last (.of rfl)))))
    · rintro _ ⟨⟩
      exact (.of_tight (.of rfl))
    · split
      · refine .next (hmoments (.of rfl)).readable (.next (hladder ?_) (.next ?_ .nil))
        · simp
        · exact Sql.Sealed.framed (.append (.code (.of rfl)) (.code (.of rfl)))
      · exact Sql.Framed.empty.readable

/-! ### Compositions -/

/-- A composed query is readable if the texts are that stand in it as they are. -/
theorem composed_readable {c : Composition} {q : Query} (htexts : ∀ t ∈ c.texts, Closed t.toList)
    (hcolumns : ∀ column ∈ c.columns, Plain column.toList)
    (hnames : ∀ name ∈ c.names, OneLine name) (hq : s.composed c = .ok q) : q.IsReadable := by
  cases c with
  | users p => exact usersQuery_readable hs htexts hnames hq
  | metricValue p =>
    have hcolumn : ∀ column ∈ p.metric.column, Plain column.toList := fun column h =>
      hcolumns column (Option.mem_toList.mpr h)
    exact metricValueQuery_readable hs htexts hcolumn hnames hq
  | experimentUsers a => exact composedUsersQuery_readable hs htexts hcolumns hnames hq
  | experimentMetric a m => exact composedMetricQuery_readable hs htexts hcolumns hnames hq

theorem compose_readable {c : Composition} {q : Sql} (hown : c.isOverridden = false)
    (htexts : ∀ t ∈ c.texts, Closed t.toList)
    (hcolumns : ∀ column ∈ c.columns, Plain column.toList)
    (hnames : ∀ name ∈ c.names, OneLine name) (hq : s.compose c = .ok q) : q.Readable := by
  rw [s.compose_of_not_overridden hown] at hq
  obtain ⟨query, hquery, rfl⟩ := Except.map_eq_ok.mp hq
  exact (composed_readable hs htexts hcolumns hnames hquery).sql

end Source
end SplitTest
