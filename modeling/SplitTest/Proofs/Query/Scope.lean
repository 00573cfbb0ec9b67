import SplitTest.Proofs.Query.Discovery
import SplitTest.Proofs.Query.Statement
import SplitTest.Proofs.Sql.Mentions

/-! Which derived tables each part of a query names.  The texts of the settings and of the arguments
name none, so a part names those that its template has, and each name is in scope. -/

namespace SplitTest

open Scan

/-! ### Tables of users -/

namespace Source

variable {s : Source} (hs : ∀ t ∈ s.texts, Watchword.tableMark.Absent t)
include hs

theorem identifiesJoin_woven {nativeColumn : Sql} (hcolumn : nativeColumn.Woven .tableMark)
    (native : IdType) : (s.identifiesJoin nativeColumn native).Woven .tableMark := by
  have htable : Watchword.tableMark.Absent (s.dialect.fullTableName s.settings.identifies.table) :=
    absent_settingTable hs (by simp [SourceSettings.texts])
  have hjoin : (Sql.code "JOIN ").Woven .tableMark := .code (by decide)
  refine hjoin.append_of (.slot (.code htable) (.next rfl (.slot (.code
    (absent_sectionColumn hs _ _)) (.next rfl (.slot hcolumn (.next rfl .nil)))))) ?_
  exact fun x hx _ _ => .inl (Sql.Ends.code rfl x hx)

theorem reconcile_join_woven (requested native : IdType)
    {tableName nativeColumn requestedColumn : String}
    (htable : Watchword.tableMark.Absent tableName)
    (hnative : Watchword.tableMark.Absent nativeColumn) :
    (s.reconcile requested native tableName nativeColumn requestedColumn).join.Woven
      .tableMark := by
  unfold reconcile
  split
  · exact Sql.Edged.empty.toWoven
  · exact identifiesJoin_woven hs (column_woven htable hnative) native

theorem metricTable_woven {m : MetricDefinition} {idType : IdType} {q : Sql}
    (htexts : ∀ t ∈ m.texts, Watchword.tableMark.Absent t)
    (hcolumn : ∀ column ∈ m.column, Watchword.tableMark.Absent column)
    (hq : s.metricTable m idType = .ok q) : q.Woven .tableMark := by
  refine (metricTable_takesUsers hs htexts hcolumn nofun nofun hq).woven ?_
  refine reconcile_join_woven hs _ _ (Watchword.absent_of_check _ rfl) ?_
  exact forall_column Watchword.absent_builtin hs _ .default fun _ hm =>
    Option.mem_some.mp hm ▸ htexts

theorem experimentTable_woven {e : ExperimentDefinition} {phase : ExperimentPhase}
    {idType : IdType} {q : Sql} (hq : s.experimentTable e phase idType = .ok q) :
    q.Woven .tableMark :=
  (experimentTable_takesUsers hs nofun hq).woven (reconcile_join_woven hs _ _
    (Watchword.absent_of_check _ rfl) (absent_sectionColumn hs _ .experiments))

theorem segmentTable_woven {g : SegmentDefinition} (hsql : Watchword.tableMark.Absent g.sql)
    (idType : IdType) : (s.segmentTable g idType).Woven .tableMark :=
  (segmentTable_takesUsers hs hsql nofun idType).woven (reconcile_join_woven hs _ _
    (Watchword.absent_of_check _ rfl) (Watchword.absent_of_check _ rfl))

theorem dimensionTable_woven {d : DimensionDefinition} (hsql : Watchword.tableMark.Absent d.sql)
    (idType : IdType) : (s.dimensionTable d idType).Woven .tableMark :=
  (dimensionTable_takesUsers hs hsql nofun idType).woven (reconcile_join_woven hs _ _
    (Watchword.absent_of_check _ rfl) (Watchword.absent_of_check _ rfl))

end Source

/-! ### Names of the tables that a query may have -/

/-- The table of the segment, if there is one. -/
def UsersQueryParams.segmentNames (p : UsersQueryParams) : List (List Char) :=
  if p.segment.isSome then ["__segment".toList] else []

/-- The tables of the dimension and of the activation metric, where there are any. -/
def Analysis.populationNames (a : Analysis) : List (List Char) :=
  (if a.dimension.isSome then ["__dimension".toList] else []) ++
    if a.activation.isSome then ["__activationMetric".toList] else []

/-- Tables that name no other. -/
def Query.roots (names : List (List Char)) : List (List Char × List (List Char)) :=
  names.map fun name => (name, [])

/-- A query with listed tables whose statement is scoped. -/
structure Query.IsScoped (q : Query) : Prop extends q.IsListed where
  statement : q.statement.IsScoped

/-- A query is scoped if the names that its parts mention are. -/
theorem Query.IsScoped.of_links {q : Query} (links : List (List Char × List (List Char)))
    (last : List (List Char))
    (hseparator : q.separator = leadingComma ∨ q.separator = trailingComma)
    (htables : List.Forall₂ DerivedTable.Links q.tables links) (hbody : q.body.Mentions last)
    (h : links ≠ [] ∧ (∀ link ∈ links, IsWord link.1) ∧ Statement.Linked last [] links) :
    q.IsScoped := by
  obtain ⟨hne, hwords, hlinked⟩ := h
  refine ⟨⟨?_, fun t ht => ?_, hseparator⟩, Statement.inScope_of_linked htables hbody hlinked⟩
  · intro hnil
    rw [hnil] at htables
    cases htables
    exact hne rfl
  · obtain ⟨link, hmem, hlink⟩ := Except.exists_of_forall₂ htables t ht
    exact hlink.name ▸ hwords link hmem

namespace Analysis

variable (a : Analysis)

theorem distinctUsersHead_woven : a.distinctUsersHead.Woven .tableMark := by
  have hvalue : a.dimensionValue.Woven .tableMark := by
    unfold dimensionValue
    split
    · exact .word rfl
    · exact .literal nofun
  refine .opens rfl (.slot (.comment nofun) (.next rfl (.slot hvalue ?_)))
  exact .starts rfl rfl .nil

theorem distinctUserJoins_mentions : a.distinctUserJoins.Mentions a.populationNames := by
  have hdimension : (Sql.code "JOIN __dimension d ON (d.user_id = e.user_id)").Mentions
      ["__dimension".toList] := .code (by decide +kernel)
  have hactivation : (Sql.code "JOIN __activationMetric a ON (\n        a.user_id = e.user_id\n" ++
      Sql.code "        AND a.actual_start >= e.actual_start\n" ++
      Sql.code "        AND a.actual_start <= e.conversion_end\n      )").Mentions
      ["__activationMetric".toList] :=
    .append_word (.append_word (.code (by decide +kernel)) rfl) rfl
  unfold distinctUserJoins dimensionJoins activationJoins populationNames
  cases a.dimension.isSome <;> cases a.activation.isSome
  case false.false => exact .nil
  case false.true => exact .only hactivation .nil
  case true.false => exact .only hdimension .nil
  case true.true => exact .slot hdimension (.next rfl (.only hactivation .nil))

theorem distinctUsersTail_parted :
    a.distinctUsersTail.Parted ("__experiment".toList :: a.populationNames) := by
  have hgroup : a.dimensionGroup.Parted [] := by
    unfold dimensionGroup
    split
    · exact .starts rfl rfl .nil
    · exact .empty
  exact .names ["__experiment".toList] rfl rfl (by decide +kernel)
    (.only a.distinctUserJoins_mentions (.starts rfl rfl (.slot hgroup (.next rfl .nil))))

end Analysis

/-! ### Tables of users in a query -/

namespace Source

open Discovery

variable {s : Source} (hs : ∀ t ∈ s.texts, Watchword.tableMark.Absent t)
include hs

theorem visitorTables_links {p : UsersQueryParams} {ts : List DerivedTable}
    (htexts : ∀ t ∈ p.texts, Watchword.tableMark.Absent t) (hts : s.visitorTables p = .ok ts) :
    List.Forall₂ DerivedTable.Links ts (Query.roots ("__users".toList :: p.segmentNames)) := by
  simp only [UsersQueryParams.texts, List.forall_mem_map, Option.mem_toList] at htexts
  obtain ⟨users, husers, rfl⟩ := visitorTables_eq_ok.mp hts
  refine .cons ⟨rfl, .of_woven (pageUsersTable_woven hs Watchword.noConfusion husers)⟩ ?_
  unfold UsersQueryParams.segmentNames
  cases hg : p.segment with
  | none => exact .nil
  | some g => exact .cons ⟨rfl, .of_woven (segmentTable_woven hs (htexts g hg) _)⟩ .nil

theorem populationTables_links {a : Analysis} {ts : List DerivedTable}
    (htexts : ∀ t ∈ a.texts, Watchword.tableMark.Absent t)
    (hcolumns : ∀ column ∈ a.columns, Watchword.tableMark.Absent column)
    (hts : s.populationTables a = .ok ts) :
    List.Forall₂ DerivedTable.Links ts (Query.roots a.populationNames) := by
  simp only [Analysis.texts, Analysis.columns, List.forall_mem_append, List.forall_mem_map,
    List.forall_mem_flatMap, Option.mem_toList] at htexts hcolumns
  have hroots : Query.roots a.populationNames =
      a.dimension.toList.map (fun _ => ("__dimension".toList, [])) ++
        a.activation.toList.map fun _ => ("__activationMetric".toList, []) := by
    unfold Query.roots Analysis.populationNames
    cases a.dimension <;> cases a.activation <;> rfl
  rw [hroots]
  refine (forall₂_populationTables (R := flip DerivedTable.Links) hts (fun d hd => ?_)
    fun m hm table htable => ?_).flip
  · exact ⟨rfl, .of_woven (dimensionTable_woven hs (htexts.1 d hd) _)⟩
  · exact ⟨rfl, .of_woven (metricTable_woven hs (htexts.2 m hm) (hcolumns m hm) htable)⟩

/-! ### Templates -/

omit hs in
theorem userMetricTable_mentions (m : MetricDefinition) (name comment : String)
    {columns groups : Sql} (hcolumns : columns.Woven .tableMark) (hends : columns.Ends)
    (hgroups : groups.Woven .tableMark) :
    (s.userMetricTable m name comment columns groups).body.Mentions
      ["__distinctUsers".toList, "__metric".toList] := by
  have hvalue : (m.aggregateValue "m.value").Woven .tableMark := m.aggregateValue_woven (.word rfl)
  show (Sql.concat ["\n      ", .comment comment, "\n      SELECT\n        ", columns,
    m.aggregateValue "m.value", " as value\n      FROM\n        __distinctUsers d\n",
    "        JOIN __metric m ON (\n          ", s.conversionWindowJoin m "d" "m",
    "\n        )\n      GROUP BY\n        ", groups, "\n    "]).Mentions _
  refine .opens rfl (.apart (.comment nofun) (.next rfl (.lead hcolumns hends (.apart hvalue ?_))))
  refine .names ["__distinctUsers".toList] rfl rfl (by decide +kernel) (Sql.Parted.toMentions ?_)
  refine .names ["__metric".toList] rfl rfl (by decide +kernel) ?_
  exact .apart (s.conversionWindowJoin_woven m) (.next rfl (.apart hgroups (.next rfl .nil)))

omit hs in
theorem segmentJoin_mentions (p : UsersQueryParams) : p.segmentJoin.Mentions p.segmentNames := by
  unfold UsersQueryParams.segmentJoin UsersQueryParams.segmentNames
  split
  · exact .code (by decide +kernel)
  · exact .nil

omit hs in
theorem dateColumn_woven (p : UsersQueryParams) : p.dateColumn.Woven .tableMark := by
  unfold UsersQueryParams.dateColumn
  split
  · exact .word rfl
  · exact Sql.Edged.empty.toWoven

theorem usersQuery_isScoped {p : UsersQueryParams} {q : Query}
    (htexts : ∀ t ∈ p.texts, Watchword.tableMark.Absent t) (hq : s.usersQuery p = .ok q) :
    q.IsScoped := by
  obtain ⟨ts, hts, hq⟩ := Except.bind_eq_ok.mp hq
  obtain rfl := Except.ok.inj hq
  have hsegment := segmentJoin_mentions p
  have hday : (s.dialect.dateTrunc "u.actual_start").Woven .tableMark :=
    s.dialect.dateTrunc_woven (.word rfl)
  let dayNames := if p.includeByDate then "__users".toList :: p.segmentNames else []
  refine Query.IsScoped.of_links _ ("__users".toList :: (p.segmentNames ++ dayNames))
    (.inl rfl) (visitorTables_links hs htexts hts) ?body ?linked
  case body =>
    refine .opens rfl (.apart (dateColumn_woven p)
      (.names ["__users".toList] rfl rfl (by decide +kernel) ?_))
    refine .slot hsegment (.next rfl (.only ?_ (.next rfl .nil)))
    unfold dayNames
    split
    · refine .opens rfl (.apart hday (.names ["__users".toList] rfl rfl (by decide +kernel) ?_))
      exact .only hsegment (.next rfl (.apart hday (.next rfl .nil)))
    · exact .nil
  case linked =>
    unfold dayNames UsersQueryParams.segmentNames
    cases p.segment.isSome <;> cases p.includeByDate <;> decide

theorem metricValueQuery_isScoped {p : MetricValueParams} {q : Query}
    (htexts : ∀ t ∈ p.toUsersQueryParams.texts ++ p.metric.texts, Watchword.tableMark.Absent t)
    (hcolumn : ∀ column ∈ p.metric.column, Watchword.tableMark.Absent column)
    (hq : s.metricValueQuery p = .ok q) : q.IsScoped := by
  obtain ⟨htexts, hmtexts⟩ := List.forall_mem_append.mp htexts
  obtain ⟨visitors, hvisitors, hq⟩ := Except.bind_eq_ok.mp hq
  obtain ⟨metric, hmetric, hq⟩ := Except.bind_eq_ok.mp hq
  obtain rfl := Except.ok.inj hq
  have hday : (s.dialect.dateTrunc "d.actual_start").Woven .tableMark :=
    s.dialect.dateTrunc_woven (.word rfl)
  have hladder {column : Option Sql} (h : ∀ c ∈ column, c.Woven .tableMark) :
      (if p.includePercentiles then s.percentileColumns p.metric column
        else .empty).Parted [] := by
    split
    · exact .of_edged (s.percentileColumns_edged p.metric h)
    · exact .empty
  let perUser := ["__distinctUsers".toList, "__metric".toList]
  let dayLinks := if p.includeByDate then [("__userMetricDates".toList, perUser)] else []
  let dayNames := if p.includeByDate then ["__userMetricDates".toList] else []
  refine Query.IsScoped.of_links
    (Query.roots ("__users".toList :: p.segmentNames) ++ [("__metric".toList, []),
      ("__distinctUsers".toList, "__users".toList :: p.segmentNames),
      ("__userMetric".toList, perUser)] ++ dayLinks)
    ("__userMetric".toList :: dayNames) (.inl rfl)
    (List.rel_append (List.rel_append (visitorTables_links hs htexts hvisitors)
      (.cons ⟨rfl, ?metric⟩
      (.cons ⟨rfl, ?distinct⟩ (.cons ⟨rfl, ?perUser⟩ .nil)))) ?perDay) ?body ?linked
  case metric => exact .of_woven (metricTable_woven hs hmtexts hcolumn hmetric)
  case distinct =>
    show (Sql.concat [.code _, .code _, .code _, .code _, p.segmentJoin, .code _]).Mentions _
    refine .opens rfl (.opens rfl (.opens rfl (Sql.Parted.toMentions ?_)))
    exact .names ["__users".toList] rfl rfl (by decide +kernel)
      (.only (segmentJoin_mentions _) (.next rfl .nil))
  case perUser =>
    exact userMetricTable_mentions p.metric _ _ Sql.Edged.empty.toWoven .empty (.word rfl)
  case perDay =>
    unfold dayLinks
    split
    · exact .cons ⟨rfl, userMetricTable_mentions p.metric _ _ (.slot hday (.next rfl .nil))
        (.closes rfl) (.slot hday (.starts rfl rfl .nil))⟩ .nil
    · exact .nil
  case body =>
    have hmoments : (Sql.code momentColumns).Woven .tableMark := .word rfl
    show (Sql.concat ["SELECT\n      ", p.dateColumn, "\n      ", momentColumns, _,
      "\n    FROM\n      __userMetric\n    ", _, "\n    "]).Mentions _
    refine .opens rfl (.apart (dateColumn_woven _) (.next rfl (.apart hmoments ?_)))
    refine .slot (hladder ?_) (.names ["__userMetric".toList] rfl rfl (by decide +kernel) ?_)
    · rintro _ ⟨⟩
      exact .word rfl
    · refine (?_ : Sql.Mentions dayNames _).only (.next rfl .nil)
      unfold dayNames
      split
      · show (Sql.concat ["\n    UNION ALL\n    SELECT\n      date,\n      ", momentColumns, _,
          .code _, .code _]).Mentions _
        refine .opens rfl (.apart hmoments (.slot (hladder (by simp)) ?_))
        exact .names ["__userMetricDates".toList] rfl rfl (by decide +kernel) (.opens rfl .nil)
      · exact .nil
  case linked =>
    unfold dayNames dayLinks UsersQueryParams.segmentNames
    cases p.segment.isSome <;> cases p.includeByDate <;> decide

theorem composedUsersQuery_isScoped {a : Analysis} {q : Query}
    (htexts : ∀ t ∈ a.texts, Watchword.tableMark.Absent t)
    (hcolumns : ∀ column ∈ a.columns, Watchword.tableMark.Absent column)
    (hq : s.composedUsersQuery a = .ok q) : q.IsScoped := by
  obtain ⟨views, hviews, hq⟩ := Except.bind_eq_ok.mp hq
  obtain ⟨population, hpopulation, hq⟩ := Except.bind_eq_ok.mp hq
  obtain rfl := Except.ok.inj hq
  refine Query.IsScoped.of_links
    (("__experiment".toList, []) :: (Query.roots a.populationNames ++
      [("__distinctUsers".toList, "__experiment".toList :: a.populationNames)]))
    ["__distinctUsers".toList] (.inl rfl)
    (.cons ⟨rfl, .of_woven (experimentTable_woven hs hviews)⟩ (List.rel_append
      (populationTables_links hs htexts hcolumns hpopulation) (.cons ⟨rfl, ?distinct⟩ .nil)))
    ?body ?linked
  case distinct =>
    exact .apart a.distinctUsersHead_woven (a.distinctUsersTail_parted.only .nil)
  case body =>
    show (Sql.concat [.comment _, .code _, .code _]).Mentions _
    exact .apart (.comment nofun) (.across rfl rfl (by decide +kernel))
  case linked =>
    unfold Analysis.populationNames
    cases a.dimension.isSome <;> cases a.activation.isSome <;> decide

set_option maxRecDepth 1000 in
theorem composedMetricQuery_isScoped {a : Analysis} {m : MetricDefinition} {q : Query}
    (htexts : ∀ t ∈ a.texts ++ m.texts, Watchword.tableMark.Absent t)
    (hcolumns : ∀ column ∈ a.columns ++ m.column.toList, Watchword.tableMark.Absent column)
    (hq : s.composedMetricQuery a m = .ok q) : q.IsScoped := by
  obtain ⟨htexts, hmtexts⟩ := List.forall_mem_append.mp htexts
  obtain ⟨hcolumns, hmcolumn⟩ := List.forall_mem_append.mp hcolumns
  replace hmcolumn : ∀ column ∈ m.column, Watchword.tableMark.Absent column := fun column hcolumn =>
    hmcolumn column (Option.mem_toList.mpr hcolumn)
  obtain ⟨views, hviews, hq⟩ := Except.bind_eq_ok.mp hq
  obtain ⟨population, hpopulation, hq⟩ := Except.bind_eq_ok.mp hq
  obtain ⟨metric, hmetric, hq⟩ := Except.bind_eq_ok.mp hq
  obtain rfl := Except.ok.inj hq
  refine Query.IsScoped.of_links
    (("__experiment".toList, []) :: ("__metric".toList, []) :: (Query.roots a.populationNames ++
      [("__distinctUsers".toList, "__experiment".toList :: a.populationNames),
        ("__userMetric".toList, ["__distinctUsers".toList, "__metric".toList])]))
    ["__userMetric".toList] (.inl rfl)
    (.cons ⟨rfl, .of_woven (experimentTable_woven hs hviews)⟩
      (.cons ⟨rfl, .of_woven (metricTable_woven hs hmtexts hmcolumn hmetric)⟩ (List.rel_append
        (populationTables_links hs htexts hcolumns hpopulation)
        (.cons ⟨rfl, ?distinct⟩ (.cons ⟨rfl, ?perUser⟩ .nil)))))
    ?body ?linked
  case distinct =>
    refine .apart a.distinctUsersHead_woven ?_
    have htail := a.distinctUsersTail_parted.only .nil
    split <;> simp only [String.reduceAppend] <;>
      exact .starts (by decide +kernel) (by decide +kernel) htail
  case perUser => exact userMetricTable_mentions m _ _ (.word rfl) (.code rfl) (.word rfl)
  case body =>
    show (Sql.concat [.comment _, .code _, .code momentColumns, .code _]).Mentions _
    refine .apart (.comment nofun) (.next rfl (.apart (.word rfl) ?_))
    exact .names ["__userMetric".toList] rfl rfl (by decide +kernel) .nil
  case linked =>
    unfold Analysis.populationNames
    cases a.dimension.isSome <;> cases a.activation.isSome <;> decide

theorem experimentDates_woven {horizon : Sql} (hhorizon : horizon.Woven .tableMark) :
    (s.experimentDates horizon).body.Woven .tableMark := by
  have hown (role : ColumnRole) :
      (Sql.code (s.settings.column role .experiments none)).Woven .tableMark :=
    .code (absent_sectionColumn hs role .experiments)
  have hexperiment : (Sql.code s.settings.experimentIdColumn).Woven .tableMark :=
    .code (forall_setting hs (by simp [SourceSettings.texts, SourceSettings.experimentIdColumn]))
  have hvariation : (Sql.code s.settings.variationColumn).Woven .tableMark :=
    .code (forall_setting hs (by simp [SourceSettings.texts, SourceSettings.variationColumn]))
  have htable : (Sql.code (s.dialect.fullTableName s.settings.experiments.table)).Woven
      .tableMark :=
    .code (absent_settingTable hs (by simp [SourceSettings.texts]))
  have hday := s.dialect.dateTrunc_woven (hown .timestamp)
  refine .opens rfl (.slot hexperiment (.next rfl (.slot hvariation (.next rfl ?_))))
  refine .slot hday (.next rfl (.slot (hown .anonymousId) (.next rfl
    (.slot htable (.next rfl ?_)))))
  refine .slot (hown .timestamp) (.next rfl (.slot hhorizon (.next rfl (.slot hexperiment ?_))))
  exact .next rfl (.slot hvariation (.next rfl (.slot hday (.next rfl .nil))))

theorem pastExperimentsQuery_isScoped {dateFrom : DateTime} {q : Query}
    (hq : s.pastExperimentsQuery dateFrom = .ok q) : q.IsScoped := by
  obtain ⟨horizon, hhorizon, hq⟩ := Except.bind_eq_ok.mp hq
  obtain rfl := Except.ok.inj hq
  have hhorizon := (s.dialect.woven_of_formatTimestamp (w := .tableMark) hhorizon).toWoven
  have hword {cs : List Char} (h : Watchword.check cs = true) :
      (Sql.code (String.ofList cs)).Woven .tableMark := .word h
  refine Query.IsScoped.of_links
    [("__experimentDates".toList, []), ("__userThresholds".toList, ["__experimentDates".toList]),
      ("__variations".toList, ["__experimentDates".toList, "__userThresholds".toList])]
    ["__variations".toList] (.inr rfl)
    (.cons ⟨rfl, .of_woven (experimentDates_woven hs hhorizon)⟩ (.cons ⟨rfl, ?thresholds⟩
      (.cons ⟨rfl, ?variations⟩ .nil)))
    ?body (by decide)
  case thresholds =>
    refine .opens rfl (.apart (.comment nofun) (.next rfl (.apart (.comment nofun) (.next rfl ?_))))
    refine .apart (hword rfl) (.names ["__experimentDates".toList] rfl rfl (by decide +kernel) ?_)
    exact .apart (.comment nofun) (.next rfl (.apart (hword rfl) (.next rfl .nil)))
  case variations =>
    show (Sql.concat [.code _, .code _, .code _, .code _, .code minDailyUsers, .code _, .code _,
      .code _, .code _]).Mentions _
    refine .opens rfl (.opens rfl (.names ["__experimentDates".toList] rfl (by decide +kernel) ?_))
    refine .names ["__userThresholds".toList] rfl (by decide +kernel) (.apart (hword rfl) ?_)
    exact .next rfl (.opens rfl (.opens rfl (.opens rfl .nil)))
  case body =>
    have hstart : (Sql.code "start_date").Woven .tableMark := hword rfl
    have hend : (Sql.code "end_date").Woven .tableMark := hword rfl
    refine .names ["__variations".toList] rfl (by decide +kernel) (.apart (.comment nofun) ?_)
    refine .next rfl (.apart (hword rfl) (.next rfl (.apart (.comment nofun) (.next rfl ?_))))
    refine .apart (s.dialect.dateDiff_woven hstart hend) (.next rfl (.apart (hword rfl) ?_))
    refine .next rfl (.apart (.comment nofun) (.next rfl (.apart
      (s.dialect.dateDiff_woven hhorizon hstart) ?_)))
    exact .next rfl (.apart (hword rfl) (.next rfl .nil))

end Source

end SplitTest
