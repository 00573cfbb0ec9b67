import SplitTest.Proofs.Query.Readable
import SplitTest.Proofs.Schema.Minimal
import SplitTest.Proofs.Sql.Nesting

/-! Composed queries are complete, and the SQL of a segment or of a dimension stays within the
parentheses that a composed query puts around it, as long as the texts that stand in the query as
they are are complete and none of them ends with a comment, which would take in the parenthesis
after it. -/

namespace SplitTest

open Scan

/-- A complete text that does not end with a comment. -/
structure Whole (s : String) : Prop where
  complete : Complete s.toList
  ended : ¬EndsWithComment (lexemes s.toList)

instance (s : String) : Decidable (Whole s) :=
  decidable_of_iff (Complete s.toList ∧ ¬EndsWithComment (lexemes s.toList))
    ⟨fun h => ⟨h.1, h.2⟩, fun h => ⟨h.complete, h.ended⟩⟩

theorem Whole.closed {s : String} (h : Whole s) : Closed s.toList :=
  h.complete.closed h.ended

/-- A text without quotes, comments and parentheses. -/
structure Bare (s : String) : Prop where
  plain : Plain s.toList
  unnested : Unnested s.toList

instance (s : String) : Decidable (Bare s) :=
  decidable_of_iff (Plain s.toList ∧ Unnested s.toList)
    ⟨fun h => ⟨h.1, h.2⟩, fun h => ⟨h.plain, h.unnested⟩⟩

theorem Bare.whole {s : String} (h : Bare s) : Whole s := by
  refine ⟨h.plain.complete h.unnested, ?_⟩
  rintro ⟨text, htext⟩
  rw [h.plain.lexemes_eq, List.getLast?_map] at htext
  simp at htext

theorem Whole.balanced {s : String} (h : Whole s) : (Sql.code s).Balanced :=
  .code h.complete

theorem whole_int (n : Int) : Whole (toString n) :=
  Bare.whole ⟨plain_int n, unnested_int n⟩

/-! ### Names of tables and columns -/

theorem ColumnRole.whole_builtin (role : ColumnRole) : Whole role.builtin := by
  refine Bare.whole ⟨?_, ?_⟩
  · cases role <;> exact (Tight.of rfl).plain
  · cases role <;> simp [builtin, Unnested]

namespace Source

variable {s : Source} (hs : ∀ t ∈ s.texts, Whole t)
include hs

theorem closed_of_whole : ∀ t ∈ s.texts, Closed t.toList := fun t ht => (hs t ht).closed

theorem whole_sectionColumn (role : ColumnRole) (sect : Section) :
    Whole (s.settings.column role sect none) :=
  forall_column ColumnRole.whole_builtin hs role sect fun _ hm => absurd hm (Option.not_mem_none _)

theorem fullTableName_balanced {table : String} (h : Whole table) :
    (Sql.code (s.dialect.fullTableName table)).Balanced := by
  have hreadable := tableNameSql_readable (closed_of_whole hs) h.closed
  have hqualifier {t : String} (h : nonEmpty? s.dialect.project = some t ∨
      nonEmpty? s.dialect.dataset = some t) : (Sql.code t).Balanced :=
    (forall_qualifier hs h).balanced
  have hbalanced : (s.dialect.tableNameSql table).Balanced := by
    unfold Dialect.tableNameSql
    split
    · split
      · rename_i project dataset hproject hdataset
        exact .of (.tight rfl (.slot (hqualifier (.inl hproject)) (.tight rfl
          (.slot (hqualifier (.inr hdataset)) (.tight rfl (.slot h.balanced .nil))))))
      · rename_i dataset _ hdataset
        exact .of (.tight rfl (.slot (hqualifier (.inr hdataset)) (.tight rfl
          (.slot h.balanced .nil))))
      · exact h.balanced
    · exact h.balanced
  have hcomplete := hbalanced.complete hreadable
  rw [Dialect.chars_tableNameSql] at hcomplete
  exact .code hcomplete

theorem settingTable_balanced {table : String} (h : table ∈ s.settings.texts) :
    (Sql.code (s.dialect.fullTableName table)).Balanced :=
  fullTableName_balanced hs (forall_setting hs h)

end Source

/-! ### Fragments of a dialect -/

namespace Dialect

variable (d : Dialect) {column : Sql} (hcolumn : column.Balanced)
include hcolumn

theorem addHours_balanced (hours : Int) : (d.addHours column hours).Balanced := by
  have hn : (Sql.code (toString hours)).Balanced := (whole_int hours).balanced
  unfold addHours
  cases d.flavor with
  | snowflake =>
    exact .of (.tight rfl (.slot hn (.tight rfl (.slot hcolumn (.tight rfl .nil)))))
  | bigquery =>
    exact .of (.tight rfl (.slot hcolumn (.tight rfl (.slot hn (.tight rfl .nil)))))
  | presto =>
    exact .of (.tight rfl (.slot (.literal _) (.tight rfl (.slot hn (.tight rfl
      (.slot hcolumn (.tight rfl .nil)))))))
  | postgres | redshift | duckdb =>
    exact .of (.slot hcolumn (.tight rfl (.slot (.literal _) .nil)))

theorem subtractMinutes_balanced (minutes : Int) :
    (d.subtractMinutes column minutes).Balanced := by
  have hn : (Sql.code (toString minutes)).Balanced := (whole_int minutes).balanced
  unfold subtractMinutes
  cases d.flavor with
  | snowflake =>
    exact .of (.tight rfl (.slot hn (.tight rfl (.slot hcolumn (.tight rfl .nil)))))
  | bigquery =>
    exact .of (.tight rfl (.slot hcolumn (.tight rfl (.slot hn (.tight rfl .nil)))))
  | presto =>
    exact .of (.tight rfl (.slot (.literal _) (.tight rfl (.slot hn (.tight rfl
      (.slot hcolumn (.tight rfl .nil)))))))
  | postgres | redshift | duckdb =>
    exact .of (.slot hcolumn (.tight rfl (.slot (.literal _) .nil)))

theorem regexMatch_balanced (pattern : String) : (d.regexMatch column pattern).Balanced := by
  unfold regexMatch
  cases d.flavor with
  | snowflake | bigquery | presto | duckdb =>
    exact .of (.tight rfl (.slot hcolumn (.tight rfl (.slot (.literal _) (.tight rfl .nil)))))
  | postgres | redshift => exact .of (.slot hcolumn (.tight rfl (.slot (.literal _) .nil)))

omit hcolumn in
theorem balanced_of_formatTimestamp {t : DateTime} {q : Sql} (h : d.formatTimestamp t = .ok q) :
    q.Balanced := by
  obtain ⟨text, -, rfl⟩ := Except.map_eq_ok.mp h
  exact .literal text

theorem dateTrunc_balanced : (d.dateTrunc column).Balanced := by
  unfold dateTrunc
  cases d.flavor with
  | bigquery => exact .of (.tight rfl (.slot hcolumn (.tight rfl .nil)))
  | _ =>
    exact .of (.tight rfl (.slot (.literal _) (.tight rfl (.slot hcolumn (.tight rfl .nil)))))

theorem percentile_balanced (fraction : Double) : (d.percentile column fraction).Balanced := by
  have hpercent : (Sql.code (toString (percent fraction))).Balanced := (whole_int _).balanced
  have hfraction : (Sql.code fraction.text).Balanced :=
    .code (fraction.plain_text.complete fraction.unnested_text)
  unfold percentile
  cases d.flavor with
  | bigquery =>
    exact .of (.tight rfl (.slot hcolumn (.tight rfl (.slot hpercent (.tight rfl .nil)))))
  | presto | duckdb =>
    exact .of (.tight rfl (.slot hcolumn (.tight rfl (.slot hfraction (.tight rfl .nil)))))
  | postgres | redshift | snowflake =>
    exact .of (.tight rfl (.slot hfraction (.tight rfl (.slot hcolumn (.tight rfl .nil)))))

end Dialect

/-! ### Identifiers and metrics -/

namespace Source

variable {s : Source}

theorem column_balanced {tableName column : String} (htable : (Sql.code tableName).Balanced)
    (hcolumn : Whole column) : (Sql.concat [tableName, ".", column]).Balanced :=
  .of (.slot htable (.tight rfl (.slot hcolumn.balanced .nil)))

section

variable (hs : ∀ t ∈ s.texts, Whole t)
include hs

theorem identifiesJoin_balanced {nativeColumn : Sql} (hcolumn : nativeColumn.Balanced)
    (native : IdType) : (s.identifiesJoin nativeColumn native).Balanced := by
  have htable : (Sql.code (s.dialect.fullTableName s.settings.identifies.table)).Balanced :=
    settingTable_balanced hs (by simp [SourceSettings.texts])
  exact .of (.tight rfl (.slot htable (.tight rfl (.slot (whole_sectionColumn hs _ _).balanced
    (.tight rfl (.slot hcolumn (.tight rfl .nil)))))))

theorem reconcile_balanced (requested native : IdType)
    {tableName nativeColumn requestedColumn : String} (htable : (Sql.code tableName).Balanced)
    (hnative : Whole nativeColumn) (hrequested : Whole requestedColumn) :
    (s.reconcile requested native tableName nativeColumn requestedColumn).column.Balanced ∧
      (s.reconcile requested native tableName nativeColumn requestedColumn).join.Balanced := by
  unfold reconcile
  split
  · exact ⟨column_balanced htable hrequested, .empty⟩
  · exact ⟨.of (.tight rfl (.slot (whole_sectionColumn hs _ _).balanced .nil)),
      identifiesJoin_balanced hs (column_balanced htable hnative) native⟩

end

theorem condition_balanced (s : Source) {c : MetricCondition} (h : Whole c.column) :
    (s.condition "m" c).Balanced := by
  have hcolumn : (Sql.code "m" ++ Sql.code "." ++ Sql.code c.column).Balanced :=
    .append (.append (.written rfl) (.written rfl)) h.balanced
  have hsymbol (o : Operator) : (Sql.code o.symbol).Balanced := by
    cases o <;> exact .written rfl
  unfold condition
  split
  · exact s.dialect.regexMatch_balanced hcolumn _
  · exact .of (.tight rfl (.slot (s.dialect.regexMatch_balanced hcolumn _) (.tight rfl .nil)))
  · exact .of (.slot hcolumn (.tight rfl (.slot (hsymbol _) (.tight rfl
      (.slot (.literal _) .nil)))))

theorem conditions_balanced (s : Source) {m : MetricDefinition} (h : ∀ t ∈ m.texts, Whole t) :
    (s.conditions m "m").Balanced := by
  refine .join (.written rfl) (List.forall_mem_map.mpr fun c hc =>
    s.condition_balanced (h c.column ?_))
  exact List.mem_cons_of_mem _ (List.mem_append_right _ (List.mem_map_of_mem hc))

theorem conversionWindowJoin_balanced (s : Source) (m : MetricDefinition) :
    (s.conversionWindowJoin m "d" "m").Balanced := by
  unfold conversionWindowJoin
  extract_lets start first last
  have hstart : start.Balanced := by
    refine .append (.append (.written rfl) (.written rfl)) ?_
    split <;> exact .written rfl
  have hfirst : first.Balanced := by
    unfold first
    split
    · exact hstart
    · exact s.dialect.addHours_balanced hstart _
  have hlast : last.Balanced := s.dialect.addHours_balanced (.written_append rfl) _
  refine .of (.slot ?_ (.slot hfirst (.slot ?_ (.slot hlast .nil))))
  · exact .append (.append (.append (.append (.append (.written rfl) (.written rfl))
      (.written rfl)) (.written rfl)) (.written rfl)) (.written rfl)
  · exact .append (.append (.written rfl) (.written rfl)) (.written rfl)

end Source

theorem capValue_balanced (cap : Double) {value : Sql} (h : value.Balanced) :
    (capValue cap value).Balanced := by
  have hcap : (Sql.code (numberText cap)).Balanced :=
    .code ((plain_numberText cap).complete (unnested_numberText cap))
  unfold capValue
  split
  · exact h
  · exact .of (.tight rfl (.slot hcap (.tight rfl (.slot h (.tight rfl .nil)))))

namespace MetricDefinition

theorem aggregateValue_balanced (m : MetricDefinition) {column : Sql} (h : column.Balanced) :
    (m.aggregateValue column).Balanced := by
  unfold aggregateValue
  split
  · refine capValue_balanced _ ?_
    split
    · exact .of (.tight rfl (.slot h (.tight rfl .nil)))
    · exact .written rfl
  · exact capValue_balanced _ (.of (.tight rfl (.slot h (.tight rfl .nil))))
  · exact capValue_balanced _ (.of (.tight rfl (.slot h (.tight rfl .nil))))
  · exact .written rfl

theorem columnSql_balanced {column : String} (h : Bare column) :
    (columnSql column "m").Balanced := by
  unfold columnSql
  split
  · have hcalm : Calm "m" := .of rfl
    have hunnested : Unnested "m".toList := by simp [Unnested]
    exact .code ((plain_replaceAll hcalm (by decide) h.plain).complete
      (forall_replaceAll hunnested h.unnested))
  · exact Source.column_balanced (.written rfl) h.whole

theorem rawValue_balanced {m : MetricDefinition} (h : ∀ column ∈ m.column, Bare column)
    {value : Sql} (hvalue : m.rawValue "m" = .ok value) : value.Balanced := by
  have hone : (Sql.code "1").Balanced := .written rfl
  have hcolumn : m.valueColumn "m" = .ok value → value.Balanced := by
    unfold valueColumn
    split
    · rename_i column hcolumn
      rintro ⟨⟩
      exact columnSql_balanced (h column hcolumn)
    · simp
  unfold rawValue at hvalue
  split at hvalue
  · split at hvalue
    · exact hcolumn hvalue
    · obtain rfl := Except.ok.inj hvalue
      exact hone
  · exact hcolumn hvalue
  · exact hcolumn hvalue
  · obtain rfl := Except.ok.inj hvalue
    exact hone

end MetricDefinition

/-! ### Derived tables -/

structure DerivedTable.IsBalanced (t : DerivedTable) : Prop where
  name : (Sql.code t.name).Balanced
  body : t.body.Balanced

theorem DerivedTable.IsBalanced.sql {t : DerivedTable} (h : t.IsBalanced) : t.sql.Balanced :=
  .of (.slot h.name (.tight rfl (.slot h.body (.tight rfl .nil))))

structure Query.IsBalanced (q : Query) : Prop where
  separator : (Sql.code q.separator).Balanced
  tables : ∀ t ∈ q.tables, t.IsBalanced
  body : q.body.Balanced

theorem Query.IsBalanced.sql {q : Query} (h : q.IsBalanced) : q.sql.Balanced := by
  have htables : ∀ t ∈ q.tables.map DerivedTable.sql, t.Balanced :=
    List.forall_mem_map.mpr fun t ht => (h.tables t ht).sql
  exact .of (.slot (.comment _) (.tight rfl (.slot (.join h.separator htables)
    (.tight rfl (.slot h.body .nil)))))

namespace Source

variable {s : Source} (hs : ∀ t ∈ s.texts, Whole t)
include hs

theorem metricTable_balanced {m : MetricDefinition} {idType : IdType} {q : Sql}
    (htexts : ∀ t ∈ m.texts, Whole t) (hcolumn : ∀ column ∈ m.column, Bare column)
    (hq : s.metricTable m idType = .ok q) : q.Balanced := by
  obtain ⟨value, hvalue, hq⟩ := Except.bind_eq_ok.mp hq
  obtain rfl := Except.ok.inj hq
  have hown (role : ColumnRole) : Whole (s.settings.column role .default m) :=
    forall_column ColumnRole.whole_builtin hs role .default fun _ hm =>
      Option.mem_some.mp hm ▸ htexts
  obtain ⟨hcolumn', hjoin⟩ := reconcile_balanced hs idType m.userIdType
    (.written rfl : (Sql.code "m").Balanced) (hown m.userIdType.role) (hown idType.role)
  have hvalue' := MetricDefinition.rawValue_balanced hcolumn hvalue
  have htime : (Sql.code "m." ++ Sql.code (s.settings.timestampColumn .default m)).Balanced :=
    .append (.written rfl) (hown .timestamp).balanced
  have htable : (Sql.code (s.dialect.fullTableName m.table)).Balanced :=
    fullTableName_balanced hs (htexts m.table List.mem_cons_self)
  have hfilter : (if m.conditions.isEmpty then Sql.empty
      else .concat ["WHERE\n      ", s.conditions m "m"]).Balanced := by
    split
    · exact .empty
    · exact .of (.tight rfl (.slot (s.conditions_balanced htexts) .nil))
  refine .of (.slot (.comment _) (.tight rfl (.slot hcolumn' (.tight rfl (.slot hvalue' ?_)))))
  refine .tight rfl (.slot htime (.tight rfl (.slot (s.dialect.addHours_balanced htime _) ?_)))
  refine .tight rfl (.slot (s.dialect.subtractMinutes_balanced htime _) (.tight rfl ?_))
  refine .slot htable (.tight rfl (.slot hjoin (.tight rfl (.slot hfilter (.tight rfl .nil)))))

theorem experimentTable_balanced {e : ExperimentDefinition} {phase : ExperimentPhase}
    {idType : IdType} {q : Sql} (hq : s.experimentTable e phase idType = .ok q) : q.Balanced := by
  have hown (role : ColumnRole) := whole_sectionColumn hs role .experiments
  have hsetting {t : String} (h : t ∈ s.settings.texts) : (Sql.code t).Balanced :=
    (forall_setting hs h).balanced
  obtain ⟨hcolumn, hjoin⟩ := reconcile_balanced hs idType e.userIdType
    (.written rfl : (Sql.code "e").Balanced) (hown e.userIdType.role) (hown idType.role)
  have htime :
      (Sql.code "e." ++ Sql.code (s.settings.timestampColumn .experiments none)).Balanced :=
    .append (.written rfl) (hown .timestamp).balanced
  have htable : (Sql.code (s.dialect.fullTableName s.settings.experiments.table)).Balanced :=
    settingTable_balanced hs (by simp [SourceSettings.texts])
  have hvariation : (Sql.code s.settings.variationColumn).Balanced :=
    hsetting (by simp [SourceSettings.texts, SourceSettings.variationColumn])
  have hexperiment : (Sql.code s.settings.experimentIdColumn).Balanced :=
    hsetting (by simp [SourceSettings.texts, SourceSettings.experimentIdColumn])
  obtain ⟨first, last, hfirst, hlast, rfl⟩ := withinPhase_eq_ok hq
  have hfirst := s.dialect.balanced_of_formatTimestamp hfirst
  have hlast : last.Balanced := by
    obtain rfl | ⟨t, ended, hended, rfl⟩ := hlast
    · exact .empty
    · exact .of (.tight rfl (.slot htime
        (.tight rfl (.slot (s.dialect.balanced_of_formatTimestamp hended) .nil))))
  refine .of (.slot (.comment _) (.tight rfl (.slot hcolumn (.tight rfl (.slot hvariation ?_)))))
  refine .tight rfl (.slot htime (.tight rfl (.slot (s.dialect.addHours_balanced htime _) ?_)))
  refine .tight rfl (.slot (s.dialect.subtractMinutes_balanced htime _) (.tight rfl ?_))
  refine .slot htable (.tight rfl (.slot hjoin (.tight rfl (.slot hexperiment ?_))))
  refine .tight rfl (.slot (.literal _) (.tight rfl (.slot htime (.tight rfl ?_))))
  exact .slot hfirst (.slot hlast (.tight rfl .nil))

end Source

/-! ### Embedded texts -/

/-- A table that embeds an SQL text is complete if the text is, unless the text ends with a
comment. -/
structure EmbedsSql (table : Sql) (sql label : String) : Prop where
  balanced : Complete sql.toList → table.Balanced
  embeds : Embeds table.chars sql.toList label.toList
  swallowed : Complete sql.toList → EndsWithComment (lexemes sql.toList) → ¬Complete table.chars

/-- The SQL is closed by the parenthesis after it, unless it ends with a comment. -/
theorem EmbedsSql.closes {table : Sql} {sql label : String} (h : EmbedsSql table sql label)
    (hsql : Complete sql.toList) (hreadable : Closed sql.toList → table.Readable) :
    (Complete table.chars ↔ ¬EndsWithComment (lexemes sql.toList)) ∧
      (¬EndsWithComment (lexemes sql.toList) →
        Encloses table.chars sql.toList label.toList) := by
  refine ⟨⟨fun hcomplete hcomment => h.swallowed hsql hcomment hcomplete, fun hend => ?_⟩,
    fun hend => h.embeds.encloses hsql (hsql.closed hend)⟩
  exact (h.balanced hsql).complete (hreadable (hsql.closed hend))

section

variable {name label start tail : String} {column join : Sql} (hname : OneLine name)
  (hcolumn : column.Readable ∧ column.Balanced) (hjoin : join.Framed ∧ join.Balanced)
include hname hcolumn hjoin

theorem EmbedsSql.of_template {before : String} (hbefore : Tight before)
    (hstart : start = before ++ "(") (htight : Tight start) (hopen : (Sql.code start).Leads 0 1)
    (hlabel : OneLine label) (htail : tail = ")" ++ label ++ "\n      ")
    (hclose : (Sql.code tail).Leads 1 0) (sql : String) :
    EmbedsSql (.concat [.comment name, "\n    SELECT\n      ", column, start, sql, tail, join,
      "\n    "]) sql label := by
  let head : Sql := .concat [.comment name, "\n    SELECT\n      ", column]
  have hhead : head.Readable := .comment hname .of (.slot (.of rfl) hcolumn.1 .nil)
  have hhead' : head.Balanced :=
    .of (.slot (.comment _) (.tight rfl (.slot hcolumn.2 .nil)))
  have hend : (Sql.concat [Sql.code "\n      ", join, Sql.code "\n    "]).Readable :=
    .slot (.of rfl) hjoin.1.readable (.last (.of rfl))
  have hend' : (Sql.concat [Sql.code "\n      ", join, Sql.code "\n    "]).Balanced :=
    .of (.tight rfl (.slot hjoin.2 (.tight rfl .nil)))
  have htable : Sql.concat [.comment name, "\n    SELECT\n      ", column, start, sql, tail, join,
      "\n    "] = head ++ Sql.concat [start, sql, tail, join, "\n    "] :=
    Sql.concat_append [.comment name, "\n    SELECT\n      ", column]
      [start, sql, tail, join, "\n    "]
  rw [htable]
  refine ⟨fun hsql => ?_, ?_, fun hsql hcomment hcomplete => ?_⟩
  · exact hhead'.append (.of (.next hopen (.slot (.code hsql) (.next hclose (.slot hjoin.2
      (.tight rfl .nil))))))
  · rw [hstart, htail]
    exact Sql.embeds_template hhead hbefore sql label "\n      " _
  · have hopened : (head ++ Sql.code start).Leads 0 1 := .append (hhead' 0) hopen
    have hline : OneLine (")" ++ label) := .append (.of rfl) hlabel
    have hdepth := Sql.leads_of_comment hhead htight hopened hsql hcomment hline
      (.of : BeginsLine "\n      ") hend hend'
    rw [← htail] at hdepth
    exact absurd (hcomplete.symm.trans hdepth) (by decide)

end

namespace Source

variable {s : Source} (hs : ∀ t ∈ s.texts, Whole t)
include hs

theorem reconcile_userId (requested native : IdType) {tableName : String} (htable : Tight tableName)
    (htable' : (Sql.code tableName).Balanced) :
    let user := s.reconcile requested native tableName "user_id" "user_id"
    (user.column.Readable ∧ user.column.Balanced) ∧ user.join.Framed ∧ user.join.Balanced := by
  have hid : Whole "user_id" := ColumnRole.whole_builtin .userId
  obtain ⟨hcolumn, hjoin⟩ := reconcile_readable (closed_of_whole hs) requested native htable
    hid.closed hid.closed
  obtain ⟨hcolumn', hjoin'⟩ := reconcile_balanced hs requested native htable' hid hid
  exact ⟨⟨hcolumn, hcolumn'⟩, hjoin, hjoin'⟩

theorem segmentTable_embeds {g : SegmentDefinition} (hname : OneLine g.name) (idType : IdType) :
    EmbedsSql (s.segmentTable g idType) g.sql " s" := by
  obtain ⟨hcolumn, hjoin⟩ := reconcile_userId hs idType g.userIdType (.of rfl : Tight "s")
    (.written rfl)
  have hbefore : Tight " as user_id,\n      s.date\n    FROM\n      " := .of rfl
  refine .of_template (.between (.of rfl) hname (.of rfl)) hcolumn hjoin hbefore
    ?_ ?_ ?_ ?_ ?_ ?_ g.sql
  · rfl
  · exact .of rfl
  · exact .code rfl
  · exact .of rfl
  · rfl
  · exact .code rfl

theorem dimensionTable_embeds {d : DimensionDefinition} (hname : OneLine d.name)
    (idType : IdType) : EmbedsSql (s.dimensionTable d idType) d.sql " d" := by
  obtain ⟨hcolumn, hjoin⟩ := reconcile_userId hs idType d.userIdType (.of rfl : Tight "d")
    (.written rfl)
  have hbefore : Tight " as user_id,\n      d.value\n    FROM\n      " := .of rfl
  refine .of_template (.between (.of rfl) hname (.of rfl)) hcolumn hjoin hbefore
    ?_ ?_ ?_ ?_ ?_ ?_ d.sql
  · rfl
  · exact .of rfl
  · exact .code rfl
  · exact .of rfl
  · rfl
  · exact .code rfl

end Source

/-! ### Queries of experiments -/

namespace Analysis

variable (a : Analysis)

theorem distinctUsersHead_balanced : a.distinctUsersHead.Balanced := by
  have hvalue : a.dimensionValue.Balanced := by
    unfold dimensionValue
    split
    · exact .written rfl
    · exact .literal _
  exact .of (.tight rfl (.slot (.comment _) (.tight rfl (.slot hvalue (.tight rfl .nil)))))

theorem distinctUserJoins_balanced : a.distinctUserJoins.Balanced := by
  unfold distinctUserJoins dimensionJoins activationJoins
  refine .join (.written rfl) (List.forall_mem_append.mpr ⟨?_, ?_⟩)
  · split
    · exact List.forall_mem_singleton.mpr (.written rfl)
    · exact List.forall_mem_nil _
  · split
    · exact List.forall_mem_singleton.mpr
        (.of (.append (.append (.code rfl) (.code rfl)) (.code rfl)))
    · exact List.forall_mem_nil _

theorem distinctUsersTail_balanced : a.distinctUsersTail.Balanced := by
  have hgroup : a.dimensionGroup.Balanced := by
    unfold dimensionGroup
    split
    · exact .written rfl
    · exact .empty
  exact .of (.tight rfl (.slot a.distinctUserJoins_balanced (.tight rfl (.slot hgroup
    (.tight rfl .nil)))))

end Analysis

theorem momentColumns_balanced : (Sql.code Source.momentColumns).Balanced :=
  .written rfl

namespace Source

theorem userMetricTable_balanced (s : Source) (m : MetricDefinition) {name comment : String}
    {columns groups : Sql} (hname : (Sql.code name).Balanced) (hcolumns : columns.Balanced)
    (hgroups : groups.Balanced) :
    (s.userMetricTable m name comment columns groups).IsBalanced := by
  have hvalue : (m.aggregateValue "m.value").Balanced :=
    m.aggregateValue_balanced (.written rfl)
  have hsource : (Sql.code " as value\n      FROM\n        __distinctUsers d\n" ++
      Sql.code "        JOIN __metric m ON (\n          ").Leads 0 1 :=
    .append (.code rfl) (.code rfl)
  refine .mk hname (.of (.tight rfl (.slot (.comment _) (.tight rfl ?_))))
  refine .slot hcolumns (.slot hvalue (.next hsource ?_))
  exact .slot (s.conversionWindowJoin_balanced m) (.tight rfl (.slot hgroups (.tight rfl .nil)))

variable {s : Source} (hs : ∀ t ∈ s.texts, Whole t)
include hs

theorem populationTables_balanced {a : Analysis} {ts : List DerivedTable}
    (htexts : ∀ t ∈ a.texts, Whole t) (hcolumns : ∀ column ∈ a.columns, Bare column)
    (hnames : ∀ name ∈ a.names, OneLine name) (hts : s.populationTables a = .ok ts) :
    ∀ t ∈ ts, t.IsBalanced := by
  simp only [Analysis.texts, Analysis.columns, Analysis.names, List.forall_mem_append,
    List.forall_mem_map, List.forall_mem_flatMap, Option.mem_toList] at htexts hcolumns hnames
  refine forall_mem_populationTables hts (fun d hd => ?_) fun m hm table htable => ?_
  · exact .mk (.written rfl)
      ((dimensionTable_embeds hs (hnames.1 d hd) _).balanced (htexts.1 d hd).complete)
  · exact .mk (.written rfl) (metricTable_balanced hs (htexts.2 m hm) (hcolumns m hm) htable)

theorem composedUsersQuery_balanced {a : Analysis} {q : Query}
    (htexts : ∀ t ∈ a.texts, Whole t) (hcolumns : ∀ column ∈ a.columns, Bare column)
    (hnames : ∀ name ∈ a.names, OneLine name) (hq : s.composedUsersQuery a = .ok q) :
    q.IsBalanced := by
  obtain ⟨views, hviews, hq⟩ := Except.bind_eq_ok.mp hq
  obtain ⟨population, hpopulation, hq⟩ := Except.bind_eq_ok.mp hq
  obtain rfl := Except.ok.inj hq
  refine .mk (.written rfl) ?_ ?_
  · simp only [List.forall_mem_append, List.forall_mem_cons]
    refine ⟨⟨.mk (.written rfl) (experimentTable_balanced hs hviews), ?_⟩,
      ?_, ?_⟩
    · exact populationTables_balanced hs htexts hcolumns hnames hpopulation
    · exact .mk (.written rfl) (.of (.slot a.distinctUsersHead_balanced
        (.slot a.distinctUsersTail_balanced .nil)))
    · exact List.forall_mem_nil _
  · show (Sql.concat [.comment _, .code _, .code _]).Balanced
    exact .of (.slot (.comment _) (.tight rfl (.tight rfl .nil)))

theorem composedMetricQuery_balanced {a : Analysis} {m : MetricDefinition} {q : Query}
    (htexts : ∀ t ∈ a.texts ++ m.texts, Whole t)
    (hcolumns : ∀ column ∈ a.columns ++ m.column.toList, Bare column)
    (hnames : ∀ name ∈ a.names, OneLine name) (hq : s.composedMetricQuery a m = .ok q) :
    q.IsBalanced := by
  obtain ⟨htexts, hmtexts⟩ := List.forall_mem_append.mp htexts
  obtain ⟨hcolumns, hmcolumn⟩ := List.forall_mem_append.mp hcolumns
  replace hmcolumn : ∀ column ∈ m.column, Bare column := fun column hcolumn =>
    hmcolumn column (Option.mem_toList.mpr hcolumn)
  obtain ⟨views, hviews, hq⟩ := Except.bind_eq_ok.mp hq
  obtain ⟨population, hpopulation, hq⟩ := Except.bind_eq_ok.mp hq
  obtain ⟨metric, hmetric, hq⟩ := Except.bind_eq_ok.mp hq
  obtain rfl := Except.ok.inj hq
  refine .mk (.written rfl) ?_ ?_
  · simp only [List.forall_mem_append, List.forall_mem_cons]
    refine ⟨⟨?_, ?_, ?_⟩, ?_, ?_, List.forall_mem_nil _⟩
    · exact .mk (.written rfl) (experimentTable_balanced hs hviews)
    · exact .mk (.written rfl)
        (metricTable_balanced hs hmtexts hmcolumn hmetric)
    · exact populationTables_balanced hs htexts hcolumns hnames hpopulation
    · refine .mk (.written rfl) (.of (.slot a.distinctUsersHead_balanced
        (.slot (.code ?_) (.slot a.distinctUsersTail_balanced .nil))))
      simp only [String.toList_append]
      cases a.activation.isSome <;> decide +kernel
    · exact userMetricTable_balanced s m (.written rfl) (.written rfl) (.written rfl)
  · show (Sql.concat [.comment _, .code _, .code momentColumns, .code _]).Balanced
    exact .of (.slot (.comment _) (.tight rfl (.slot momentColumns_balanced (.tight rfl .nil))))

/-! ### Visitors of pages -/

theorem pageUsersTable_balanced {p : UsersQueryParams} {q : Sql}
    (hq : s.pageUsersTable p = .ok q) : q.Balanced := by
  have hown (role : ColumnRole) : (Sql.code (s.settings.column role .pageviews none)).Balanced :=
    (whole_sectionColumn hs role .pageviews).balanced
  have hvisit : (Sql.code "MIN(" ++ Sql.code (s.settings.timestampColumn .pageviews none) ++
      Sql.code ")").Balanced :=
    .of (.append (.append (.code rfl) (hown .timestamp 1)) (.code rfl))
  have htable : (Sql.code (s.dialect.fullTableName s.settings.pageviews.table)).Balanced :=
    settingTable_balanced hs (by simp [SourceSettings.texts])
  have hurl : (Sql.code s.settings.pageviews.urlColumn).Balanced :=
    (forall_setting hs (by simp [SourceSettings.texts])).balanced
  obtain ⟨first, hfirst, hq⟩ := Except.bind_eq_ok.mp hq
  obtain ⟨last, hlast, hq⟩ := Except.bind_eq_ok.mp hq
  obtain rfl := Except.ok.inj hq
  have hfirst := s.dialect.balanced_of_formatTimestamp hfirst
  have hlast := s.dialect.balanced_of_formatTimestamp hlast
  refine .of (.slot (.comment _) (.tight rfl (.slot (hown p.userIdType.role) (.tight rfl ?_))))
  refine .slot hvisit (.tight rfl (.slot (s.dialect.addHours_balanced hvisit _) (.tight rfl ?_)))
  refine .slot (s.dialect.subtractMinutes_balanced hvisit _) (.tight rfl (.slot htable ?_))
  refine .tight rfl (.slot (hown .timestamp) (.tight rfl (.slot hfirst (.tight rfl ?_))))
  refine .slot (hown .timestamp) (.tight rfl (.slot hlast (.slot ?hfilter ?hgroup)))
  case hfilter =>
    split
    · exact .of (.tight rfl (.slot (s.dialect.regexMatch_balanced hurl _) .nil))
    · exact .empty
  case hgroup => exact .tight rfl (.slot (hown p.userIdType.role) (.tight rfl .nil))

theorem visitorTables_balanced {p : UsersQueryParams} {ts : List DerivedTable}
    (htexts : ∀ t ∈ p.texts, Whole t) (hnames : ∀ name ∈ p.names, OneLine name)
    (hts : s.visitorTables p = .ok ts) : ∀ t ∈ ts, t.IsBalanced := by
  simp only [UsersQueryParams.texts, UsersQueryParams.names, List.forall_mem_cons,
    List.forall_mem_map, Option.mem_toList] at htexts hnames
  obtain ⟨users, husers, rfl⟩ := visitorTables_eq_ok.mp hts
  refine List.forall_mem_cons.mpr ⟨?_, List.forall_mem_map.mpr fun g hg => ?_⟩
  · exact .mk (.written rfl) (pageUsersTable_balanced hs husers)
  · have hg := Option.mem_toList.mp hg
    exact .mk (.written rfl)
      ((segmentTable_embeds hs (hnames.2 g hg) _).balanced (htexts g hg).complete)

omit hs in
theorem segmentJoin_balanced (p : UsersQueryParams) : p.segmentJoin.Balanced := by
  unfold UsersQueryParams.segmentJoin
  split
  · exact .written rfl
  · exact .empty

omit hs in
theorem dateColumn_balanced (p : UsersQueryParams) : p.dateColumn.Balanced := by
  unfold UsersQueryParams.dateColumn
  split
  · exact .written rfl
  · exact .empty

theorem usersQuery_balanced {p : UsersQueryParams} {q : Query}
    (htexts : ∀ t ∈ p.texts, Whole t) (hnames : ∀ name ∈ p.names, OneLine name)
    (hq : s.usersQuery p = .ok q) : q.IsBalanced := by
  obtain ⟨ts, hts, hq⟩ := Except.bind_eq_ok.mp hq
  obtain rfl := Except.ok.inj hq
  have hday : (s.dialect.dateTrunc "u.actual_start").Balanced :=
    s.dialect.dateTrunc_balanced (.written rfl)
  refine .mk (.written rfl) (visitorTables_balanced hs htexts hnames hts) ?_
  refine .of (.tight rfl (.slot (dateColumn_balanced p) (.tight rfl (.slot (segmentJoin_balanced p)
    (.tight rfl (.slot ?_ (.tight rfl .nil)))))))
  split
  · exact .of (.tight rfl (.slot hday (.tight rfl (.slot (segmentJoin_balanced p) (.tight rfl
      (.slot hday (.tight rfl .nil)))))))
  · exact .empty

omit hs in
theorem percentileColumns_balanced (m : MetricDefinition) {column : Option Sql}
    (hcolumn : ∀ c ∈ column, c.Balanced) : (s.percentileColumns m column).Balanced := by
  unfold percentileColumns
  split
  · exact .empty
  · refine .of (.tight rfl (.slot (.join (.written rfl)
      (List.forall_mem_map.mpr fun fraction _ => ?_)) .nil))
    have halias : (Sql.code (percentileAlias fraction)).Balanced := by
      have hp : Calm "p" := .of rfl
      have hunnested : Unnested "p".toList := by simp [Unnested]
      exact .code ((hp.append_plain (plain_int _)).complete (hunnested.append (unnested_int _)))
    split
    · exact .of (.slot (s.dialect.percentile_balanced (hcolumn _ rfl) fraction)
        (.tight rfl (.slot halias .nil)))
    · exact .of (.tight rfl (.tight rfl (.slot halias .nil)))

theorem metricValueQuery_balanced {p : MetricValueParams} {q : Query}
    (htexts : ∀ t ∈ p.toUsersQueryParams.texts ++ p.metric.texts, Whole t)
    (hcolumn : ∀ column ∈ p.metric.column, Bare column)
    (hnames : ∀ name ∈ p.toUsersQueryParams.names, OneLine name)
    (hq : s.metricValueQuery p = .ok q) : q.IsBalanced := by
  obtain ⟨htexts, hmtexts⟩ := List.forall_mem_append.mp htexts
  obtain ⟨visitors, hvisitors, hq⟩ := Except.bind_eq_ok.mp hq
  obtain ⟨metric, hmetric, hq⟩ := Except.bind_eq_ok.mp hq
  obtain rfl := Except.ok.inj hq
  have hday : (s.dialect.dateTrunc "d.actual_start").Balanced :=
    s.dialect.dateTrunc_balanced (.written rfl)
  have hladder {column : Option Sql} (h : ∀ c ∈ column, c.Balanced) :
      (if p.includePercentiles then s.percentileColumns p.metric column else .empty).Balanced := by
    split
    · exact percentileColumns_balanced p.metric h
    · exact .empty
  have hmoments {start : String} (h : (Sql.code start).Balanced) :
      (Sql.code start ++ Sql.code momentColumns).Balanced :=
    h.append momentColumns_balanced
  refine .mk (.written rfl) ?_ ?_
  · simp only [List.forall_mem_append, List.forall_mem_cons]
    refine ⟨⟨?_, ?_, ?_, ?_, List.forall_mem_nil _⟩, ?_⟩
    · exact visitorTables_balanced hs htexts hnames hvisitors
    · exact .mk (.written rfl)
        (metricTable_balanced hs hmtexts hcolumn hmetric)
    · refine .mk (.written rfl) (.of (.slot ?_
        (.slot (segmentJoin_balanced _) (.tight rfl .nil))))
      exact .append (.append (.append (.written rfl) (.written rfl)) (.written rfl)) (.written rfl)
    · exact userMetricTable_balanced s p.metric (.written rfl) .empty (.written rfl)
    · split
      · exact List.forall_mem_singleton.mpr (userMetricTable_balanced s p.metric (.written rfl)
          (.of (.slot hday (.tight rfl .nil))) (.of (.slot hday (.tight rfl .nil))))
      · exact List.forall_mem_nil _
  · refine .of (.tight rfl (.slot (dateColumn_balanced p.toUsersQueryParams)
      (.slot (hmoments (.written rfl)) (.slot (hladder ?_) (.tight rfl (.slot ?_
        (.tight rfl .nil)))))))
    · rintro _ ⟨⟩
      exact .written rfl
    · split
      · refine .of (.slot (hmoments (.written rfl)) (.slot (hladder ?_) (.slot ?_ .nil)))
        · simp
        · exact .append (.written rfl) (.written rfl)
      · exact .empty

end Source

/-! ### Compositions -/

theorem DerivedTable.embeds {name : String} {body : Sql} (hname : Tight name)
    {sql label : List Char} (h : Embeds body.chars sql label) :
    Embeds (DerivedTable.mk name body).sql.chars sql label := by
  have hchars : (DerivedTable.mk name body).sql.chars =
      (Sql.code name ++ Sql.code " as (").chars ++ (body.chars ++ [')']) := by
    simp [DerivedTable.sql, Sql.concat_cons, Sql.chars_append, Sql.chars_code, Sql.chars_nil]
  rw [hchars]
  exact h.between ((Sql.Readable.of_tight hname).seals (.of rfl))

theorem Query.IsReadable.embeds {q : Query} (h : q.IsReadable) {sql label : List Char}
    (htable : ∃ t ∈ q.tables, Embeds t.sql.chars sql label) : Embeds q.sql.chars sql label := by
  obtain ⟨t, ht, hembeds⟩ := htable
  obtain ⟨start, tail, hstart, hjoin⟩ := Sql.exists_join h.separator
    (List.forall_mem_map.mpr h.tables) (List.mem_map_of_mem ht)
  have hchars : q.sql.chars = (Sql.comment q.title ++ Sql.code "\n    WITH\n      ").chars ++
      (start ++ (t.sql.chars ++ tail) ++ ("\n    ".toList ++ q.body.chars)) := by
    rw [← hjoin]
    simp [Query.sql, Sql.concat_cons, Sql.chars_append, Sql.chars_code, Sql.chars_nil]
  rw [hchars]
  exact (hembeds.between hstart).between (Sql.seals_comment h.title .of (.of rfl))

def UsersQueryParams.embedded (p : UsersQueryParams) : List (String × String) :=
  p.segment.toList.map fun g => (g.sql, " s")

def Analysis.embedded (a : Analysis) : List (String × String) :=
  a.dimension.toList.map fun d => (d.sql, " d")

/-- The SQL texts that a query puts in parentheses, each with the name that it gives them. -/
def Composition.embedded : Composition → List (String × String)
  | users p => p.embedded
  | metricValue p => p.toUsersQueryParams.embedded
  | experimentUsers a => a.embedded
  | experimentMetric a _ => a.embedded

namespace Source

variable {s : Source} (hs : ∀ t ∈ s.texts, Whole t)
include hs

theorem embeds_of_visitorTables {p : UsersQueryParams} {ts : List DerivedTable}
    (hnames : ∀ name ∈ p.names, OneLine name) (hts : s.visitorTables p = .ok ts) :
    ∀ e ∈ p.embedded, ∃ t ∈ ts, Embeds t.sql.chars e.1.toList e.2.toList := by
  obtain ⟨users, -, rfl⟩ := visitorTables_eq_ok.mp hts
  refine List.forall_mem_map.mpr fun g hg => ?_
  have hname : OneLine g.name := hnames _ (List.mem_cons_of_mem _ (List.mem_map_of_mem hg))
  exact ⟨_, List.mem_cons_of_mem _ (List.mem_map_of_mem hg),
    DerivedTable.embeds (.of rfl) (segmentTable_embeds hs hname _).embeds⟩

theorem embeds_of_populationTables {a : Analysis} {ts : List DerivedTable}
    (hnames : ∀ name ∈ a.names, OneLine name) (hts : s.populationTables a = .ok ts) :
    ∀ e ∈ a.embedded, ∃ t ∈ ts, Embeds t.sql.chars e.1.toList e.2.toList := by
  obtain ⟨activation, -, hts⟩ := Except.bind_eq_ok.mp hts
  obtain rfl := Except.ok.inj hts
  refine List.forall_mem_map.mpr fun d hd => ?_
  have hname : OneLine d.name := hnames _ (List.mem_append_left _ (List.mem_map_of_mem hd))
  exact ⟨_, List.mem_append_left _ (List.mem_map_of_mem hd),
    DerivedTable.embeds (.of rfl) (dimensionTable_embeds hs hname _).embeds⟩

/-- A composed query has the tables that embed its texts. -/
theorem embeds_of_composed {c : Composition} {q : Query} (hnames : ∀ name ∈ c.names, OneLine name)
    (hq : s.composed c = .ok q) :
    ∀ e ∈ c.embedded, ∃ t ∈ q.tables, Embeds t.sql.chars e.1.toList e.2.toList := by
  intro e he
  cases c with
  | users p =>
    obtain ⟨ts, hts, hq⟩ := Except.bind_eq_ok.mp hq
    obtain rfl := Except.ok.inj hq
    exact embeds_of_visitorTables hs hnames hts e he
  | metricValue p =>
    obtain ⟨visitors, hvisitors, hq⟩ := Except.bind_eq_ok.mp hq
    obtain ⟨metric, -, hq⟩ := Except.bind_eq_ok.mp hq
    obtain rfl := Except.ok.inj hq
    obtain ⟨t, ht, hembeds⟩ := embeds_of_visitorTables hs
      (fun name hname => hnames name (List.mem_cons_of_mem _ hname)) hvisitors e he
    exact ⟨t, by simp [ht], hembeds⟩
  | experimentUsers a =>
    obtain ⟨views, -, hq⟩ := Except.bind_eq_ok.mp hq
    obtain ⟨population, hpopulation, hq⟩ := Except.bind_eq_ok.mp hq
    obtain rfl := Except.ok.inj hq
    obtain ⟨t, ht, hembeds⟩ := embeds_of_populationTables hs hnames hpopulation e he
    exact ⟨t, by simp [ht], hembeds⟩
  | experimentMetric a m =>
    obtain ⟨views, -, hq⟩ := Except.bind_eq_ok.mp hq
    obtain ⟨population, hpopulation, hq⟩ := Except.bind_eq_ok.mp hq
    obtain ⟨metric, -, hq⟩ := Except.bind_eq_ok.mp hq
    obtain rfl := Except.ok.inj hq
    obtain ⟨t, ht, hembeds⟩ := embeds_of_populationTables hs
      (fun name hname => hnames name (List.mem_cons_of_mem _ hname)) hpopulation e he
    exact ⟨t, by simp [ht], hembeds⟩

theorem composed_balanced {c : Composition} {q : Query} (htexts : ∀ t ∈ c.texts, Whole t)
    (hcolumns : ∀ column ∈ c.columns, Bare column) (hnames : ∀ name ∈ c.names, OneLine name)
    (hq : s.composed c = .ok q) : q.IsBalanced := by
  cases c with
  | users p => exact usersQuery_balanced hs htexts hnames hq
  | metricValue p =>
    have hcolumn : ∀ column ∈ p.metric.column, Bare column := fun column h =>
      hcolumns column (Option.mem_toList.mpr h)
    exact metricValueQuery_balanced hs htexts hcolumn
      (fun name hname => hnames name (List.mem_cons_of_mem _ hname)) hq
  | experimentUsers a => exact composedUsersQuery_balanced hs htexts hcolumns hnames hq
  | experimentMetric a m =>
    exact composedMetricQuery_balanced hs htexts hcolumns
      (fun name hname => hnames name (List.mem_cons_of_mem _ hname)) hq

omit hs in
theorem embedded_mem_texts {c : Composition} : ∀ e ∈ c.embedded, e.1 ∈ c.texts := by
  intro e he
  cases c with
  | users p =>
    obtain ⟨g, hg, rfl⟩ := List.mem_map.mp he
    exact List.mem_map_of_mem hg
  | metricValue p =>
    obtain ⟨g, hg, rfl⟩ := List.mem_map.mp he
    exact List.mem_append_left _ (List.mem_map_of_mem hg)
  | experimentUsers a =>
    obtain ⟨d, hd, rfl⟩ := List.mem_map.mp he
    exact List.mem_append_left _ (List.mem_map_of_mem hd)
  | experimentMetric a m =>
    obtain ⟨d, hd, rfl⟩ := List.mem_map.mp he
    exact List.mem_append_left _ (List.mem_append_left _ (List.mem_map_of_mem hd))

/-- The table of a segment or of a dimension is complete exactly if its SQL, complete by itself,
does not end with a comment, and then the SQL is closed by the parenthesis that the table puts after
it.  Every composed query is complete if the texts in it are and none of them ends with a comment,
and encloses the SQL of its segment or dimension in the same way. -/
theorem nested_in_compositions :
    (∀ (g : SegmentDefinition) (idType : IdType), OneLine g.name → Complete g.sql.toList →
      let table := (s.segmentTable g idType).text.toList
      (Complete table ↔ ¬EndsWithComment (lexemes g.sql.toList)) ∧
        (¬EndsWithComment (lexemes g.sql.toList) → Encloses table g.sql.toList " s".toList)) ∧
    (∀ (d : DimensionDefinition) (idType : IdType), OneLine d.name → Complete d.sql.toList →
      let table := (s.dimensionTable d idType).text.toList
      (Complete table ↔ ¬EndsWithComment (lexemes d.sql.toList)) ∧
        (¬EndsWithComment (lexemes d.sql.toList) → Encloses table d.sql.toList " d".toList)) ∧
    ∀ (c : Composition) (q : Sql), c.isOverridden = false → (∀ t ∈ c.texts, Whole t) →
      (∀ column ∈ c.columns, Bare column) → (∀ name ∈ c.names, OneLine name) →
      s.compose c = .ok q → Complete q.text.toList ∧
        ∀ e ∈ c.embedded, Encloses q.text.toList e.1.toList e.2.toList := by
  have hclosed := closed_of_whole hs
  refine ⟨fun g idType hname hsql => ?_, fun d idType hname hsql => ?_, ?_⟩
  · exact (segmentTable_embeds hs hname idType).closes hsql fun hg =>
      segmentTable_readable hclosed hg hname idType
  · exact (dimensionTable_embeds hs hname idType).closes hsql fun hd =>
      dimensionTable_readable hclosed hd hname idType
  · intro c q hown htexts hcolumns hnames hq
    rw [s.compose_of_not_overridden hown] at hq
    obtain ⟨query, hquery, rfl⟩ := Except.map_eq_ok.mp hq
    have hreadable := composed_readable hclosed (fun t ht => (htexts t ht).closed)
      (fun column hcolumn => (hcolumns column hcolumn).plain) hnames hquery
    refine ⟨(composed_balanced hs htexts hcolumns hnames hquery).sql.complete hreadable.sql, ?_⟩
    intro e he
    have hwhole := htexts _ (embedded_mem_texts e he)
    exact (hreadable.embeds (embeds_of_composed hs hnames hquery e he)).encloses hwhole.complete
      hwhole.closed

omit hs in
/-- SQL with parentheses and quotes in comments and literals, the last comment on a line of its
own. -/
theorem nested_in_compositions_comments :
    let s : Source := { settings := .builtin, dialect := ⟨.bigquery, some "shop", some "web"⟩ }
    let day : DateTime := ⟨⟨⟨737852, by decide⟩⟩, ⟨0, by decide⟩, 0, none⟩
    let sql :=
      "SELECT user_id, date FROM (\n  vips -- it\x27s :)\n) WHERE note <> \x27(\x27 -- (all\n"
    let p : UsersQueryParams :=
      { name := "Visits", userIdType := .user, dateFrom := day, dateTo := day
        conversionWindowHours := 72, urlRegex := none, includeByDate := true
        segment := some { name := "vips -- (", sql, userIdType := .anonymous } }
    (∀ t ∈ s.texts, Whole t) ∧ (∀ t ∈ (Composition.users p).texts, Whole t) ∧
      ∃ q, s.compose (.users p) = .ok q ∧ Complete q.text.toList ∧
        Encloses q.text.toList sql.toList " s".toList := by
  intro s day sql p
  have hs : ∀ t ∈ s.texts, Whole t := by decide +kernel
  have htexts : ∀ t ∈ (Composition.users p).texts, Whole t := by decide +kernel
  have hnames : ∀ name ∈ (Composition.users p).names, OneLine name :=
    OneLine.forall_mem (by decide +kernel)
  obtain ⟨q, hq⟩ : ∃ q, s.compose (.users p) = .ok q := Except.exists_eq_ok (by decide +kernel)
  obtain ⟨-, -, hcompositions⟩ := s.nested_in_compositions hs
  obtain ⟨hcomplete, hencloses⟩ :=
    hcompositions (.users p) q rfl htexts (List.forall_mem_nil _) hnames hq
  exact ⟨hs, htexts, q, hq, hcomplete, hencloses (sql, " s") List.mem_cons_self⟩

omit hs in
/-- A comment at the end of a segment's SQL takes in the parenthesis after it. -/
theorem parenthesis_lost_in_comment :
    let s : Source := { settings := .builtin, dialect := ⟨.postgres, none, none⟩ }
    let g : SegmentDefinition :=
      { name := "vips", sql := "SELECT user_id, date FROM vips -- all"
        userIdType := .user }
    (∀ t ∈ s.texts, Bare t) ∧ Complete g.sql.toList ∧
      ¬Complete (s.segmentTable g .user).text.toList := by
  intro s g
  exact ⟨by decide +kernel, by decide +kernel, by decide +kernel⟩

end Source

end SplitTest
