import SplitTest.Proofs.Except
import SplitTest.Proofs.Query.Composition
import SplitTest.Proofs.Sql.PlainTexts

/-! The fragments of a query are readable, or framed where text stands on both sides of them, as
long as this holds for what they are made of: the names of tables and columns, the shifts, matches
and percentiles of a dialect, identifiers and their joins, and the values of metrics. -/

namespace SplitTest

open Scan

theorem Tight.closed {s : String} (h : Tight s) : Closed s.toList :=
  h.plain.closed

/-! ### Names of tables and columns -/

theorem forall_firstNonEmpty {P : String → Prop} {last : String} {names : List (Option String)}
    (hlast : P last) (hnames : ∀ name ∈ names, ∀ t ∈ name, P t) :
    P (SourceSettings.firstNonEmpty last names) := by
  induction names with
  | nil => exact hlast
  | cons name rest ih =>
    obtain ⟨hname, hrest⟩ := List.forall_mem_cons.mp hnames
    cases name with
    | none => exact ih hrest
    | some t =>
      unfold SourceSettings.firstNonEmpty
      split
      · exact ih hrest
      · exact hname t rfl

theorem ColumnRole.closed_builtin (role : ColumnRole) : Closed role.builtin.toList := by
  cases role <;> exact (Tight.of rfl).closed

theorem Columns.get_mem_texts {c : Columns} {role : ColumnRole} {t : String}
    (h : t ∈ c.get role) : t ∈ c.texts := by
  cases role <;> simp_all [get, texts]

theorem SourceSettings.mem_texts_of_columnsOf {s : SourceSettings} {sect : Section} {t : String}
    (h : t ∈ (s.columnsOf sect).texts) : t ∈ s.texts := by
  cases sect <;> simp_all [columnsOf, texts]

/-- The name of a table, with the names that it is made of held apart. -/
def Dialect.tableNameSql (d : Dialect) (table : String) : Sql :=
  match d.flavor with
  | .bigquery =>
    match nonEmpty? d.project, nonEmpty? d.dataset with
    | some project, some dataset => .concat ["\x60", project, "\x60.\x60", dataset, "\x60.", table]
    | none, some dataset => .concat ["\x60", dataset, "\x60.", table]
    | _, none => table
  | _ => table

theorem Dialect.chars_tableNameSql (d : Dialect) (table : String) :
    (d.tableNameSql table).chars = (d.fullTableName table).toList := by
  unfold tableNameSql fullTableName
  cases d.flavor with
  | bigquery =>
    cases nonEmpty? d.project <;> cases nonEmpty? d.dataset <;>
      simp [Sql.concat_cons, Sql.chars_append, Sql.chars_code, Sql.chars_nil]
  | _ => exact Sql.chars_code table

namespace Source

theorem forall_setting {P : String → Prop} {s : Source} (hs : ∀ t ∈ s.texts, P t) {t : String}
    (h : t ∈ s.settings.texts) : P t :=
  hs t (List.mem_append_left _ (List.mem_append_left _ h))

/-- What holds of all built-in and of all given names holds of the name of every column. -/
theorem forall_column {P : String → Prop} (hbuiltin : ∀ role : ColumnRole, P role.builtin)
    {s : Source} (hs : ∀ t ∈ s.texts, P t) (role : ColumnRole) (sect : Section)
    {metric : Option MetricDefinition} (hmetric : ∀ m ∈ metric, ∀ t ∈ m.texts, P t) :
    P (s.settings.column role sect metric) := by
  refine forall_firstNonEmpty (hbuiltin role) ?_
  simp only [List.forall_mem_cons, List.not_mem_nil, false_implies, implies_true, and_true]
  refine ⟨fun t ht => ?_, fun t ht => ?_, fun t ht => ?_⟩
  · obtain ⟨m, hm, htm⟩ := Option.bind_eq_some_iff.mp ht
    refine hmetric m hm t ?_
    cases role <;> simp_all [MetricDefinition.texts]
  · exact forall_setting hs (SourceSettings.mem_texts_of_columnsOf (Columns.get_mem_texts ht))
  · have hdefault : t ∈ (s.settings.columnsOf .default).texts := Columns.get_mem_texts ht
    exact forall_setting hs (SourceSettings.mem_texts_of_columnsOf hdefault)

theorem forall_qualifier {P : String → Prop} {s : Source} (hs : ∀ t ∈ s.texts, P t) {t : String}
    (h : nonEmpty? s.dialect.project = some t ∨ nonEmpty? s.dialect.dataset = some t) : P t := by
  refine hs t ?_
  rcases h with h | h
  · have hproject : t ∈ s.dialect.project := (Option.filter_eq_some_iff.mp h).1
    exact List.mem_append_left _ (List.mem_append_right _ (Option.mem_toList.mpr hproject))
  · have hdataset : t ∈ s.dialect.dataset := (Option.filter_eq_some_iff.mp h).1
    exact List.mem_append_right _ (Option.mem_toList.mpr hdataset)

variable {s : Source} (hs : ∀ t ∈ s.texts, Closed t.toList)
include hs

theorem closed_setting {t : String} (h : t ∈ s.settings.texts) : Closed t.toList :=
  forall_setting hs h

theorem closed_column (role : ColumnRole) (sect : Section) {metric : Option MetricDefinition}
    (hmetric : ∀ m ∈ metric, ∀ t ∈ m.texts, Closed t.toList) :
    Closed (s.settings.column role sect metric).toList :=
  forall_column ColumnRole.closed_builtin hs role sect hmetric

theorem closed_sectionColumn (role : ColumnRole) (sect : Section) :
    Closed (s.settings.column role sect none).toList :=
  closed_column hs role sect fun _ hm => absurd hm (Option.not_mem_none _)

theorem tableNameSql_readable {table : String} (h : Closed table.toList) :
    (s.dialect.tableNameSql table).Readable := by
  have hqualifier {t : String} (h : nonEmpty? s.dialect.project = some t ∨
      nonEmpty? s.dialect.dataset = some t) : (Sql.code t).Readable :=
    .code (forall_qualifier hs h)
  have htable : (Sql.code table).Readable := .code h
  unfold Dialect.tableNameSql
  split
  · split
    · rename_i project dataset hproject hdataset
      exact .slot (.of rfl) (hqualifier (.inl hproject))
        (.slot (.of rfl) (hqualifier (.inr hdataset)) (.slot (.of rfl) htable .nil))
    · rename_i dataset _ hdataset
      exact .slot (.of rfl) (hqualifier (.inr hdataset)) (.slot (.of rfl) htable .nil)
    · exact htable
  · exact htable

theorem closed_fullTableName {table : String} (h : Closed table.toList) :
    Closed (s.dialect.fullTableName table).toList := by
  rw [← Dialect.chars_tableNameSql]
  exact (tableNameSql_readable hs h).closed

/-- The tables that the settings name. -/
theorem settingTable_readable {table : String} (h : table ∈ s.settings.texts) :
    (Sql.code (s.dialect.fullTableName table)).Readable :=
  .code (closed_fullTableName hs (closed_setting hs h))

end Source

/-! ### Fragments of a dialect -/

namespace Dialect

variable (d : Dialect) {column : Sql} (hcolumn : column.Readable)
include hcolumn

theorem addHours_readable (hours : Int) : (d.addHours column hours).Readable := by
  have hn : (Sql.code (toString hours)).Readable := .code (plain_int hours).closed
  unfold addHours
  cases d.flavor with
  | snowflake | bigquery =>
    refine .slot (.of rfl) ?_ (.slot (.of rfl) ?_ (.last (.of rfl)))
    all_goals assumption
  | presto =>
    exact .slot (.of rfl) (.literal _)
      (.slot (.of rfl) hn (.slot (.of rfl) hcolumn (.last (.of rfl))))
  | postgres | redshift | duckdb =>
    exact .next hcolumn (.slot (.of rfl) (.literal _) .nil)

/-- The minus sign before the number of minutes is no comment, as no hyphen follows it. -/
theorem subtractMinutes_readable : (d.subtractMinutes column sessionMinutes).Readable := by
  have hcount : toString sessionMinutes = "30" := rfl
  unfold subtractMinutes
  simp only [hcount]
  cases d.flavor with
  | snowflake =>
    exact Sql.Framed.readable (.glued (.of_append rfl) (.slot (.of rfl) hcolumn (.last (.of rfl))))
  | bigquery =>
    exact .slot (.of rfl) hcolumn (.tight (.of rfl) (.tight (.of rfl) (.last (.of rfl))))
  | presto =>
    exact .slot (.of rfl) (.literal _) (Sql.Framed.glued (.of_append rfl)
      (.slot (.of rfl) hcolumn (.last (.of rfl))))
  | postgres | redshift | duckdb =>
    exact .next hcolumn (.slot (.of rfl) (.literal _) .nil)

theorem regexMatch_readable (pattern : String) : (d.regexMatch column pattern).Readable := by
  unfold regexMatch
  cases d.flavor with
  | snowflake | bigquery | presto | duckdb =>
    exact .slot (.of rfl) hcolumn (.slot (.of rfl) (.literal _) (.last (.of rfl)))
  | postgres | redshift => exact .next hcolumn (.slot (.of rfl) (.literal _) .nil)

omit hcolumn in
theorem readable_of_formatTimestamp {t : DateTime} {q : Sql} (h : d.formatTimestamp t = .ok q) :
    q.Readable := by
  obtain ⟨text, -, rfl⟩ := Except.map_eq_ok.mp h
  exact .literal text

theorem dateTrunc_framed : (d.dateTrunc column).Framed := by
  unfold dateTrunc
  cases d.flavor with
  | bigquery => exact .slot (.of rfl) hcolumn (.last (.of rfl))
  | _ =>
    exact .slot (.of rfl) (.literal _) (.slot (.of rfl) hcolumn (.last (.of rfl)))

theorem percentile_framed (fraction : Double) : (d.percentile column fraction).Framed := by
  have hpercent : (Sql.code (toString (percent fraction))).Readable := .code (plain_int _).closed
  have hfraction : (Sql.code fraction.text).Readable := .code fraction.plain_text.closed
  unfold percentile
  cases d.flavor with
  | bigquery | presto | duckdb =>
    refine .slot (.of rfl) hcolumn (.slot (.of rfl) ?_ (.last (.of rfl)))
    assumption
  | postgres | redshift | snowflake =>
    exact .slot (.of rfl) hfraction (.slot (.of rfl) hcolumn (.last (.of rfl)))

end Dialect

/-! ### Identifiers -/

namespace Source

variable {s : Source}

theorem column_readable {tableName column : String} (htable : Tight tableName)
    (hcolumn : Closed column.toList) :
    (Sql.concat [tableName, ".", column]).Readable :=
  .tight htable (.slot (.of rfl) (.code hcolumn) .nil)

variable (hs : ∀ t ∈ s.texts, Closed t.toList)
include hs

/-- The columns that are named for a table without a metric. -/
theorem idColumn_readable (idType : IdType) (sect : Section) :
    (Sql.code (s.settings.idColumn idType sect none)).Readable :=
  .code (closed_sectionColumn hs _ sect)

theorem identifiesJoin_framed {nativeColumn : Sql} (hcolumn : nativeColumn.Readable)
    (native : IdType) : (s.identifiesJoin nativeColumn native).Framed := by
  have htable : (Sql.code (s.dialect.fullTableName s.settings.identifies.table)).Readable :=
    settingTable_readable hs (by simp [SourceSettings.texts])
  exact .slot (.of rfl) htable (.slot (.of rfl) (idColumn_readable hs native _)
    (.slot (.of rfl) hcolumn (.last (.of rfl))))

theorem reconcile_readable (requested native : IdType)
    {tableName nativeColumn requestedColumn : String} (htable : Tight tableName)
    (hnative : Closed nativeColumn.toList) (hrequested : Closed requestedColumn.toList) :
    (s.reconcile requested native tableName nativeColumn requestedColumn).column.Readable ∧
      (s.reconcile requested native tableName nativeColumn requestedColumn).join.Framed := by
  unfold reconcile
  split
  · exact ⟨column_readable htable hrequested, .empty⟩
  · exact ⟨.slot (.of rfl) (idColumn_readable hs requested _) .nil,
      identifiesJoin_framed hs (column_readable htable hnative) native⟩

end Source

/-! ### Metrics -/

theorem capValue_framed (cap : Double) {value : Sql} (h : value.Framed) :
    (capValue cap value).Framed := by
  unfold capValue
  split
  · exact h
  · exact .slot (.of rfl) (.code (plain_numberText cap).closed)
      (.slot (.of rfl) h.readable (.last (.of rfl)))

namespace MetricDefinition

theorem columnSql_readable {column : String} (h : Plain column.toList) :
    (columnSql column "m").Readable := by
  unfold columnSql
  split
  · have hcalm : Calm "m" := .of rfl
    exact .code (plain_replaceAll hcalm (by decide) h).closed
  · exact Source.column_readable (.of rfl) h.closed

theorem rawValue_readable {m : MetricDefinition} (h : ∀ column ∈ m.column, Plain column.toList)
    {value : Sql} (hvalue : m.rawValue "m" = .ok value) : value.Readable := by
  have hone : (Sql.code "1").Readable := (.of_tight (.of rfl))
  have hcolumn : m.valueColumn "m" = .ok value → value.Readable := by
    unfold valueColumn
    split
    · rename_i column hcolumn
      rintro ⟨⟩
      exact columnSql_readable (h column hcolumn)
    · simp
  unfold rawValue at hvalue
  split at hvalue
  · split at hvalue
    · exact hcolumn hvalue
    · obtain rfl := Except.ok.inj hvalue
      exact hone
  · exact hcolumn hvalue
  · exact hcolumn hvalue
  · obtain rfl := Except.ok.inj hvalue
    exact hone

theorem aggregateValue_framed (m : MetricDefinition) {column : Sql} (h : column.Readable) :
    (m.aggregateValue column).Framed := by
  unfold aggregateValue
  split
  · refine capValue_framed _ ?_
    split
    · exact .slot (.of rfl) h (.last (.of rfl))
    · exact .code (.of rfl)
  · exact capValue_framed _ (.slot (.of rfl) h (.last (.of rfl)))
  · exact capValue_framed _ (.slot (.of rfl) h (.last (.of rfl)))
  · exact .code (.of rfl)

end MetricDefinition

theorem Operator.tight_symbol (o : Operator) : Tight o.symbol := by
  cases o <;> exact .of rfl

namespace Source

variable (s : Source)

theorem condition_readable {c : MetricCondition} (h : Closed c.column.toList) :
    (s.condition "m" c).Readable := by
  have hcolumn : (Sql.code "m" ++ Sql.code "." ++ Sql.code c.column).Readable :=
    column_readable (.of rfl) h
  unfold condition
  split
  · exact s.dialect.regexMatch_readable hcolumn _
  · exact .slot (.of rfl) (s.dialect.regexMatch_readable hcolumn _) (.last (.of rfl))
  · exact .next hcolumn (.tight (.of rfl) (.tight (Operator.tight_symbol _)
      (.slot (.of rfl) (.literal _) .nil)))

theorem conditions_readable {m : MetricDefinition} (h : ∀ t ∈ m.texts, Closed t.toList) :
    (s.conditions m "m").Readable := by
  refine .join (.of rfl) (List.forall_mem_map.mpr fun c hc => s.condition_readable (h c.column ?_))
  exact List.mem_cons_of_mem _ (List.mem_append_right _ (List.mem_map_of_mem hc))

theorem conversionWindowJoin_framed (m : MetricDefinition) :
    (s.conversionWindowJoin m "d" "m").Framed := by
  unfold conversionWindowJoin
  extract_lets start first last
  have hstart : start.Readable := by
    refine .before (.append (.code (.of rfl)) (.code (.of rfl))) (.of_tight ?_)
    split <;> exact .of rfl
  have hfirst : first.Readable := by
    unfold first
    split
    · exact hstart
    · exact s.dialect.addHours_readable hstart _
  have hlast : last.Readable :=
    s.dialect.addHours_readable (Sql.Framed.code (.of_append rfl)).readable _
  refine .before ?_ (.next hfirst (.before ?_ (.next hlast .nil)))
  · exact .append (.append (.append (.append (.append (.code (.of rfl)) (.code (.of rfl)))
      (.code (.of rfl))) (.code (.of rfl))) (.code (.of rfl))) (.code (.of rfl))
  · exact .append (.append (.code (.of rfl)) (.code (.of rfl))) (.code (.of rfl))

end Source
end SplitTest
