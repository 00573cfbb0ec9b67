import SplitTest.Proofs.Assignments
import SplitTest.Proofs.Query.Columns

/-! Composed queries are well scoped.  A query of texts without quotes, comments and parentheses
that name no derived table is complete, and spells a statement each of whose derived tables is
defined once, before it is read, and is read; where it combines two SELECTs, they have the same
columns, and what is read from its rows depends on each of them. -/

namespace SplitTest

open Scan

/-- A text without quotes, comments and parentheses that names no derived table. -/
structure Unmarked (s : String) : Prop where
  bare : Bare s
  nameless : Watchword.tableMark.Absent s

instance (s : String) : Decidable (Unmarked s) :=
  decidable_of_iff (Bare s ∧ Watchword.tableMark.Absent s)
    ⟨fun h => ⟨h.1, h.2⟩, fun h => ⟨h.bare, h.nameless⟩⟩

/-! ### Statements -/

/-- A complete text that spells a statement whose definitions are in scope. -/
structure SpellsScoped (text : String) (st : Statement) : Prop where
  spelled : Statement.ofText? text = some st
  inScope : st.IsScoped
  complete : Complete text.toList

theorem Query.IsScoped.spells {q : Query} {arms : List (List String)} (h : q.IsScoped)
    (hreadable : q.IsReadable) (hbalanced : q.IsBalanced) (hcolumns : q.HasColumns arms) :
    SpellsScoped q.sql.text q.statement where
  spelled := Spells.ofText? ⟨h.toIsListed, hreadable, hbalanced, hcolumns.head⟩
  inScope := h.statement
  complete := hbalanced.sql.complete hreadable.sql

/-- What is read from a row depends on a column. -/
def ReadsColumn {α : Type} (read : List Row → Except Fault α) (column : String) : Prop :=
  ∃ row row' : Row, (∀ other, other ≠ column → row.get other = row'.get other) ∧
    read [row] ≠ read [row']

theorem readsColumn_of_ne {α : Type} {read : List Row → Except Fault α} {column : String}
    (h : read [[(column, .text "1")]] ≠ read [[(column, .null)]]) : ReadsColumn read column := by
  refine ⟨_, _, fun other hother => ?_, h⟩
  simp [Row.get, lookup_cons_ite, hother]

/-- The SELECTs of a statement have the same columns, on each of which the result of reading its
rows depends. -/
def Statement.IsUniform {α : Type} (st : Statement) (read : List Row → Except Fault α) : Prop :=
  ∃ columns, (∀ arm ∈ st.arms, Statement.columns arm = columns) ∧
    ∀ column ∈ columns, ReadsColumn read column

/-- The SELECTs that the statement of a query combines: two where rows are by date. -/
def Composition.Combines (st : Statement) : Composition → Prop
  | users p =>
    st.arms.length = (if p.includeByDate then 2 else 1) ∧ st.IsUniform UsersResult.ofRows
  | metricValue p =>
    st.arms.length = (if p.includeByDate then 2 else 1) ∧ st.IsUniform MetricValueResult.ofRows
  | experimentUsers _ | experimentMetric _ _ => st.arms.length = 1

theorem Query.HasColumns.length {q : Query} {arms : List (List String)} (h : q.HasColumns arms) :
    q.statement.arms.length = arms.length := by
  rw [← h.columns, List.length_map]

/-- Where rows are by date the second SELECT has the columns of the first. -/
theorem Query.HasColumns.uniform {α : Type} {q : Query} {byDate : Bool} {columns : List String}
    {read : List Row → Except Fault α} (h : q.HasColumns (Source.arms byDate columns))
    (hread : ∀ column ∈ "date" :: columns, ReadsColumn read column) :
    q.statement.arms.length = (if byDate then 2 else 1) ∧ q.statement.IsUniform read := by
  cases byDate with
  | false =>
    refine ⟨h.length, columns, fun arm harm => ?_, fun column hcolumn =>
      hread column (List.mem_cons_of_mem _ hcolumn)⟩
    have hmem := List.mem_map_of_mem (f := Statement.columns) harm
    rw [h.columns] at hmem
    simpa [Source.arms] using hmem
  | true =>
    refine ⟨h.length, "date" :: columns, fun arm harm => ?_, hread⟩
    have hmem := List.mem_map_of_mem (f := Statement.columns) harm
    rw [h.columns] at hmem
    simpa [Source.arms] using hmem

namespace Source

theorem readsColumn_users : ∀ column ∈ ["date", "users"],
    ReadsColumn UsersResult.ofRows column := by
  have h : ∀ column ∈ ["date", "users"],
      UsersResult.ofRows [[(column, .text "1")]] ≠ UsersResult.ofRows [[(column, .null)]] := by
    decide +kernel
  exact fun column hcolumn => readsColumn_of_ne (h column hcolumn)

theorem readsColumn_metricValue : ∀ column ∈ ["date", "count", "mean", "stddev"] ++ ladderColumns,
    ReadsColumn MetricValueResult.ofRows column := by
  have h : ∀ column ∈ ["date", "count", "mean", "stddev"] ++ ladderColumns,
      MetricValueResult.ofRows [[(column, .text "1")]] ≠
        MetricValueResult.ofRows [[(column, .null)]] := by
    decide +kernel
  exact fun column hcolumn => readsColumn_of_ne (h column hcolumn)

theorem composed_combines {s : Source} {c : Composition} {q : Query} (hq : s.composed c = .ok q) :
    (∃ arms, q.HasColumns arms) ∧ c.Combines q.statement := by
  cases c with
  | users p =>
    have hcolumns := usersQuery_columns hq
    exact ⟨⟨_, hcolumns⟩, hcolumns.uniform readsColumn_users⟩
  | metricValue p =>
    have hcolumns := metricValueQuery_columns hq
    refine ⟨⟨_, hcolumns⟩, hcolumns.uniform fun column hcolumn => readsColumn_metricValue column ?_⟩
    unfold ladderNames at hcolumn
    split at hcolumn
    · exact hcolumn
    · exact List.mem_append_left _ hcolumn
  | experimentUsers a =>
    have hcolumns := composedUsersQuery_columns hq
    exact ⟨⟨_, hcolumns⟩, hcolumns.length⟩
  | experimentMetric a m =>
    have hcolumns := composedMetricQuery_columns hq
    exact ⟨⟨_, hcolumns⟩, hcolumns.length⟩

variable {s : Source} (hs : ∀ t ∈ s.texts, Unmarked t)
include hs

theorem composed_isScoped {c : Composition} {q : Query}
    (htexts : ∀ t ∈ c.texts, Watchword.tableMark.Absent t)
    (hcolumns : ∀ column ∈ c.columns, Watchword.tableMark.Absent column)
    (hq : s.composed c = .ok q) : q.IsScoped := by
  have hs : ∀ t ∈ s.texts, Watchword.tableMark.Absent t := fun t ht => (hs t ht).nameless
  cases c with
  | users p => exact usersQuery_isScoped hs htexts hq
  | metricValue p =>
    exact metricValueQuery_isScoped hs htexts
      (fun column h => hcolumns column (Option.mem_toList.mpr h)) hq
  | experimentUsers a => exact composedUsersQuery_isScoped hs htexts hcolumns hq
  | experimentMetric a m => exact composedMetricQuery_isScoped hs htexts hcolumns hq

omit hs in
/-- A composed query, and the query for past experiments, is complete and spells a statement whose
derived tables are defined once, before they are read, and all read.  A query by date combines two
SELECTs with the same columns, on each of which the result of its rows depends. -/
theorem compositions_well_scoped (hs : ∀ t ∈ s.texts, Unmarked t) :
    (∀ (c : Composition) (text : Sql), c.isOverridden = false →
      (∀ t ∈ c.texts ++ c.columns, Unmarked t) → (∀ name ∈ c.names, OneLine name) →
      s.compose c = .ok text →
        ∃ st, SpellsScoped text.text st ∧ c.Combines st) ∧
    ∀ (dateFrom : DateTime) (q : Query), s.pastExperimentsQuery dateFrom = .ok q →
      ∃ st, SpellsScoped q.sql.text st ∧ st.arms.length = 1 := by
  have hwhole : ∀ t ∈ s.texts, Whole t := fun t ht => (hs t ht).bare.whole
  have hclosed := closed_of_whole hwhole
  constructor
  · intro c text hown htexts hnames htext
    rw [s.compose_of_not_overridden hown] at htext
    obtain ⟨q, hq, rfl⟩ := Except.map_eq_ok.mp htext
    obtain ⟨htexts, hcolumns⟩ := List.forall_mem_append.mp htexts
    have hscoped := composed_isScoped hs (fun t ht => (htexts t ht).nameless)
      (fun column hcolumn => (hcolumns column hcolumn).nameless) hq
    have hreadable := composed_readable hclosed (fun t ht => (htexts t ht).bare.whole.closed)
      (fun column hcolumn => (hcolumns column hcolumn).bare.plain) hnames hq
    have hbalanced := composed_balanced hwhole (fun t ht => (htexts t ht).bare.whole)
      (fun column hcolumn => (hcolumns column hcolumn).bare) hnames hq
    obtain ⟨⟨arms, harms⟩, hcombines⟩ := composed_combines hq
    exact ⟨q.statement, hscoped.spells hreadable hbalanced harms, hcombines⟩
  · intro dateFrom q hq
    have hscoped := pastExperimentsQuery_isScoped (fun t ht => (hs t ht).nameless) hq
    have hcolumns := pastExperimentsQuery_columns hq
    refine ⟨q.statement, hscoped.spells (pastExperimentsQuery_readable hclosed hq)
      (pastExperimentsQuery_balanced hwhole hq) hcolumns, hcolumns.length⟩

omit hs in
/-- Revenue by day among the visitors of a segment, with percentiles and a name that has quotes. -/
theorem compositions_well_scoped_by_day :
    let s : Source := ⟨.builtin, ⟨.bigquery, some "shop", some "web"⟩⟩
    let day : DateTime := ⟨⟨⟨737852, by decide⟩⟩, ⟨0, by decide⟩, 0, none⟩
    let m : MetricDefinition :=
      { MetricDefinition.minimal "m" "It\x27s (revenue)" .revenue "orders" with
        column := some "\x7balias\x7d.amount / 100", userIdType := .anonymous
        conditions := [⟨"status", .isMatch, "pa(id\x27--__"⟩] }
    let p : MetricValueParams :=
      { name := "Shop", dateFrom := day, dateTo := day,
        urlRegex := some "/cart", userIdType := .user
        segment := some ⟨"vips",
          "SELECT user_id, date FROM vips UNION ALL SELECT 1, 2 FROM x", .user⟩
        conversionWindowHours := 72, includeByDate := true,
        metric := m, includePercentiles := true }
    let c : Composition := .metricValue p
    ((∀ t ∈ s.texts, Unmarked t) ∧ c.isOverridden = false ∧
      (∀ t ∈ c.texts ++ c.columns, Unmarked t) ∧
      ∀ name ∈ c.names, OneLine name) ∧
      (∃ text st, s.compose c = .ok text ∧ SpellsScoped text.text st ∧ st.arms.length = 2 ∧
        st.IsUniform MetricValueResult.ofRows) ∧
      ∃ q st, s.pastExperimentsQuery day = .ok q ∧ SpellsScoped q.sql.text st ∧
        st.arms.length = 1 := by
  intro s day m p c
  have hs : ∀ t ∈ s.texts, Unmarked t := by decide +kernel
  have htexts : ∀ t ∈ c.texts ++ c.columns, Unmarked t := by decide +kernel
  have hnames : ∀ name ∈ c.names, OneLine name := OneLine.forall_mem (by decide +kernel)
  obtain ⟨text, htext⟩ : ∃ text, s.compose c = .ok text := Except.exists_eq_ok (by decide +kernel)
  obtain ⟨q, hq⟩ : ∃ q, s.pastExperimentsQuery day = .ok q :=
    Except.exists_eq_ok (by decide +kernel)
  obtain ⟨hcompositions, hpast⟩ := compositions_well_scoped hs
  obtain ⟨st, hspells, harms, huniform⟩ := hcompositions c text rfl htexts hnames htext
  obtain ⟨st', hspells', harms'⟩ := hpast day q hq
  exact ⟨⟨hs, rfl, htexts, hnames⟩, ⟨text, st, htext, hspells, harms, huniform⟩, q, st',
    hq, hspells',
    harms'⟩

end Source

end SplitTest
