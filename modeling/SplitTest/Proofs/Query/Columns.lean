import SplitTest.Proofs.Query.Scope
import SplitTest.Results.Rows

/-! The columns of composed queries.  Outside parentheses a query's body shows the columns of its
SELECTs, whatever the dialect puts into the parentheses; where there are two SELECTs they have the
same columns, and the result that rows are read to depends on each of them. -/

namespace SplitTest

open Scan

/-! ### Columns -/

/-- A query whose SELECTs have these columns. -/
structure Query.HasColumns (q : Query) (arms : List (List String)) : Prop where
  head : q.body.tokens.head? ≠ some (.mark ',')
  columns : q.statement.arms.map Statement.columns = arms

theorem Query.HasColumns.of_shows {q : Query} {arms : List (List String)} {ts : List Token}
    (h : q.body.Shows 0 0 ts) (hhead : ts.head? = some (.keyword "SELECT"))
    (hcolumns : (ts.splitOn (.keyword "UNION")).map Statement.columns = arms) :
    q.HasColumns arms := by
  constructor
  · rw [← Statement.head?_outline h.leads, h.outline, hhead]
    decide
  · rw [Statement.arms, Query.statement, h.outline, hcolumns]

theorem Query.HasColumns.of_body {q : Query} {arms : List (List String)} {body : Sql}
    (hbody : q.body = body) (hhead : body.tokens.head? ≠ some (.mark ','))
    (hcolumns : ((Statement.outline 0 body.tokens).splitOn (.keyword "UNION")).map
      Statement.columns = arms) : q.HasColumns arms :=
  ⟨hbody ▸ hhead, by rw [Statement.arms, Query.statement, hbody, hcolumns]⟩

/-! ### Fragments of a dialect -/

namespace Dialect

variable (d : Dialect) {column : Sql} (hcolumn : column.Balanced)
include hcolumn

/-- What is seen of the day of a column outside parentheses. -/
def dayFrame : String :=
  match d.flavor with
  | .bigquery => "TIMESTAMP_TRUNC()"
  | _ => "date_trunc()"

/-- What is seen of a percentile of a column outside parentheses. -/
def percentileFrame : String :=
  match d.flavor with
  | .bigquery => "APPROX_QUANTILES()[OFFSET()]"
  | .presto => "approx_percentile()"
  | .duckdb => "quantile_cont()"
  | _ => "PERCENTILE_CONT() WITHIN GROUP ()"

theorem dateTrunc_shows : (d.dateTrunc column).Shows 0 0 (Sql.code d.dayFrame).tokens := by
  have hday : (Sql.literal "day").Balanced := .literal _
  unfold dateTrunc dayFrame
  cases d.flavor with
  | bigquery =>
    exact (Sql.Shows.opens rfl rfl (.slot (.hidden hcolumn) (.next rfl rfl rfl .nil))).of_eq
      (by decide +kernel)
  | _ =>
    exact (Sql.Shows.opens rfl rfl (.slot (.hidden hday) (.next rfl rfl rfl (.slot (.hidden hcolumn)
      (.next rfl rfl rfl .nil))))).of_eq (by decide +kernel)

theorem percentile_shows (fraction : Double) :
    (d.percentile column fraction).Shows 0 0 (Sql.code d.percentileFrame).tokens := by
  have hpercent : (Sql.code (toString (percent fraction))).Balanced :=
    .code ((plain_int _).complete (unnested_int _))
  have hfraction : (Sql.code fraction.text).Balanced :=
    .code (fraction.plain_text.complete fraction.unnested_text)
  unfold percentile percentileFrame
  cases d.flavor with
  | bigquery =>
    exact (Sql.Shows.opens rfl rfl (.slot (.hidden hcolumn) (.next rfl rfl rfl (.slot
      (.hidden hpercent) (.next rfl rfl rfl .nil))))).of_eq (by decide +kernel)
  | presto | duckdb =>
    exact (Sql.Shows.opens rfl rfl (.slot (.hidden hcolumn) (.next rfl rfl rfl (.slot
      (.hidden hfraction) (.next rfl rfl rfl .nil))))).of_eq (by decide +kernel)
  | postgres | redshift | snowflake =>
    exact (Sql.Shows.opens rfl rfl (.slot (.hidden hfraction) (.next rfl rfl rfl (.slot
      (.hidden hcolumn) (.next rfl rfl rfl .nil))))).of_eq (by decide +kernel)

/-- What is seen of the days between two times outside parentheses. -/
def daysFrame : String :=
  match d.flavor with
  | .postgres => "()"
  | .redshift | .snowflake => "DATEDIFF()"
  | .bigquery => "DATE_DIFF()"
  | .presto | .duckdb => "date_diff()"

theorem dateDiff_shows {first : Sql} (hfirst : first.Balanced) :
    (d.dateDiff first column).Shows 0 0 (Sql.code d.daysFrame).tokens := by
  have hday : (Sql.literal "day").Balanced := .literal _
  unfold dateDiff daysFrame
  cases d.flavor with
  | postgres | bigquery =>
    exact (Sql.Shows.opens rfl rfl (.slot (.hidden hcolumn) (.next rfl rfl rfl (.slot
      (.hidden hfirst) (.next rfl rfl rfl .nil))))).of_eq (by decide +kernel)
  | redshift | snowflake =>
    exact (Sql.Shows.opens rfl rfl (.slot (.hidden hfirst) (.next rfl rfl rfl (.slot
      (.hidden hcolumn) (.next rfl rfl rfl .nil))))).of_eq (by decide +kernel)
  | presto =>
    exact (Sql.Shows.opens rfl rfl (.slot (.hidden hday) (.next rfl rfl rfl (.slot (.hidden hday)
      (.next rfl rfl rfl (.slot (.hidden hfirst) (.next rfl rfl rfl (.slot (.hidden hday)
        (.next rfl rfl rfl (.slot (.hidden hcolumn) (.next rfl rfl rfl .nil))))))))))).of_eq
      (by decide +kernel)
  | duckdb =>
    exact (Sql.Shows.opens rfl rfl (.slot (.hidden hday) (.next rfl rfl rfl (.slot (.hidden hfirst)
      (.next rfl rfl rfl (.slot (.hidden hcolumn) (.next rfl rfl rfl .nil))))))).of_eq
      (by decide +kernel)

end Dialect

theorem Sql.shows_word {name : String} (h : IsWord name.toList) :
    (Sql.code name).Shows 0 0 [.word name.toList] := by
  constructor
  · rw [Sql.tokens_of_isWord h]
    rfl
  · rw [Sql.tokens_of_isWord h]
    rfl

namespace Source

theorem segmentJoin_shows (p : UsersQueryParams) : p.segmentJoin.Shows 0 0
    (if p.segment.isSome then (Sql.code "JOIN __segment s ON ()").tokens else []) := by
  unfold UsersQueryParams.segmentJoin
  split
  · exact (Sql.Shows.code rfl).of_eq (by decide +kernel)
  · exact .nil

/-- The SELECTs of a query: one, and another for the days if rows are by date. -/
def arms (includeByDate : Bool) (columns : List String) : List (List String) :=
  if includeByDate then [("date" :: columns), "date" :: columns] else [columns]

theorem usersQuery_columns {s : Source} {p : UsersQueryParams} {q : Query}
    (hq : s.usersQuery p = .ok q) : q.HasColumns (arms p.includeByDate ["users"]) := by
  obtain ⟨ts, hts, hq⟩ := Except.bind_eq_ok.mp hq
  obtain rfl := Except.ok.inj hq
  have hsegment := segmentJoin_shows p
  have hday : (s.dialect.dateTrunc "u.actual_start").Shows 0 0
      (Sql.code s.dialect.dayFrame).tokens :=
    s.dialect.dateTrunc_shows (.written rfl)
  unfold Dialect.dayFrame at hday
  unfold UsersQueryParams.dateColumn
  cases p.includeByDate
  case false =>
    refine .of_shows (.opens rfl rfl (.slot .nil (.next rfl rfl rfl (.slot hsegment
      (.next rfl rfl rfl (.slot .nil (.next rfl rfl rfl .nil))))))) rfl ?_
    cases p.segment.isSome <;> decide +kernel
  case true =>
    refine .of_shows (.opens rfl rfl (.slot (.code rfl) (.next rfl rfl rfl (.slot hsegment
      (.next rfl rfl rfl (.slot (.opens rfl rfl (.slot hday (.next rfl rfl rfl (.slot hsegment
        (.next rfl rfl rfl (.slot hday (.next rfl rfl rfl .nil))))))) (.next rfl rfl rfl .nil)))))))
      rfl ?_
    cases p.segment.isSome <;> cases s.dialect.flavor <;> decide +kernel

/-- The names of the columns of the percentile ladder. -/
def ladderColumns : List String :=
  percentileLadder.map percentileAlias

/-- What a ladder of percentiles shows outside parentheses where each of them shows `cell`. -/
def ladderTokens (cell : List Token) : List Token :=
  .mark ',' :: ((percentileLadder.map fun fraction =>
    cell ++ [.keyword "as", .word (percentileAlias fraction).toList]).intersperse
      [.mark ',']).flatten

/-- A percentile of a column, or zero where there is none. -/
def ladderCell (s : Source) (column : Option Sql) (fraction : Double) : Sql :=
  match column with
  | some c => s.dialect.percentile c fraction
  | none => "0"

variable {s : Source} {column : Option Sql} {cell : List Token}

theorem percentileColumns_shows (m : MetricDefinition)
    (h : ∀ fraction, (s.ladderCell column fraction).Shows 0 0 cell) :
    (s.percentileColumns m column).ShowsApart 0 0
      (if m.type = .binomial then [] else ladderTokens cell) := by
  have hwords : ∀ fraction ∈ percentileLadder, IsWord (percentileAlias fraction).toList := by
    decide +kernel
  have hitem : ∀ fraction ∈ percentileLadder,
      (Sql.concat [s.ladderCell column fraction, " as ", percentileAlias fraction]).Shows 0 0
        (cell ++ [.keyword "as", .word (percentileAlias fraction).toList]) := fun fraction hmem =>
    ((h fraction).slot (.next rfl rfl rfl ((Sql.shows_word (hwords fraction hmem)).slot
      .nil))).of_eq rfl
  unfold percentileColumns
  split
  · exact .empty
  · have hitems : (Sql.join ",\n      " (percentileLadder.map fun fraction =>
        Sql.concat [s.ladderCell column fraction, " as ", percentileAlias fraction])).Shows 0 0 _ :=
      .join rfl rfl rfl hitem
    have hladder : (Sql.concat [",\n      ", .join ",\n      " (percentileLadder.map fun fraction =>
        Sql.concat [s.ladderCell column fraction, " as ",
          percentileAlias fraction])]).ShowsApart 0 0
          (ladderTokens cell) :=
      (Sql.ShowsApart.next rfl rfl rfl (hitems.slot .nil)).of_eq (by rw [List.append_nil]; rfl)
    cases column <;> exact hladder

/-- Tokens that neither divide nor end a list of columns. -/
def IsItem (ts : List Token) : Prop :=
  .mark ',' ∉ ts ∧ .keyword "FROM" ∉ ts ∧ .keyword "UNION" ∉ ts

instance (ts : List Token) : Decidable (IsItem ts) :=
  inferInstanceAs (Decidable (_ ∧ _))

theorem IsItem.append {ts us : List Token} (hts : IsItem ts) (hus : IsItem us) :
    IsItem (ts ++ us) := by
  obtain ⟨hcomma, hfrom, hunion⟩ := hts
  obtain ⟨hcomma', hfrom', hunion'⟩ := hus
  exact ⟨by simp [hcomma, hcomma'], by simp [hfrom, hfrom'], by simp [hunion, hunion']⟩

theorem isItem_percentile (hcell : IsItem cell) (fraction : Double) :
    IsItem (cell ++ [.keyword "as", .word (percentileAlias fraction).toList]) := by
  have hname : (percentileAlias fraction).toList = 'p' :: (toString (percent fraction)).toList := by
    simp [percentileAlias]
  refine hcell.append ?_
  rw [hname]
  simp [IsItem, Token.keyword, Token.mark]

theorem addsColumns_ladder (hcell : IsItem cell) :
    Statement.AddsColumns ladderColumns (ladderTokens cell) := by
  have hnames : (percentileLadder.map fun fraction =>
      cell ++ [.keyword "as", .word (percentileAlias fraction).toList]).map Statement.columnName =
        ladderColumns := by
    rw [List.map_map]
    refine List.map_congr_left fun fraction _ => ?_
    simp [Statement.columnName]
  rw [← hnames]
  refine Statement.AddsColumns.of_items (by simp [percentileLadder]) ?_
  exact List.forall_mem_map.mpr fun fraction _ => isItem_percentile hcell fraction

/-- The columns of the percentile ladder, where a query has it. -/
def ladderNames (p : MetricValueParams) : List String :=
  if p.includePercentiles ∧ p.metric.type ≠ .binomial then ladderColumns else []

/-- What a query shows of the percentile ladder adds the ladder's columns. -/
theorem exists_ladder (s : Source) (p : MetricValueParams) (column : Option Sql)
    (hcell : IsItem cell)
    (h : ∀ fraction, (s.ladderCell column fraction).Shows 0 0 cell) :
    ∃ ts, (if p.includePercentiles then s.percentileColumns p.metric column
        else .empty).ShowsApart 0 0 ts ∧ Statement.AddsColumns (ladderNames p) ts := by
  have hladder := s.percentileColumns_shows p.metric h
  unfold ladderNames
  by_cases hpercentiles : p.includePercentiles = true
  · simp only [hpercentiles, if_true, true_and]
    by_cases htype : p.metric.type = .binomial
    · exact ⟨[], by simpa [htype] using hladder, by simpa [htype] using .nil⟩
    · exact ⟨ladderTokens cell, by simpa [htype] using hladder,
        by simpa [htype] using addsColumns_ladder hcell⟩
  · exact ⟨[], by simpa [hpercentiles] using .empty, by simpa [hpercentiles] using .nil⟩

/-- A SELECT of written items and of further columns. -/
structure IsArm (columns : List String) (arm : List Token) : Prop where
  alone : .keyword "UNION" ∉ arm
  columns : Statement.columns arm = columns

theorem isArm_select {items more rest : List Token} {columns names : List String}
    (hmore : Statement.AddsColumns names more)
    (hitems : .keyword "FROM" ∉ items ∧ .keyword "UNION" ∉ items ∧
      (items.splitOn (.mark ',')).map Statement.columnName = columns)
    (hrest : .keyword "UNION" ∉ rest) :
    IsArm (columns ++ names)
      (.keyword "SELECT" :: (items ++ (more ++ .keyword "FROM" :: rest))) := by
  obtain ⟨hfrom, hunion, hcolumns⟩ := hitems
  refine ⟨?_, ?_⟩
  · have hkeywords : Token.keyword "UNION" ≠ .keyword "SELECT" ∧
        Token.keyword "UNION" ≠ .keyword "FROM" := by decide
    simp [hkeywords, hunion, hmore.alone, hrest]
  · rw [hmore.columns_select hfrom, hcolumns]

/-- What the moments of a metric show outside parentheses. -/
def momentTokens : List Token :=
  (Sql.code "COUNT() as count, AVG() as mean, STDDEV() as stddev").tokens

theorem momentColumns_shows : (Sql.code momentColumns).Shows 0 0 momentTokens :=
  (Sql.Shows.code rfl).of_eq (by decide +kernel)

theorem metricValueQuery_columns {p : MetricValueParams} {q : Query}
    (hq : s.metricValueQuery p = .ok q) :
    q.HasColumns (arms p.includeByDate (["count", "mean", "stddev"] ++ ladderNames p)) := by
  obtain ⟨visitors, -, hq⟩ := Except.bind_eq_ok.mp hq
  obtain ⟨metric, -, hq⟩ := Except.bind_eq_ok.mp hq
  obtain rfl := Except.ok.inj hq
  have hframe : IsItem (Sql.code s.dialect.percentileFrame).tokens := by
    unfold Dialect.percentileFrame
    cases s.dialect.flavor <;> decide +kernel
  obtain ⟨values, hvalues, haddsValues⟩ := s.exists_ladder p (some "value") hframe fun fraction =>
    s.dialect.percentile_shows (.written rfl : (Sql.code "value").Balanced) fraction
  obtain ⟨zeros, hzeros, haddsZeros⟩ := s.exists_ladder p none (by decide) fun _ =>
    Sql.shows_word (by decide : IsWord "0".toList)
  have hmoments : Token.keyword "FROM" ∉ momentTokens ∧ .keyword "UNION" ∉ momentTokens ∧
      (momentTokens.splitOn (.mark ',')).map Statement.columnName =
        ["count", "mean", "stddev"] := by
    decide +kernel
  unfold UsersQueryParams.dateColumn arms
  cases p.includeByDate
  case false =>
    let arm := .keyword "SELECT" :: (momentTokens ++ (values ++
      .keyword "FROM" :: [.word "__userMetric".toList]))
    have harm : IsArm (["count", "mean", "stddev"] ++ ladderNames p) arm :=
      isArm_select haddsValues hmoments (by decide)
    refine .of_shows (?_ : Sql.Shows 0 0 arm _) rfl ?_
    · refine .tells [.keyword "SELECT"] rfl rfl (by decide +kernel) (.slot .nil ?_)
      refine .tells [] rfl rfl rfl (by decide +kernel)
        (.slot momentColumns_shows (.slot hvalues ?_))
      exact .tells [.keyword "FROM", .word "__userMetric".toList] rfl rfl rfl (by decide +kernel)
        (.slot .nil (.tells [] rfl rfl rfl (by decide +kernel) .nil))
    · rw [List.splitOn_eq_singleton harm.alone, List.map_singleton, harm.columns]
      rfl
  case true =>
    let total := .keyword "SELECT" :: (.keyword "NULL" :: .keyword "as" :: .word "date".toList ::
      .mark ',' :: momentTokens ++ (values ++ .keyword "FROM" :: [.word "__userMetric".toList]))
    let grouped : List Token := [.word "__userMetricDates".toList, .keyword "GROUP", .keyword "BY",
      .word "date".toList, .keyword "ORDER", .keyword "BY", .word "date".toList, .keyword "ASC"]
    let daily := .keyword "SELECT" :: (.word "date".toList :: .mark ',' :: momentTokens ++
      (zeros ++ .keyword "FROM" :: grouped))
    have htotal : IsArm (["date", "count", "mean", "stddev"] ++ ladderNames p) total :=
      isArm_select haddsValues (by decide +kernel) (by decide)
    have hdaily : IsArm (["date", "count", "mean", "stddev"] ++ ladderNames p) daily :=
      isArm_select haddsZeros (by decide +kernel) (by decide)
    have hdays : Statement.columns (.keyword "ALL" :: daily) = _ :=
      (Statement.columns_cons (by decide) daily).trans hdaily.columns
    refine .of_shows (?_ : Sql.Shows 0 0 (total ++ .keyword "UNION" :: .keyword "ALL" :: daily) _)
      rfl ?_
    · have hdate : (Sql.code "NULL as date,").Shows 0 0
          [.keyword "NULL", .keyword "as", .word "date".toList, .mark ','] :=
        (Sql.Shows.code rfl).of_eq (by decide +kernel)
      have hdaily : (Sql.concat ["\n    UNION ALL\n    SELECT\n      date,\n      ", momentColumns,
          if p.includePercentiles then s.percentileColumns p.metric none else .empty,
          "\n    FROM\n      __userMetricDates\n    GROUP BY\n      date\n    ORDER BY\n",
          "      date ASC\n    "]).Shows 0 0 (.keyword "UNION" :: .keyword "ALL" :: daily) := by
        refine .tells [.keyword "UNION", .keyword "ALL", .keyword "SELECT", .word "date".toList,
          .mark ','] rfl rfl (by decide +kernel) (.slot momentColumns_shows (.slot hzeros ?_))
        exact .tells (.keyword "FROM" :: grouped.take 6) rfl rfl rfl (by decide +kernel)
          (.tells (grouped.drop 6) rfl rfl (by decide +kernel) .nil)
      refine Sql.Shows.of_eq (.tells [.keyword "SELECT"] rfl rfl (by decide +kernel) (.slot hdate
        (.tells [] rfl rfl rfl (by decide +kernel) (.slot momentColumns_shows (.slot hvalues
          (.tells [.keyword "FROM", .word "__userMetric".toList] rfl rfl rfl (by decide +kernel)
            (.slot hdaily (.tells [] rfl rfl rfl (by decide +kernel) .nil)))))))) ?_
      simp [total, daily]
    · have hall : .keyword "UNION" ∉ .keyword "ALL" :: daily :=
        List.not_mem_cons_of_ne_of_not_mem (by decide) hdaily.alone
      rw [List.splitOn_append_cons_self_of_not_mem htotal.alone, List.splitOn_eq_singleton hall,
        List.map_cons, List.map_singleton, htotal.columns, hdays]
      rfl

theorem composedUsersQuery_columns {a : Analysis} {q : Query}
    (hq : s.composedUsersQuery a = .ok q) :
    q.HasColumns [["variation", "dimension", "users"]] := by
  obtain ⟨views, -, hq⟩ := Except.bind_eq_ok.mp hq
  obtain ⟨population, -, hq⟩ := Except.bind_eq_ok.mp hq
  obtain rfl := Except.ok.inj hq
  refine .of_body rfl ?_ ?_ <;> dsimp only <;> decide +kernel

theorem composedMetricQuery_columns {a : Analysis} {m : MetricDefinition} {q : Query}
    (hq : s.composedMetricQuery a m = .ok q) :
    q.HasColumns [["variation", "dimension", "count", "mean", "stddev"]] := by
  obtain ⟨views, -, hq⟩ := Except.bind_eq_ok.mp hq
  obtain ⟨population, -, hq⟩ := Except.bind_eq_ok.mp hq
  obtain ⟨metric, -, hq⟩ := Except.bind_eq_ok.mp hq
  obtain rfl := Except.ok.inj hq
  refine .of_body rfl ?_ ?_ <;> dsimp only <;> decide +kernel

open Discovery in
/-- The query for past experiments is one SELECT, of a star, which has no name. -/
theorem pastExperimentsQuery_columns {dateFrom : DateTime} {q : Query}
    (hq : s.pastExperimentsQuery dateFrom = .ok q) : q.HasColumns [[""]] := by
  obtain ⟨horizon, hhorizon, hq⟩ := Except.bind_eq_ok.mp hq
  obtain rfl := Except.ok.inj hq
  have hend : (Sql.code "end_date").Balanced := .written rfl
  have hstart : (Sql.code "start_date").Balanced := .written rfl
  have hdays := s.dialect.dateDiff_shows hend hstart
  have hage := s.dialect.dateDiff_shows hstart (s.dialect.balanced_of_formatTimestamp hhorizon)
  unfold Dialect.daysFrame at hdays hage
  have hcomment (text : String) : (Sql.comment text).Shows 0 0 [] := ⟨rfl, rfl⟩
  have husers := Sql.shows_word (by decide : IsWord minTotalUsers.toList)
  have hduration := Sql.shows_word (by decide : IsWord minDays.toList)
  have hbuffer := Sql.shows_word (by decide : IsWord horizonDays.toList)
  refine .of_shows (.opens rfl rfl (.slot (hcomment _) (.next rfl rfl rfl (.slot husers
    (.next rfl rfl rfl (.slot (hcomment _) (.next rfl rfl rfl (.slot hdays (.next rfl rfl rfl
      (.slot hduration (.next rfl rfl rfl (.slot (hcomment _) (.next rfl rfl rfl (.slot hage
        (.next rfl rfl rfl (.slot hbuffer (.next rfl rfl rfl .nil))))))))))))))))) rfl ?_
  cases s.dialect.flavor <;> decide +kernel

end Source

end SplitTest
