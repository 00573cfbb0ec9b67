import Mathlib.Data.Option.Basic
import SplitTest.Proofs.Assignments
import SplitTest.Proofs.Except
import SplitTest.Proofs.Results.TextRows
import SplitTest.Proofs.Text.Digits
import SplitTest.Results.Rows

/-! Results from rows with and without dates.  The rows with a date make up the series and nothing
else, each by itself; of the others the last one counts, but their percentiles are gathered from all
of them.  So a result depends on the two kinds of rows and not on how they are mixed. -/

namespace SplitTest

namespace Row

/-- The row stands for a day. -/
def isDated (row : Row) : Bool := !(row.get "date").isEmpty

end Row

/-- The rows that stand for days. -/
def dated (rows : List Row) : List Row := rows.filter Row.isDated

/-- The rows that stand for the whole time. -/
def undated (rows : List Row) : List Row := rows.filter fun row => !row.isDated

/-! ### Series -/

/-- An entry for each row, and no series without a row. -/
def IsSeries {α : Type} (entry : Row → α) (rows : List Row) (series : Option (List α)) : Prop :=
  (series = none ↔ rows = []) ∧ ∀ items ∈ series, items = rows.map entry

theorem foldl_addToSeries {α : Type} (items added : List α) :
    added.foldl addToSeries (some items) = some (items ++ added) := by
  induction added generalizing items with
  | nil => simp
  | cons item rest ih =>
    rw [List.foldl_cons, addToSeries, Option.getD_some, ih]
    simp

theorem isSeries_foldl {α : Type} (entry : Row → α) (rows : List Row) :
    IsSeries entry rows ((rows.map entry).foldl addToSeries none) := by
  cases rows with
  | nil => exact ⟨iff_of_true rfl rfl, nofun⟩
  | cons row rest =>
    rw [List.map_cons, List.foldl_cons, addToSeries, foldl_addToSeries]
    exact ⟨iff_of_false nofun nofun, fun items h => (Option.some.inj h).symm⟩

/-- What the last row gives, or else what was given before. -/
def lastOr {α : Type} (before : α) (f : Row → α) (rows : List Row) : α :=
  (rows.getLast?.map f).getD before

theorem lastOr_cons {α : Type} (before : α) (f : Row → α) (row : Row) (rows : List Row) :
    lastOr before f (row :: rows) = lastOr (f row) f rows := by
  cases rows with
  | nil => rfl
  | cons next rest => simp [lastOr, List.getLast?_cons]

/-! ### Users -/

namespace UsersResult

/-- The entry for a day. -/
def day (row : Row) : UsersDate := ⟨(row.get "date").display, row.wholeIn "users"⟩

theorem addRow_of_dated {row : Row} (h : row.isText = true) (hdated : row.isDated = true)
    (r : UsersResult) : r.addRow row = .ok { r with dates := addToSeries r.dates (day row) } := by
  have hdate : (row.get "date").isEmpty = false := by simpa [Row.isDated] using hdated
  simp only [addRow, Row.toInt_get h, hdate]
  rfl

theorem addRow_of_undated {row : Row} (h : row.isText = true) (hdated : row.isDated = false)
    (r : UsersResult) : r.addRow row = .ok { r with users := row.wholeIn "users" } := by
  have hdate : (row.get "date").isEmpty = true := by simpa [Row.isDated] using hdated
  simp only [addRow, Row.toInt_get h, hdate]
  rfl

/-- The result is read off the rows. -/
structure Sums (rows : List Row) (r : UsersResult) : Prop where
  users : r.users = lastOr 0 (·.wholeIn "users") (undated rows)
  dates : IsSeries day (dated rows) r.dates

theorem foldlM_addRow {rows : List Row} (h : ∀ row ∈ rows, row.isText = true) (r : UsersResult) :
    rows.foldlM addRow r = .ok
      { users := lastOr r.users (·.wholeIn "users") (undated rows)
        dates := ((dated rows).map day).foldl addToSeries r.dates } := by
  induction rows generalizing r with
  | nil => rfl
  | cons row rest ih =>
    obtain ⟨hrow, hrest⟩ := List.forall_mem_cons.mp h
    rw [List.foldlM_cons]
    cases hdated : row.isDated with
    | true =>
      rw [addRow_of_dated hrow hdated]
      refine (ih hrest _).trans ?_
      simp [dated, undated, hdated]
    | false =>
      rw [addRow_of_undated hrow hdated]
      refine (ih hrest _).trans ?_
      simp [dated, undated, hdated, lastOr_cons]

theorem exists_sums {rows : List Row} (h : ∀ row ∈ rows, row.isText = true) :
    ∃ r, ofRows rows = .ok r ∧ r.Sums rows :=
  ⟨_, foldlM_addRow h none, rfl, isSeries_foldl day (dated rows)⟩

end UsersResult

/-! ### Percentiles -/

/-- The name of a percentile column: a `p`, the digits of a number in any script, and possibly a
line break at the end. -/
structure IsPercentile (name : String) (marks : List Char) : Prop where
  ne_nil : marks ≠ []
  isDigit : ∀ c ∈ marks, Text.isDigit c = true
  spells : name.toList = 'p' :: marks ∨ name.toList = 'p' :: (marks ++ ['\n'])

/-- The column is one for the percentile with this number. -/
def HasPercentile (n : Nat) (column : String × Value) : Prop :=
  ∃ marks, IsPercentile column.1 marks ∧ Text.numberOf marks = n

namespace Percentiles

open MetricValueResult (percentileDigits? percentileNumber addColumn)

theorem percentileDigits?_eq_some {name : String} {digits : List Nat} :
    percentileDigits? name = some digits ↔
      ∃ marks, IsPercentile name marks ∧ marks.map Text.digitOf = digits := by
  unfold percentileDigits?
  constructor
  · intro h
    split at h
    · rename_i rest hname
      simp only [beq_iff_eq, Option.ite_none_left_eq_some] at h
      obtain ⟨hne, h⟩ := h
      obtain ⟨hdigit, rfl⟩ := Text.mapM_digit?_eq_some.mp h
      refine ⟨_, ⟨by simpa using hne, hdigit, ?_⟩, rfl⟩
      split
      · rename_i hbreak
        exact .inr (by rw [hname, List.dropLast_append_getLast? _ hbreak])
      · exact .inl hname
    · cases h
  · rintro ⟨marks, ⟨hne, hdigit, hspells⟩, rfl⟩
    have hmap := Text.mapM_digit?_eq_some.mpr ⟨hdigit, rfl⟩
    have hbreak : marks.getLast? ≠ some '\n' := by
      intro hlast
      have hdigit := hdigit _ (List.mem_of_getLast? hlast)
      revert hdigit
      decide
    rcases hspells with hname | hname <;> simp [hname, hne, hmap, hbreak]

/-- What one column does to the percentiles. -/
theorem addColumn_cases {column : String × Value} (h : column.2.isTextCell = true)
    (percentiles : Option (List (Nat × Double))) :
    (∀ n, ¬HasPercentile n column) ∧ addColumn percentiles column = .ok percentiles ∨
      ∃ marks x, IsPercentile column.1 marks ∧ Cell.toDouble column.2 = .ok x ∧
        addColumn percentiles column =
          if marks.length ≤ digitLimit then
            .ok (some (assign (Text.numberOf marks) x (percentiles.getD [])))
          else .error (.tooManyDigits marks.length) := by
  obtain ⟨x, hx⟩ := Cell.toDouble_of_isTextCell h
  cases hdigits : percentileDigits? column.1 with
  | none =>
    refine .inl ⟨fun n => ?_, by rw [addColumn, hdigits]⟩
    rintro ⟨marks, hmarks, -⟩
    cases hdigits.symm.trans (percentileDigits?_eq_some.mpr ⟨marks, hmarks, rfl⟩)
  | some digits =>
    obtain ⟨marks, hmarks, rfl⟩ := percentileDigits?_eq_some.mp hdigits
    refine .inr ⟨marks, x, hmarks, hx, ?_⟩
    simp only [addColumn, hdigits, hx, percentileNumber, List.length_map, Text.numberOf]
    split <;> rfl

theorem map_digitOf_eq {name : String} {marks marks' : List Char} (h : IsPercentile name marks)
    (h' : IsPercentile name marks') : marks.map Text.digitOf = marks'.map Text.digitOf := by
  have hdigits := percentileDigits?_eq_some.mpr ⟨marks, h, rfl⟩
  have hdigits' := percentileDigits?_eq_some.mpr ⟨marks', h', rfl⟩
  exact Option.some.inj (hdigits.symm.trans hdigits')

theorem length_eq {name : String} {marks marks' : List Char} (h : IsPercentile name marks)
    (h' : IsPercentile name marks') : marks.length = marks'.length := by
  simpa using congrArg List.length (map_digitOf_eq h h')

theorem hasPercentile_iff {column : String × Value} {marks : List Char}
    (h : IsPercentile column.1 marks) {n : Nat} :
    HasPercentile n column ↔ n = Text.numberOf marks := by
  constructor
  · rintro ⟨marks', hmarks', rfl⟩
    rw [Text.numberOf, map_digitOf_eq hmarks' h, Text.numberOf]
  · rintro rfl
    exact ⟨marks, h, rfl⟩

/-! ### Percentiles by their numbers -/

/-- `x` is the number in the last of the columns for the percentile `n`. -/
def IsLastOf (columns : List (String × Value)) (n : Nat) (x : Double) : Prop :=
  ∃ before column after, columns = before ++ column :: after ∧ HasPercentile n column ∧
    Cell.toDouble column.2 = .ok x ∧ ∀ later ∈ after, ¬HasPercentile n later

theorem isLastOf_concat {columns : List (String × Value)} {column : String × Value} {n : Nat}
    {x : Double} :
    IsLastOf (columns ++ [column]) n x ↔
      HasPercentile n column ∧ Cell.toDouble column.2 = .ok x ∨
        ¬HasPercentile n column ∧ IsLastOf columns n x := by
  constructor
  · rintro ⟨before, c, after, heq, hc, hx, hafter⟩
    rcases after.eq_nil_or_concat with rfl | ⟨after, last, rfl⟩
    · obtain ⟨rfl, hlast⟩ := List.append_inj' heq rfl
      obtain rfl := List.singleton_inj.mp hlast
      exact .inl ⟨hc, hx⟩
    · rw [List.concat_eq_append] at heq hafter
      rw [← List.cons_append, ← List.append_assoc] at heq
      obtain ⟨rfl, hlast⟩ := List.append_inj' heq rfl
      obtain rfl := List.singleton_inj.mp hlast
      obtain ⟨hafter, hnot⟩ := List.forall_mem_append.mp hafter
      exact .inr ⟨hnot _ (List.mem_singleton_self _), before, c, after, rfl, hc, hx, hafter⟩
  · rintro (⟨hc, hx⟩ | ⟨hnot, before, c, after, rfl, hc, hx, hafter⟩)
    · exact ⟨columns, column, [], rfl, hc, hx, List.forall_mem_nil _⟩
    · refine ⟨before, c, after ++ [column], by simp, hc, hx, ?_⟩
      exact List.forall_mem_append.mpr ⟨hafter, List.forall_mem_singleton.mpr hnot⟩

/-- The percentiles are those of the columns: each number of a column is there once, with what is
read from the last of its columns. -/
structure Gathered (columns : List (String × Value)) (percentiles : Option (List (Nat × Double))) :
    Prop where
  eq_none_iff : percentiles = none ↔ ∀ column ∈ columns, ∀ n, ¬HasPercentile n column
  nodup : ((percentiles.getD []).map Prod.fst).Nodup
  mem_keys_iff : ∀ n, n ∈ (percentiles.getD []).map Prod.fst ↔
    ∃ column ∈ columns, HasPercentile n column
  mem_iff : ∀ n x, (n, x) ∈ percentiles.getD [] ↔ IsLastOf columns n x

variable {columns : List (String × Value)} {percentiles : Option (List (Nat × Double))}
  {column : String × Value}

namespace Gathered

theorem nil : Gathered [] none where
  eq_none_iff := iff_of_true rfl (List.forall_mem_nil _)
  nodup := List.nodup_nil
  mem_keys_iff n := by simp
  mem_iff n x := by simp [IsLastOf]

theorem skip (h : Gathered columns percentiles) (hnot : ∀ n, ¬HasPercentile n column) :
    Gathered (columns ++ [column]) percentiles where
  eq_none_iff := by
    rw [h.eq_none_iff, List.forall_mem_append, List.forall_mem_singleton]
    exact (and_iff_left hnot).symm
  nodup := h.nodup
  mem_keys_iff n := by simp [h.mem_keys_iff, hnot n, or_and_right, exists_or]
  mem_iff n x := by simp [h.mem_iff, isLastOf_concat, hnot n]

theorem set (h : Gathered columns percentiles) {marks : List Char} {x : Double}
    (hmarks : IsPercentile column.1 marks) (hx : Cell.toDouble column.2 = .ok x) :
    Gathered (columns ++ [column])
      (some (assign (Text.numberOf marks) x (percentiles.getD []))) where
  eq_none_iff := by
    refine iff_of_false (Option.some_ne_none _) fun hnone => ?_
    exact hnone column (by simp) _ ⟨marks, hmarks, rfl⟩
  nodup := nodup_assign _ _ h.nodup
  mem_keys_iff n := by
    rw [Option.getD_some, mem_keys_assign, h.mem_keys_iff, ← hasPercentile_iff hmarks]
    simp [or_and_right, exists_or, or_comm]
  mem_iff n y := by
    rw [Option.getD_some, mem_assign _ _ h.nodup, h.mem_iff, isLastOf_concat,
      hasPercentile_iff hmarks, hx]
    simp [eq_comm]

end Gathered

theorem exists_addColumn_iff (h : column.2.isTextCell = true) :
    (∃ next, addColumn percentiles column = .ok next) ↔
      ∀ marks, IsPercentile column.1 marks → marks.length ≤ digitLimit := by
  rcases addColumn_cases h percentiles with ⟨hnot, hstep⟩ | ⟨marks, x, hmarks, -, hstep⟩
  · exact iff_of_true ⟨_, hstep⟩ fun marks hmarks => absurd ⟨marks, hmarks, rfl⟩ (hnot _)
  · rw [hstep]
    have hall : (∀ marks', IsPercentile column.1 marks' → marks'.length ≤ digitLimit) ↔
        marks.length ≤ digitLimit :=
      ⟨fun hall => hall marks hmarks, fun hle marks' hmarks' => length_eq hmarks hmarks' ▸ hle⟩
    rw [hall]
    split <;> simp [*]

/-- All columns are gathered unless the number of one has too many digits. -/
theorem exists_foldlM_addColumn_iff (h : ∀ column ∈ columns, column.2.isTextCell = true) :
    (∃ percentiles, columns.foldlM addColumn none = .ok percentiles) ↔
      ∀ column ∈ columns, ∀ marks, IsPercentile column.1 marks → marks.length ≤ digitLimit := by
  induction columns using List.reverseRecOn with
  | nil => exact iff_of_true ⟨_, rfl⟩ (List.forall_mem_nil _)
  | append_singleton columns column ih =>
    obtain ⟨hcolumns, hcolumn⟩ := List.forall_mem_append.mp h
    have hstep (before : Option (List (Nat × Double))) :
        (∃ next, addColumn before column = .ok next) ↔ _ :=
      exists_addColumn_iff (hcolumn column (List.mem_singleton_self _))
    rw [List.forall_mem_append, List.forall_mem_singleton, ← ih hcolumns]
    simp only [List.foldlM_append, List.foldlM_cons, List.foldlM_nil, bind_pure,
      Except.bind_eq_ok]
    rw [exists_comm]
    simp only [exists_and_left, hstep, exists_and_right]

theorem gathered_of_foldlM (h : ∀ column ∈ columns, column.2.isTextCell = true)
    (hfold : columns.foldlM addColumn none = .ok percentiles) : Gathered columns percentiles := by
  induction columns using List.reverseRecOn generalizing percentiles with
  | nil => exact Except.ok.inj hfold ▸ .nil
  | append_singleton columns column ih =>
    obtain ⟨hcolumns, hcolumn⟩ := List.forall_mem_append.mp h
    rw [List.foldlM_append, Except.bind_eq_ok] at hfold
    obtain ⟨before, hbefore, hlast⟩ := hfold
    simp only [List.foldlM_cons, List.foldlM_nil, bind_pure] at hlast
    have hgathered := ih hcolumns hbefore
    rcases addColumn_cases (hcolumn column (List.mem_singleton_self _)) before with
      ⟨hnot, hstep⟩ | ⟨marks, x, hmarks, hx, hstep⟩
    · obtain rfl := Except.ok.inj (hstep.symm.trans hlast)
      exact hgathered.skip hnot
    · rw [hstep] at hlast
      split at hlast
      · obtain rfl := Except.ok.inj hlast
        exact hgathered.set hmarks hx
      · cases hlast

end Percentiles

/-! ### Metrics -/

namespace MetricValueResult

/-- The entry for a day. -/
def day (row : Row) : MetricValueDate :=
  ⟨(row.get "date").display, row.wholeIn "count", row.numberIn "mean", row.numberIn "stddev"⟩

theorem addRow_of_dated {row : Row} (h : row.isText = true) (hdated : row.isDated = true)
    (r : MetricValueResult) :
    r.addRow row = .ok { r with dates := addToSeries r.dates (day row) } := by
  have hdate : (row.get "date").isEmpty = false := by simpa [Row.isDated] using hdated
  simp only [addRow, Row.toInt_get h, Row.toDouble_get h, hdate]
  rfl

theorem addRow_of_undated {row : Row} (h : row.isText = true) (hdated : row.isDated = false)
    (r : MetricValueResult) :
    r.addRow row = (row.foldlM addColumn r.percentiles).map fun percentiles =>
      { r with count := row.wholeIn "count", mean := row.numberIn "mean"
               stddev := row.numberIn "stddev", percentiles } := by
  have hdate : (row.get "date").isEmpty = true := by simpa [Row.isDated] using hdated
  simp only [addRow, Row.toInt_get h, Row.toDouble_get h, hdate]
  cases row.foldlM addColumn r.percentiles <;> rfl

theorem foldlM_addRow {rows : List Row} (h : ∀ row ∈ rows, row.isText = true)
    (r : MetricValueResult) :
    rows.foldlM addRow r =
      ((undated rows).flatten.foldlM addColumn r.percentiles).map fun percentiles =>
        { count := lastOr r.count (·.wholeIn "count") (undated rows)
          mean := lastOr r.mean (·.numberIn "mean") (undated rows)
          stddev := lastOr r.stddev (·.numberIn "stddev") (undated rows)
          percentiles
          dates := ((dated rows).map day).foldl addToSeries r.dates } := by
  induction rows generalizing r with
  | nil => rfl
  | cons row rest ih =>
    obtain ⟨hrow, hrest⟩ := List.forall_mem_cons.mp h
    rw [List.foldlM_cons]
    cases hdated : row.isDated with
    | true =>
      rw [addRow_of_dated hrow hdated]
      refine (ih hrest _).trans ?_
      simp [dated, undated, hdated]
    | false =>
      have hundated : undated (row :: rest) = row :: undated rest := by simp [undated, hdated]
      have hdates : dated (row :: rest) = dated rest := by simp [dated, hdated]
      rw [addRow_of_undated hrow hdated, hundated, hdates, List.flatten_cons, List.foldlM_append]
      cases row.foldlM addColumn r.percentiles with
      | error f => rfl
      | ok percentiles =>
        refine (ih hrest _).trans ?_
        simp only [lastOr_cons]
        rfl

/-- The result is read off the rows. -/
structure Sums (rows : List Row) (r : MetricValueResult) : Prop where
  count : r.count = lastOr 0 (·.wholeIn "count") (undated rows)
  mean : r.mean = lastOr Double.zero (·.numberIn "mean") (undated rows)
  stddev : r.stddev = lastOr Double.zero (·.numberIn "stddev") (undated rows)
  percentiles : Percentiles.Gathered (undated rows).flatten r.percentiles
  dates : IsSeries day (dated rows) r.dates

theorem isTextCell_of_undated {rows : List Row} (h : ∀ row ∈ rows, row.isText = true) :
    ∀ column ∈ (undated rows).flatten, column.2.isTextCell = true := by
  intro column hcolumn
  obtain ⟨row, hrow, hcolumn⟩ := List.mem_flatten.mp hcolumn
  exact List.all_eq_true.mp (h row (List.mem_of_mem_filter hrow)) column hcolumn

theorem sums_of_ofRows {rows : List Row} (h : ∀ row ∈ rows, row.isText = true)
    {r : MetricValueResult} (hr : ofRows rows = .ok r) : r.Sums rows := by
  rw [ofRows, foldlM_addRow h] at hr
  obtain ⟨percentiles, hfold, rfl⟩ := Except.map_eq_ok.mp hr
  exact ⟨rfl, rfl, rfl, Percentiles.gathered_of_foldlM (isTextCell_of_undated h) hfold,
    isSeries_foldl day (dated rows)⟩

theorem exists_ofRows_iff {rows : List Row} (h : ∀ row ∈ rows, row.isText = true) :
    (∃ r, ofRows rows = .ok r) ↔ ∀ row ∈ undated rows, ∀ column ∈ row, ∀ marks,
      IsPercentile column.1 marks → marks.length ≤ digitLimit := by
  have hfold := Percentiles.exists_foldlM_addColumn_iff (isTextCell_of_undated h)
  simp only [List.mem_flatten, forall_exists_index, and_imp] at hfold
  have hsums : (∃ r, ofRows rows = .ok r) ↔
      ∃ percentiles, (undated rows).flatten.foldlM addColumn Option.none = .ok percentiles := by
    rw [ofRows, foldlM_addRow h]
    simp only [Except.map_eq_ok]
    exact ⟨fun ⟨_, percentiles, hok, _⟩ => ⟨percentiles, hok⟩,
      fun ⟨percentiles, hok⟩ => ⟨_, percentiles, hok, rfl⟩⟩
  rw [hsums, hfold]
  exact ⟨fun hall row hrow column hcolumn => hall column row hrow hcolumn,
    fun hall column row hrow hcolumn => hall row hrow column hcolumn⟩

end MetricValueResult

theorem isText_of_filter_eq {rows rows' : List Row} (h : ∀ row ∈ rows, row.isText = true)
    (hdated : dated rows' = dated rows) (hundated : undated rows' = undated rows) :
    ∀ row ∈ rows', row.isText = true := by
  intro row hrow
  cases hrole : row.isDated with
  | true =>
    have hmem : row ∈ dated rows' := List.mem_filter.mpr ⟨hrow, hrole⟩
    exact h row (List.mem_of_mem_filter (hdated ▸ hmem))
  | false =>
    have hmem : row ∈ undated rows' := List.mem_filter.mpr ⟨hrow, by simp [hrole]⟩
    exact h row (List.mem_of_mem_filter (hundated ▸ hmem))

/-- Rows of texts have a users result, and a metric result unless a percentile column of a row
without a date has too many digits.  Both are read off the rows with a date and the others apart, so
rows that are mixed in another way have the same results. -/
theorem results_of_mixed_rows {rows : List Row} (h : ∀ row ∈ rows, row.isText = true) :
    (∃ users, UsersResult.ofRows rows = .ok users ∧ users.Sums rows) ∧
      ((∃ r, MetricValueResult.ofRows rows = .ok r) ↔ ∀ row ∈ undated rows, ∀ column ∈ row,
        ∀ marks, IsPercentile column.1 marks → marks.length ≤ digitLimit) ∧
      (∀ r, MetricValueResult.ofRows rows = .ok r → r.Sums rows) ∧
      ∀ rows', dated rows' = dated rows → undated rows' = undated rows →
        UsersResult.ofRows rows' = UsersResult.ofRows rows ∧
          MetricValueResult.ofRows rows' = MetricValueResult.ofRows rows := by
  refine ⟨UsersResult.exists_sums h, MetricValueResult.exists_ofRows_iff h,
    fun r hr => MetricValueResult.sums_of_ofRows h hr, fun rows' hdated hundated => ?_⟩
  have h' := isText_of_filter_eq h hdated hundated
  constructor
  · rw [UsersResult.ofRows, UsersResult.ofRows, UsersResult.foldlM_addRow h,
      UsersResult.foldlM_addRow h', hdated, hundated]
  · rw [MetricValueResult.ofRows, MetricValueResult.ofRows, MetricValueResult.foldlM_addRow h,
      MetricValueResult.foldlM_addRow h', hdated, hundated]

/-- Two totals around a day: the later one counts, and of its percentiles and those of the day only
the former. -/
theorem results_of_mixed_rows_turned :
    let first : Row := [("date", .null), ("count", .text "3"), ("p50", .text "1.5")]
    let day : Row := [("date", .text "2021-02-01"), ("count", .text "2"), ("p50", .text "9")]
    let last : Row := [("date", .text ""), ("count", .text "4"), ("p050", .text "2.5")]
    MetricValueResult.ofRows [first, last, day] = MetricValueResult.ofRows [first, day, last] ∧
      ∃ r, MetricValueResult.ofRows [first, day, last] = .ok r ∧ r.count = 4 ∧
        (r.percentiles.getD []).map Prod.fst = [50] ∧ r.Sums [first, day, last] := by
  intro first day last
  have htext : ∀ row ∈ [first, day, last], row.isText = true := by decide
  obtain ⟨-, -, hsums, hmixed⟩ := results_of_mixed_rows htext
  obtain ⟨r, hr⟩ :=
    Except.exists_eq_ok (x := MetricValueResult.ofRows [first, day, last]) (by decide +kernel)
  have hread : (MetricValueResult.ofRows [first, day, last]).toOption.map
      (fun r => (r.count, (r.percentiles.getD []).map Prod.fst)) = some (4, [50]) := by
    decide +kernel
  rw [hr] at hread
  obtain ⟨hcount, hkeys⟩ := Prod.mk.inj (Option.some.inj hread)
  exact ⟨(hmixed [first, last, day] rfl rfl).2, r, hr, hcount, hkeys, hsums r hr⟩

end SplitTest
