import Mathlib.Algebra.BigOperators.Group.List.Basic
import Mathlib.Algebra.Ring.Int.Defs
import SplitTest.Proofs.Results.Meeting
import SplitTest.Proofs.Results.Merged

/-! Counting merged results.  The users of all cells are those of the rows that no later row of the
same cell replaces, and a cell has as many records of a metric as that metric has rows in it.  So
nothing is lost or counted twice where no two rows of a list meet in one cell.  Rows that differ in
variation or dimension may meet all the same: a null and an empty dimension have the same key, and
two texts may be the same number. -/

namespace SplitTest.Merge

def usersSum (cells : List VariationResult) : Int :=
  (cells.map (·.users)).sum

/-- The users of all cells of all buckets. -/
def totalUsers (buckets : List DimensionResult) : Int :=
  (buckets.map fun b => usersSum b.variations).sum

theorem usersSum_emptyCells (n : Nat) : usersSum (emptyCells n) = 0 := by
  simp [usersSum, emptyCells, Function.comp_def]

theorem usersSum_modify {cells : List VariationResult} {i : Nat} {r : VariationResult}
    (h : cells[i]? = some r) (change : VariationResult → VariationResult) :
    usersSum (cells.modify i change) + r.users = usersSum cells + (change r).users := by
  induction cells generalizing i with
  | nil => simp at h
  | cons cell rest ih =>
    cases i with
    | zero =>
      obtain rfl : cell = r := by simpa using h
      simp [usersSum]
      omega
    | succ i =>
      have := ih (i := i) (by simpa using h)
      simp [usersSum] at this ⊢
      omega

/-- A change to a cell changes the total by the cell's users after it less those before it. -/
theorem totalUsers_changeCell {n : Nat} {key : String} {i : Nat} {buckets : List DimensionResult}
    {r : VariationResult} (h : (bucket n key buckets)[i]? = some r)
    (change : VariationResult → VariationResult) :
    totalUsers (changeCell n key i change buckets) + r.users =
      totalUsers buckets + (change r).users := by
  induction buckets with
  | nil =>
    have := usersSum_modify h change
    rw [bucket_nil, usersSum_emptyCells] at this
    simpa [changeCell, totalUsers] using this
  | cons b rest ih =>
    by_cases hb : b.dimension = key
    · have := usersSum_modify (by simpa [bucket_cons, hb] using h) change
      simp [changeCell, totalUsers, hb]
      omega
    · have := ih (by simpa [bucket_cons, hb] using h)
      simp [changeCell, totalUsers, hb] at this ⊢
      omega

/-- The users in a row; zero where they cannot be read. -/
def usersIn (row : Row) : Int :=
  (Cell.toInt (row.get "users")).toOption.getD 0

theorem toInt_eq_usersIn {row : Row} (h : row.isText = true) :
    Cell.toInt (row.get "users") = .ok (usersIn row) := by
  obtain ⟨n, hn⟩ := Cell.toInt_of_isTextCell (Row.isTextCell_get h "users")
  rw [usersIn, hn]
  rfl

/-- The rows that have a cell and after which no row of the same cell comes. -/
def Context.lasting (c : Context) : List Row → List Row
  | [] => []
  | row :: rest =>
    if c.cell? row = none ∨ c.cell? row ∈ rest.map c.cell? then c.lasting rest
    else row :: c.lasting rest

theorem Context.lasting_concat (c : Context) (rows : List Row) (row : Row) :
    c.lasting (rows ++ [row]) =
      if c.cell? row = none then c.lasting rows
      else (c.lasting rows).filter (c.cell? · ≠ c.cell? row) ++ [row] := by
  induction rows with
  | nil => by_cases h : c.cell? row = none <;> simp [Context.lasting, h]
  | cons first rest ih =>
    simp only [List.cons_append, Context.lasting, List.map_append, List.map_cons, List.map_nil,
      List.mem_append, List.mem_singleton, ← or_assoc]
    by_cases h : c.cell? row = none
    · by_cases hf : c.cell? first = none <;> simp [ih, h, hf]
    · by_cases hf : c.cell? first = c.cell? row
      · by_cases hr : c.cell? row ∈ rest.map c.cell? <;> simp [ih, h, hf, hr]
      · by_cases hr : c.cell? first = none ∨ c.cell? first ∈ rest.map c.cell?
        · rw [if_pos (.inl hr), if_pos hr, ih]
        · rw [if_neg (not_or.mpr ⟨hr, hf⟩), if_neg hr, ih]
          simp [h, hf]

/-- Of the rows of a cell the last one lasts. -/
theorem Context.filter_lasting (c : Context) (cell : String × Nat) (rows : List Row) :
    (c.lasting rows).filter (c.cell? · = some cell) =
      (rows.filter (c.cell? · = some cell)).getLast?.toList := by
  induction rows using List.reverseRecOn with
  | nil => rfl
  | append_singleton rows row ih =>
    rw [c.lasting_concat]
    by_cases hcell : c.cell? row = some cell
    · simp [hcell, List.filter_filter]
    · have hkept : ((c.lasting rows).filter (c.cell? · ≠ c.cell? row)).filter
          (c.cell? · = some cell) = (c.lasting rows).filter (c.cell? · = some cell) := by
        rw [List.filter_filter]
        refine List.filter_congr fun other _ => ?_
        by_cases ho : c.cell? other = some cell <;> simp [ho, Ne.symm hcell]
      by_cases h : c.cell? row = none
      · simp [h, ih]
      · simp only [h, if_false, List.filter_append, hkept, ih]
        simp [hcell]

theorem sum_filter_add (f : Row → Int) (p : Row → Bool) (rows : List Row) :
    ((rows.filter p).map f).sum + ((rows.filter (!p ·)).map f).sum = (rows.map f).sum := by
  induction rows with
  | nil => rfl
  | cons row rest ih =>
    cases hp : p row <;> simp [hp] <;> omega

theorem lastUsers_eq_sum {rows : List Row} (h : ∀ row ∈ rows, row.isText = true) :
    lastUsers rows = .ok ((rows.getLast?.toList).map usersIn).sum := by
  cases hlast : rows.getLast? with
  | none => simp [lastUsers, hlast]
  | some row => simp [lastUsers, hlast, toInt_eq_usersIn (h row (List.mem_of_getLast? hlast))]

/-- A cell has the users of the row of the cell that lasts. -/
theorem Reflects.users_eq_sum {c : Context} {rows : List Row} {s : State}
    (hs : Reflects c (rows.map .users) s) (htext : ∀ row ∈ rows, row.isText = true) (key : String)
    {i : Nat} (hi : i < c.variations) :
    ∃ r, (bucket c.variations key s.buckets)[i]? = some r ∧
      r.users = (((c.lasting rows).filter (c.cell? · = some (key, i))).map usersIn).sum := by
  obtain ⟨r, hr, hcontent⟩ := hs.cells key i hi
  have husers := (replay_eq_ok hcontent).2.1
  have hrows : usersRowsOf ((rows.map Item.users).filter (c.cell? ·.row = some (key, i))) =
      rows.filter (c.cell? · = some (key, i)) := by
    simpa [items] using usersRowsOf_filter_items (c.cell? · = some (key, i)) [] [] rows
  rw [hrows, lastUsers_eq_sum fun row hrow => htext row (List.mem_filter.mp hrow).1,
    ← c.filter_lasting] at husers
  exact ⟨r, hr, (Except.ok.inj husers).symm⟩

/-- The users rows set the total to the users of those that last. -/
theorem Context.totalUsers_run_users {c : Context} {rows : List Row} {s : State}
    (htext : ∀ row ∈ rows, row.isText = true) (h : c.run ⟨[], []⟩ (rows.map .users) = (s, none)) :
    totalUsers s.buckets = ((c.lasting rows).map usersIn).sum := by
  induction rows using List.reverseRecOn generalizing s with
  | nil =>
    obtain rfl : State.mk [] [] = s := by simpa [Context.run] using h
    rfl
  | append_singleton rows row ih =>
    rw [List.map_append] at h
    obtain ⟨s1, hrows, hrow⟩ := c.run_append_eq_none h
    have htotal := ih (fun row hrow => htext row (List.mem_append_left _ hrow)) hrows
    obtain ⟨s2, hstep, hend⟩ := c.run_cons_eq_none hrow
    obtain rfl : s2 = s := by simpa [Context.run] using hend
    obtain ⟨hp, rfl⟩ | ⟨i, change, hp, hc, rfl⟩ := c.step_eq_ok hstep
    · have hcell : c.cell? row = none := by simpa [Context.cell?, Item.row] using hp
      simpa [c.lasting_concat, hcell] using htotal
    · have hcell : c.cell? row = some (dimensionKey row, i.val) := by
        simpa [Context.cell?, Item.row] using ⟨i, hp, rfl⟩
      obtain ⟨users, hu, rfl⟩ := change_users_eq_ok hc
      rw [toInt_eq_usersIn (htext row (by simp)), Except.ok.injEq] at hu
      obtain ⟨r, hr, hreplaced⟩ := ((Reflects.start c).run hrows).users_eq_sum
        (fun row hrow => htext row (List.mem_append_left _ hrow)) (dimensionKey row) i.isLt
      have hchange := totalUsers_changeCell hr fun r => { r with users }
      have hparts := sum_filter_add usersIn (c.cell? · = some (dimensionKey row, i.val))
        (c.lasting rows)
      simp only [c.lasting_concat, hcell, Item.row] at hchange ⊢
      simp at hparts ⊢
      omega

/-- Metric rows leave the users as they are. -/
theorem Reflects.totalUsers_run_metrics {c : Context} {done items : List Item} {s s' : State}
    (hs : Reflects c done s) (hitems : usersRowsOf items = [])
    (hrun : c.run s items = (s', none)) : totalUsers s'.buckets = totalUsers s.buckets := by
  induction items generalizing done s with
  | nil =>
    obtain rfl : s = s' := by simpa [Context.run] using hrun
    rfl
  | cons item rest ih =>
    obtain ⟨s1, hstep, hrest⟩ := c.run_cons_eq_none hrun
    cases item with
    | users row => simp [usersRowsOf] at hitems
    | metric id row =>
      rw [ih (hs.step hstep) (by simpa [usersRowsOf] using hitems) hrest]
      obtain ⟨hp, rfl⟩ | ⟨i, change, hp, hc, rfl⟩ := c.step_eq_ok hstep
      · rfl
      · obtain ⟨m, -, rfl⟩ := change_metric_eq_ok hc
        obtain ⟨r, hr, -⟩ := hs.cells (dimensionKey row) i.val i.isLt
        have := totalUsers_changeCell hr fun r => { r with metrics := r.metrics ++ [m] }
        simp only [Item.row] at this ⊢
        omega

theorem Context.totalUsers_merge {c : Context} {metricIds : List String}
    {metricRows : List (List Row)} {usersRows : List Row} {s : State}
    (htext : ∀ row ∈ usersRows, row.isText = true)
    (h : c.merge metricIds metricRows usersRows = (s, none)) :
    totalUsers s.buckets = ((c.lasting usersRows).map usersIn).sum := by
  obtain ⟨s1, husers, hmetrics⟩ := c.run_append_eq_none h
  rw [((Reflects.start c).run husers).totalUsers_run_metrics ?_ hmetrics,
    c.totalUsers_run_users htext husers]
  simp [usersRowsOf, List.filterMap_flatMap, List.filterMap_map]

/-! ### Records -/

theorem metric_of_record {id : String} {row : Row} {m : VariationMetric}
    (h : record id row = .ok m) : m.metric = id := by
  simp only [record, Except.bind_eq_ok, Except.pure_eq_ok] at h
  obtain ⟨_, -, _, -, _, -, rfl⟩ := h
  rfl

/-- The records of rows name the metrics of the rows. -/
theorem map_metric_of_records {rows : List (String × Row)} {ms : List VariationMetric}
    (h : records rows = .ok ms) : ms.map (·.metric) = rows.map Prod.fst := by
  induction Except.mapM_eq_ok.mp h with
  | nil => rfl
  | cons hm _ ih => simpa [metric_of_record hm] using ih (Except.mapM_eq_ok.mpr ‹_›)

/-- The records of several lists of rows are those of each list, one after the other. -/
theorem records_flatMap {α : Type} {f : α → List (String × Row)} {lists : List α}
    {ms : List VariationMetric} (h : records (lists.flatMap f) = .ok ms) :
    ∃ parts, ms = parts.flatten ∧
      List.Forall₂ (fun list part => records (f list) = .ok part) lists parts := by
  induction lists generalizing ms with
  | nil => exact ⟨[], by simpa [records, pure, Except.pure, eq_comm] using h, .nil⟩
  | cons list rest ih =>
    rw [List.flatMap_cons, records, List.mapM_append, Except.bind_eq_ok] at h
    obtain ⟨part, hpart, h⟩ := h
    obtain ⟨ms', hrest, h⟩ := Except.bind_eq_ok.mp h
    obtain ⟨parts, rfl, hparts⟩ := ih hrest
    exact ⟨part :: parts, (Except.pure_eq_ok.mp h).symm, .cons hpart hparts⟩

/-- A cell holds, for each metric, as many records as rows of the metric belong to the cell. -/
theorem Context.parts_of_records {c : Context} {cell : String × Nat} {metricIds : List String}
    {metricRows : List (List Row)} {ms : List VariationMetric}
    (h : records (c.metricRowsIn cell metricIds metricRows) = .ok ms) :
    ∃ parts, ms = parts.flatten ∧
      List.Forall₂ (fun (list : String × List Row) part =>
          part.map (·.metric) = List.replicate (list.2.countP (c.cell? · = some cell)) list.1)
        (metricIds.zip metricRows) parts := by
  obtain ⟨parts, hms, hparts⟩ := records_flatMap h
  refine ⟨parts, hms, hparts.imp fun list part hpart => ?_⟩
  rw [map_metric_of_records hpart]
  simp [Function.comp_def, List.countP_eq_length_filter]

/-! ### Rows that do not meet -/

theorem Context.lasting_eq_filter {c : Context} {rows : List Row}
    (h : rows.Pairwise fun a b => ¬c.Meet a b) :
    c.lasting rows = rows.filter (c.cell? · ≠ none) := by
  induction rows with
  | nil => rfl
  | cons row rest ih =>
    obtain ⟨hrow, hrest⟩ := List.pairwise_cons.mp h
    by_cases hcell : c.cell? row = none
    · simp [Context.lasting, hcell, ih hrest]
    · have hnew : c.cell? row ∉ rest.map c.cell? := by
        rintro hmem
        obtain ⟨later, hlater, heq⟩ := List.mem_map.mp hmem
        exact hrow later hlater ⟨hcell, heq.symm⟩
      simp only [Context.lasting, hcell, hnew, or_self, if_false, ih hrest]
      simp [hcell]

theorem Context.countP_le_one {c : Context} {rows : List Row}
    (h : rows.Pairwise fun a b => ¬c.Meet a b) (cell : String × Nat) :
    rows.countP (c.cell? · = some cell) ≤ 1 := by
  induction rows with
  | nil => simp
  | cons row rest ih =>
    obtain ⟨hrow, hrest⟩ := List.pairwise_cons.mp h
    by_cases hcell : c.cell? row = some cell
    · have hnone : rest.countP (c.cell? · = some cell) = 0 := by
        refine List.countP_eq_zero.mpr fun later hlater hl => ?_
        have hl : c.cell? later = some cell := by simpa using hl
        exact hrow later hlater ⟨by simp [hcell], hcell.trans hl.symm⟩
      simp [hcell, hnone]
    · simpa [hcell] using ih hrest

/-- Text rows of different groups do not meet unless two of them are confused. -/
theorem Context.pairwise_not_meet (c : Context) {rows : List Row}
    (htext : ∀ row ∈ rows, row.isText = true) (hgroup : Grouped rows)
    (h : rows.Pairwise fun a b => ¬c.Confused a b) : rows.Pairwise fun a b => ¬c.Meet a b := by
  refine List.Pairwise.imp_of_mem ?_ (List.pairwise_and_iff.mpr ⟨hgroup, h⟩)
  intro a b ha hb ⟨hne, hconfused⟩ hmeet
  exact hconfused ((c.meet_iff_confused (htext a ha) (htext b hb) hne).mp hmeet)

theorem Context.merge_of_isText (c : Context) (metricIds : List String)
    {metricRows : List (List Row)} {usersRows : List Row}
    (husers : ∀ row ∈ usersRows, row.isText = true)
    (hmetrics : ∀ rows ∈ metricRows, ∀ row ∈ rows, row.isText = true) :
    ∃ s, c.merge metricIds metricRows usersRows = (s, none) := by
  refine c.run_of_isText (fun item hitem => ?_) _
  rcases List.mem_append.mp hitem with hitem | hitem
  · obtain ⟨row, hrow, rfl⟩ := List.mem_map.mp hitem
    exact husers row hrow
  · obtain ⟨list, hlist, hitem⟩ := List.mem_flatMap.mp hitem
    obtain ⟨row, hrow, rfl⟩ := List.mem_map.mp hitem
    exact hmetrics list.2 (List.of_mem_zip hlist).2 row hrow

/-- Merging text rows, of which no list has two of the same group, ends without a fault.  The total
of the users is that of the rows that no later row of their cell replaces, and so of all rows that
have a cell if no two are confused.  Each cell holds, for each metric in order, as many records as
rows of the metric belong to it, and so at most one if no two are confused.  By key, rows are
confused only where a null stands against an empty dimension. -/
theorem counts_of_merge (settings : SourceSettings) (e : ExperimentDefinition)
    (metrics : List MetricDefinition) (metricRows : List (List Row)) (usersRows : List Row)
    (husers : ∀ row ∈ usersRows, row.isText = true)
    (hmetrics : ∀ rows ∈ metricRows, ∀ row ∈ rows, row.isText = true)
    (hgroup : Grouped usersRows) (hgroups : ∀ rows ∈ metricRows, Grouped rows) :
    let c := Context.ofExperiment settings e
    let metricIds := metrics.map (·.id)
    ∃ s, c.merge metricIds metricRows usersRows = (s, none) ∧
      (∀ row ∈ usersRows, Cell.toInt (row.get "users") = .ok (usersIn row)) ∧
      totalUsers s.buckets = ((c.lasting usersRows).map usersIn).sum ∧
      (usersRows.Pairwise (fun a b => ¬c.Confused a b) →
        totalUsers s.buckets = ((usersRows.filter (c.cell? · ≠ none)).map usersIn).sum) ∧
      (∀ b ∈ s.buckets, ∀ i r, b.variations[i]? = some r →
        ∃ parts, r.metrics = parts.flatten ∧
          List.Forall₂ (fun (list : String × List Row) part =>
              part.map (·.metric) =
                List.replicate (list.2.countP (c.cell? · = some (b.dimension, i))) list.1 ∧
              (list.2.Pairwise (fun a b => ¬c.Confused a b) → part.length ≤ 1))
            (metricIds.zip metricRows) parts) ∧
      (settings.experiments.variationFormat = .key →
        ∀ a b : Row, a.isText = true → b.isText = true → c.Confused a b →
          a.get "variation" = b.get "variation" ∧
            NullAndEmpty (a.get "dimension") (b.get "dimension")) := by
  intro c metricIds
  obtain ⟨s, hs⟩ := c.merge_of_isText metricIds husers hmetrics
  have htotal := c.totalUsers_merge husers hs
  refine ⟨s, hs, fun row hrow => toInt_eq_usersIn (husers row hrow), htotal, ?_, ?_, ?_⟩
  · intro hconfused
    rw [htotal, Context.lasting_eq_filter (c.pairwise_not_meet husers hgroup hconfused)]
  · intro b hb i r hr
    have hcell := ((Reflects.start c).run hs).cell_of_mem hb hr
    have hrecords := (replay_eq_ok hcell).2.2
    rw [List.nil_append, metricRowsOf_filter_items (c.cell? · = some (b.dimension, i))] at hrecords
    obtain ⟨parts, hflatten, hparts⟩ := Context.parts_of_records hrecords
    have hlisted := (List.forall₂_and_left _ _).mpr
      ⟨fun list hlist => (List.of_mem_zip hlist).2, hparts⟩
    refine ⟨parts, hflatten, hlisted.imp fun list part ⟨hlist, hpart⟩ =>
      ⟨hpart, fun hconfused => ?_⟩⟩
    have hone := Context.countP_le_one
      (c.pairwise_not_meet (hmetrics _ hlist) (hgroups _ hlist) hconfused) (b.dimension, i)
    have hlength := congrArg List.length hpart
    simp only [List.length_map, List.length_replicate] at hlength
    omega
  · intro hformat a b ha hb hconfused
    exact nullAndEmpty_of_confused hformat ha hb hconfused

/-- Two users rows of different groups name one variation, and two metric rows of different groups
one dimension: users are lost and records doubled. -/
theorem users_lost_records_doubled :
    let c := Context.ofExperiment .builtin (.minimal "e" "exp" ["control", "treatment"])
    let usersRows : List Row :=
      [[("variation", .text "1"), ("dimension", .text "All"), ("users", .text "20")],
        [("variation", .text " 1"), ("dimension", .text "All"), ("users", .text "3")]]
    let metricRows : List (List Row) :=
      [[[("variation", .text "0"), ("dimension", .null), ("count", .text "5")],
        [("variation", .text "0"), ("dimension", .text ""), ("count", .text "4")]]]
    let outcome := c.merge ["m"] metricRows usersRows
    Grouped usersRows ∧ (∀ rows ∈ metricRows, Grouped rows) ∧ outcome.2 = none ∧
      totalUsers outcome.1.buckets = 3 ∧
      ((usersRows.filter (c.cell? · ≠ none)).map usersIn).sum = 23 ∧
      outcome.1.buckets.map (fun b => (b.dimension, b.variations.map (·.metrics.length))) =
        [("All", [0, 0]), ("", [2, 0])] := by
  intro c usersRows metricRows outcome
  refine ⟨?_, ?_, by decide +kernel, by decide +kernel, by decide +kernel, by decide +kernel⟩
  · simp [usersRows, Grouped, group, Row.get, List.lookup_cons]
  · simp [metricRows, Grouped, group, Row.get, List.lookup_cons]

/-- Two users rows of one dimension for two variations, and a row without a cell. -/
theorem counts_of_merge_two_variations :
    let e := ExperimentDefinition.minimal "e" "exp" ["control", "treatment"]
    let c := Context.ofExperiment .builtin e
    let metrics := [MetricDefinition.minimal "m" "M" .count "t"]
    let usersRows : List Row :=
      [[("variation", .text "1"), ("dimension", .text "All"), ("users", .text "20")],
        [("variation", .text "0"), ("dimension", .text "All"), ("users", .text "3")],
        [("variation", .text "2"), ("dimension", .text "All"), ("users", .text "9")]]
    let metricRows : List (List Row) :=
      [[[("variation", .text "0"), ("dimension", .null), ("count", .text "5")],
        [("variation", .text "1"), ("dimension", .text ""), ("count", .text "4")]]]
    Grouped usersRows ∧ (∀ rows ∈ metricRows, Grouped rows) ∧
      ∃ s, c.merge (metrics.map (·.id)) metricRows usersRows = (s, none) ∧
        totalUsers s.buckets = 23 := by
  intro e c metrics usersRows metricRows
  have hgroup : Grouped usersRows := by simp [usersRows, Grouped, group, Row.get, List.lookup_cons]
  have hgroups : ∀ rows ∈ metricRows, Grouped rows := by
    simp [metricRows, Grouped, group, Row.get, List.lookup_cons]
  obtain ⟨s, hs, -, htotal, -⟩ := counts_of_merge .builtin e metrics metricRows usersRows
    (by decide) (by decide) hgroup hgroups
  exact ⟨hgroup, hgroups, s, hs, htotal.trans (by decide +kernel)⟩

end SplitTest.Merge
