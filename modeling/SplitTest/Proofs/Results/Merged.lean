import SplitTest.Proofs.Results.Cells
import SplitTest.Proofs.Schema.Minimal

/-! The result of a merge, stated over its rows.  `Merged` says what the buckets and the warnings
are without reference to the order in which cells are found, created and changed; a merge that ends
without a fault has such a result. -/

namespace SplitTest.Merge

/-- All rows of an experiment's queries, users rows first and then those of each metric. -/
def rowsInOrder (metricIds : List String) (metricRows : List (List Row)) (usersRows : List Row) :
    List Row :=
  usersRows ++ (metricIds.zip metricRows).flatMap Prod.snd

/-- The rows of each metric that belong to a cell, with their metrics, in the order of the
metrics. -/
def Context.metricRowsIn (c : Context) (cell : String × Nat) (metricIds : List String)
    (metricRows : List (List Row)) : List (String × Row) :=
  (metricIds.zip metricRows).flatMap fun (id, rows) =>
    (rows.filter (c.cell? · = some cell)).map fun row => (id, row)

/-- The result of merging the rows of an experiment's queries. -/
structure Merged (c : Context) (metricIds : List String) (metricRows : List (List Row))
    (usersRows : List Row) (s : State) : Prop where
  /-- No two buckets have the same key. -/
  nodup : (s.buckets.map (·.dimension)).Nodup
  /-- The keys are in the order in which they first occur among the rows that have a cell. -/
  keys : s.buckets.map (·.dimension) =
    (c.keysOf (rowsInOrder metricIds metricRows usersRows)).eraseDups
  /-- Every bucket has a cell for each variation, at its position. -/
  variations : ∀ b ∈ s.buckets,
    b.variations.map (·.variation) = (List.range c.variations).map Int.ofNat
  /-- The users of a cell are those of the last users row that belongs to it. -/
  users : ∀ b ∈ s.buckets, ∀ i r, b.variations[i]? = some r →
    lastUsers (usersRows.filter (c.cell? · = some (b.dimension, i))) = .ok r.users
  /-- The records of a cell are those of the metric rows that belong to it. -/
  metrics : ∀ b ∈ s.buckets, ∀ i r, b.variations[i]? = some r →
    records (c.metricRowsIn (b.dimension, i) metricIds metricRows) = .ok r.metrics
  /-- Every row without a cell leaves one warning. -/
  warnings : s.warnings =
    ((rowsInOrder metricIds metricRows usersRows).filter (c.cell? · = none)).map c.warning
  /-- The rows without a cell leave no other trace. -/
  buckets_filter : c.run ⟨[], []⟩
    ((items metricIds metricRows usersRows).filter (c.cell? ·.row ≠ none)) = (⟨s.buckets, []⟩, none)
  /-- Whenever a row that has a cell is reached, its position lies within its bucket. -/
  inside : ∀ before item after, items metricIds metricRows usersRows = before ++ item :: after →
    ∀ key i, c.cell? item.row = some (key, i) →
      i < (bucket c.variations key (c.run ⟨[], []⟩ before).1.buckets).length

theorem map_row_items (metricIds : List String) (metricRows : List (List Row))
    (usersRows : List Row) :
    (items metricIds metricRows usersRows).map Item.row =
      rowsInOrder metricIds metricRows usersRows := by
  simp [items, rowsInOrder, List.map_flatMap, Item.row, Function.comp_def]

theorem usersRowsOf_filter_items (p : Row → Bool) (metricIds : List String)
    (metricRows : List (List Row)) (usersRows : List Row) :
    usersRowsOf ((items metricIds metricRows usersRows).filter (p ·.row)) = usersRows.filter p := by
  simp [items, usersRowsOf, List.filter_flatMap, List.filterMap_flatMap, List.filter_map,
    List.filterMap_map, Item.row, Function.comp_def]

theorem metricRowsOf_filter_items (p : Row → Bool) (metricIds : List String)
    (metricRows : List (List Row)) (usersRows : List Row) :
    metricRowsOf ((items metricIds metricRows usersRows).filter (p ·.row)) =
      (metricIds.zip metricRows).flatMap fun (id, rows) =>
        (rows.filter p).map fun row => (id, row) := by
  simp [items, metricRowsOf, List.filter_flatMap, List.filterMap_flatMap, List.filter_map,
    List.filterMap_map, Item.row, Function.comp_def]

/-- Without the items that have no cell a run ends in the same buckets. -/
theorem Context.run_filter {c : Context} {items : List Item} {s s' : State}
    (h : c.run s items = (s', none)) (warnings : List LogEntry) :
    c.run ⟨s.buckets, warnings⟩ (items.filter (c.cell? ·.row ≠ none)) =
      (⟨s'.buckets, warnings⟩, none) := by
  induction items generalizing s with
  | nil =>
    obtain rfl : s = s' := by simpa [Context.run] using h
    rfl
  | cons item rest ih =>
    obtain ⟨s1, hstep, hrest⟩ := c.run_cons_eq_none h
    obtain ⟨hp, rfl⟩ | ⟨i, change, hp, hc, rfl⟩ := c.step_eq_ok hstep
    · simpa [Context.cell?, hp] using ih hrest
    · simpa [Context.cell?, hp, Context.run, Context.step, hc, bind, Except.bind, pure,
        Except.pure] using ih hrest

namespace Reflects

variable {c : Context} {done : List Item} {s : State}

theorem nodup (h : Reflects c done s) : (s.buckets.map (·.dimension)).Nodup := by
  rw [h.keys]
  exact nodup_eraseDups _

/-- The cell at a position of a bucket. -/
theorem cell_of_mem (h : Reflects c done s) {b : DimensionResult} (hb : b ∈ s.buckets) {i : Nat}
    {r : VariationResult} (hr : b.variations[i]? = some r) :
    c.content b.dimension i done = .ok r := by
  have hbucket := bucket_of_mem c.variations h.nodup hb
  have hi : i < c.variations := by
    rw [← h.length b.dimension, hbucket]
    exact (List.getElem?_eq_some_iff.mp hr).1
  obtain ⟨r', hr', hcontent⟩ := h.cells b.dimension i hi
  rw [hbucket, hr] at hr'
  rw [hcontent, Option.some.inj hr']

theorem map_variation (h : Reflects c done s) {b : DimensionResult} (hb : b ∈ s.buckets) :
    b.variations.map (·.variation) = (List.range c.variations).map Int.ofNat := by
  have hlength : b.variations.length = c.variations := by
    rw [← bucket_of_mem c.variations h.nodup hb, h.length]
  refine List.ext_getElem (by simp [hlength]) fun i hi _ => ?_
  have hr := List.getElem?_eq_getElem (show i < b.variations.length by simpa using hi)
  simpa using (replay_eq_ok (h.cell_of_mem hb hr)).1

end Reflects

/-- A merge that ends without a fault leaves in each cell the users of the last users row and a
record for each metric row that belong to it, and a warning for each row that belongs to none. -/
theorem merged_of_merge (settings : SourceSettings) (e : ExperimentDefinition)
    (metrics : List MetricDefinition) (metricRows : List (List Row)) (usersRows : List Row)
    (s : State)
    (h : (Context.ofExperiment settings e).merge (metrics.map (·.id)) metricRows usersRows =
      (s, none)) :
    Merged (Context.ofExperiment settings e) (metrics.map (·.id)) metricRows usersRows s := by
  generalize Context.ofExperiment settings e = c at h ⊢
  generalize metrics.map (·.id) = metricIds at h ⊢
  have hs : Reflects c (items metricIds metricRows usersRows) s := (Reflects.start c).run h
  refine ⟨hs.nodup, ?_, fun b => hs.map_variation, ?_, ?_, ?_, c.run_filter h [], ?_⟩
  · rw [hs.keys, map_row_items]
  · intro b hb i r hr
    have husers := (replay_eq_ok (hs.cell_of_mem hb hr)).2.1
    rwa [usersRowsOf_filter_items (fun row => c.cell? row = some (b.dimension, i))] at husers
  · intro b hb i r hr
    have hmetrics := (replay_eq_ok (hs.cell_of_mem hb hr)).2.2
    rwa [metricRowsOf_filter_items (fun row => c.cell? row = some (b.dimension, i))] at hmetrics
  · rw [hs.warnings, map_row_items]
  · intro before item after hitems key i hcell
    rw [Context.merge, hitems] at h
    obtain ⟨s1, hbefore, -⟩ := c.run_append_eq_none h
    obtain ⟨j, hplace, hj⟩ := Option.map_eq_some_iff.mp hcell
    obtain ⟨rfl, rfl⟩ : dimensionKey item.row = key ∧ j.val = i := by simpa using hj
    rw [hbefore, ((Reflects.start c).run hbefore).length]
    exact j.isLt

/-- Two users rows meet in a cell, two rows have no cell, and one bucket begins with a metric
row. -/
theorem merged_of_merge_interleaved :
    let e := ExperimentDefinition.minimal "e" "exp" ["control", "treatment"]
    let c := Context.ofExperiment .builtin e
    let metrics := [MetricDefinition.minimal "m" "M" .count "t",
      MetricDefinition.minimal "n" "N" .count "t"]
    let usersRows : List Row :=
      [[("variation", .text "1"), ("dimension", .null), ("users", .text "3")],
        [("variation", .text "7"), ("dimension", .text "de"), ("users", .text "9")],
        [("variation", .text " 1 "), ("dimension", .text ""), ("users", .text "5.9")]]
    let metricRows : List (List Row) :=
      [[[("variation", .text "0"), ("dimension", .text "fr"), ("count", .text "4"),
          ("mean", .text "12.5"), ("stddev", .text "nan")]],
        [[("variation", .null), ("dimension", .null)],
          [("variation", .text "1"), ("dimension", .null), ("count", .text "2")]]]
    let outcome := c.merge (metrics.map (·.id)) metricRows usersRows
    outcome = (outcome.1, none) ∧
      outcome.1.buckets.map (fun b => (b.dimension, b.variations.map (·.users))) =
        [("", [0, 5]), ("fr", [0, 0])] ∧
      Merged c (metrics.map (·.id)) metricRows usersRows outcome.1 := by
  intro e c metrics usersRows metricRows outcome
  have h : outcome = (outcome.1, none) := Prod.ext rfl (by decide +kernel)
  exact ⟨h, by decide +kernel, merged_of_merge .builtin e metrics metricRows usersRows outcome.1 h⟩

end SplitTest.Merge
