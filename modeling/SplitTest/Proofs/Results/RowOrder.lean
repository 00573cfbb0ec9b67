import Mathlib.Data.List.Find
import Mathlib.Data.List.Nodup
import SplitTest.Proofs.Results.Counts

/-! Merges of the same rows in another order.  Where no two rows of a list meet in a cell, each cell
gets the same items in the same order however the lists are permuted: the users from at most one
row, then the records metric by metric.  So only the order of the buckets, and that of the warnings,
can change. -/

namespace SplitTest.Merge

variable {c : Context}

theorem Context.exists_step_iff {s : State} {item : Item} :
    (∃ s', c.step s item = .ok s') ↔
      (c.place item.row ≠ none → ∃ change, item.change = .ok change) := by
  cases hp : c.place item.row with
  | none => simp [Context.step, hp]
  | some i =>
    cases hc : item.change with
    | error f => simp [Context.step, hp, hc, bind, Except.bind]
    | ok change => simp [Context.step, hp, hc, bind, Except.bind, pure, Except.pure]

/-- A run ends without a fault exactly if every item that has a cell can be read. -/
theorem Context.exists_run_iff {items : List Item} {s : State} :
    (∃ s', c.run s items = (s', none)) ↔
      ∀ item ∈ items, c.place item.row ≠ none → ∃ change, item.change = .ok change := by
  induction items generalizing s with
  | nil => simp [Context.run]
  | cons item rest ih =>
    rw [List.forall_mem_cons, ← c.exists_step_iff (s := s)]
    constructor
    · rintro ⟨s', h⟩
      obtain ⟨s1, hstep, hrest⟩ := c.run_cons_eq_none h
      exact ⟨⟨s1, hstep⟩, ih.mp ⟨s', hrest⟩⟩
    · rintro ⟨⟨s1, hstep⟩, hrest⟩
      obtain ⟨s', hrun⟩ := (ih (s := s1)).mpr hrest
      exact ⟨s', by simp [Context.run, hstep, hrun]⟩

/-! ### Permuted lists of rows -/

/-- Two lists of metrics' rows, with their metrics, that differ in the order of each metric's rows
only. -/
abbrev Reordered (lists lists' : List (String × List Row)) : Prop :=
  List.Forall₂ (fun a b => a.1 = b.1 ∧ a.2.Perm b.2) lists lists'

theorem reordered_zip (metricIds : List String) {metricRows metricRows' : List (List Row)}
    (h : List.Forall₂ List.Perm metricRows metricRows') :
    Reordered (metricIds.zip metricRows) (metricIds.zip metricRows') := by
  induction h generalizing metricIds with
  | nil => simp
  | cons hrows _ ih =>
    cases metricIds with
    | nil => simp
    | cons id metricIds => exact .cons ⟨rfl, hrows⟩ (ih metricIds)

def metricItems (lists : List (String × List Row)) : List Item :=
  lists.flatMap fun (id, rows) => rows.map (.metric id)

theorem Reordered.perm_metricItems {lists lists' : List (String × List Row)}
    (h : Reordered lists lists') : (metricItems lists).Perm (metricItems lists') := by
  induction h with
  | nil => rfl
  | @cons a b _ _ hab _ ih =>
    obtain ⟨id, rows⟩ := a
    obtain ⟨rfl, hrows⟩ := hab
    exact (hrows.map _).append ih

theorem items_perm (metricIds : List String) {metricRows metricRows' : List (List Row)}
    {usersRows usersRows' : List Row} (husers : usersRows.Perm usersRows')
    (hmetrics : List.Forall₂ List.Perm metricRows metricRows') :
    (items metricIds metricRows usersRows).Perm (items metricIds metricRows' usersRows') :=
  (husers.map _).append (reordered_zip metricIds hmetrics).perm_metricItems

/-! ### The items of a cell -/

/-- Where rows do not meet, a cell has at most one of them, so that it is first in every order. -/
theorem Context.filter_eq_of_perm {rows rows' : List Row} (h : rows.Perm rows')
    (hone : rows.Pairwise fun a b => ¬c.Meet a b) (cell : String × Nat) :
    rows.filter (c.cell? · = some cell) = rows'.filter (c.cell? · = some cell) := by
  have hlength := Context.countP_le_one hone cell
  have hperm := h.filter (c.cell? · = some cell)
  rw [List.countP_eq_length_filter] at hlength
  cases hrows : rows.filter (c.cell? · = some cell) with
  | nil => exact (List.nil_perm.mp (hrows ▸ hperm)).symm
  | cons row rest =>
    -- A permutation of one row is this row.
    obtain rfl : rest = [] := by simpa [hrows] using hlength
    exact (List.perm_singleton.mp (hrows ▸ hperm).symm).symm

theorem Context.filter_map_eq_of_perm {rows rows' : List Row} (h : rows.Perm rows')
    (hone : rows.Pairwise fun a b => ¬c.Meet a b) (item : Row → Item)
    (hitem : ∀ row, (item row).row = row) (cell : String × Nat) :
    (rows.map item).filter (c.cell? ·.row = some cell) =
      (rows'.map item).filter (c.cell? ·.row = some cell) := by
  simp only [List.filter_map, Function.comp_def, hitem, c.filter_eq_of_perm h hone cell]

theorem Context.filter_metricItems_eq {lists lists' : List (String × List Row)}
    (h : Reordered lists lists')
    (hone : ∀ list ∈ lists, list.2.Pairwise fun a b => ¬c.Meet a b) (cell : String × Nat) :
    (metricItems lists).filter (c.cell? ·.row = some cell) =
      (metricItems lists').filter (c.cell? ·.row = some cell) := by
  induction h with
  | nil => rfl
  | @cons a b lists lists' hab _ ih =>
    obtain ⟨id, rows⟩ := a
    obtain ⟨rfl, hrows⟩ := hab
    obtain ⟨hhere, hthere⟩ := List.forall_mem_cons.mp hone
    have hrow := c.filter_map_eq_of_perm hrows hhere (.metric b.1) (fun _ => rfl) cell
    simp only [metricItems, List.flatMap_cons, List.filter_append]
    exact congrArg₂ (· ++ ·) hrow (ih hthere)

theorem Context.filter_items_eq (metricIds : List String) {metricRows metricRows' : List (List Row)}
    {usersRows usersRows' : List Row} (husers : usersRows.Perm usersRows')
    (hmetrics : List.Forall₂ List.Perm metricRows metricRows')
    (hone : usersRows.Pairwise fun a b => ¬c.Meet a b)
    (hones : ∀ rows ∈ metricRows, rows.Pairwise fun a b => ¬c.Meet a b) (cell : String × Nat) :
    (items metricIds metricRows usersRows).filter (c.cell? ·.row = some cell) =
      (items metricIds metricRows' usersRows').filter (c.cell? ·.row = some cell) := by
  have hrows := c.filter_map_eq_of_perm husers hone .users (fun _ => rfl) cell
  have hlists := c.filter_metricItems_eq (reordered_zip metricIds hmetrics)
    (fun list hlist => hones list.2 (List.of_mem_zip hlist).2) cell
  rw [items, List.filter_append, items, List.filter_append]
  exact congrArg₂ (· ++ ·) hrows hlists

/-! ### Buckets by their keys -/

theorem mem_buckets_iff (n : Nat) {buckets : List DimensionResult}
    (h : (buckets.map (·.dimension)).Nodup) (b : DimensionResult) :
    b ∈ buckets ↔
      b.dimension ∈ buckets.map (·.dimension) ∧ bucket n b.dimension buckets = b.variations := by
  constructor
  · intro hb
    exact ⟨List.mem_map_of_mem hb, bucket_of_mem n h hb⟩
  · rintro ⟨hkey, hvariations⟩
    obtain ⟨d, hd, hdimension⟩ := List.mem_map.mp hkey
    have hsame : d.variations = b.variations := by
      rw [← bucket_of_mem n h hd, hdimension, hvariations]
    obtain rfl : d = b := by
      cases d
      cases b
      simp_all
    exact hd

/-- Where the keys are distinct, the bucket of a key does not depend on the order of the buckets. -/
theorem find?_eq_of_perm {buckets buckets' : List DimensionResult}
    (h : (buckets.map (·.dimension)).Nodup) (hperm : buckets.Perm buckets') (key : String) :
    buckets.find? (·.dimension = key) = buckets'.find? (·.dimension = key) := by
  refine List.find?_eq_find?_of_perm hperm ?_
  rintro b ⟨hb, hkey⟩ d ⟨hd, hkey'⟩
  exact List.inj_on_of_nodup_map h hb hd
    ((of_decide_eq_true hkey).trans (of_decide_eq_true hkey').symm)

namespace Reflects

variable {done done' : List Item} {s s' : State}

/-- Cells that have the same items hold the same. -/
theorem bucket_eq (h : Reflects c done s) (h' : Reflects c done' s') (key : String)
    (hitems : ∀ i, done.filter (c.cell? ·.row = some (key, i)) =
      done'.filter (c.cell? ·.row = some (key, i))) :
    bucket c.variations key s.buckets = bucket c.variations key s'.buckets := by
  refine List.ext_getElem? fun i => ?_
  by_cases hi : i < c.variations
  · obtain ⟨r, hr, hcontent⟩ := h.cells key i hi
    obtain ⟨r', hr', hcontent'⟩ := h'.cells key i hi
    rw [Context.content, hitems i] at hcontent
    rw [hr, hr', Except.ok.inj (hcontent.symm.trans hcontent')]
  · rw [List.getElem?_eq_none (by rw [h.length]; omega),
      List.getElem?_eq_none (by rw [h'.length]; omega)]

theorem mem_keys_iff (h : Reflects c done s) (h' : Reflects c done' s') (hperm : done.Perm done')
    (key : String) :
    key ∈ s.buckets.map (·.dimension) ↔ key ∈ s'.buckets.map (·.dimension) := by
  rw [h.keys, h'.keys, List.mem_eraseDups, List.mem_eraseDups]
  exact ((hperm.map Item.row).filterMap _).mem_iff

/-- Two runs over permuted items of which each cell has the same end in permuted buckets. -/
theorem buckets_perm (h : Reflects c done s) (h' : Reflects c done' s') (hperm : done.Perm done')
    (hitems : ∀ cell, done.filter (c.cell? ·.row = some cell) =
      done'.filter (c.cell? ·.row = some cell)) : s.buckets.Perm s'.buckets := by
  refine (List.perm_ext_iff_of_nodup (List.Nodup.of_map _ h.nodup)
    (List.Nodup.of_map _ h'.nodup)).mpr fun b => ?_
  rw [mem_buckets_iff c.variations h.nodup, mem_buckets_iff c.variations h'.nodup,
    h.mem_keys_iff h' hperm, h.bucket_eq h' b.dimension fun i => hitems (b.dimension, i)]

end Reflects

/-- Where no list has two rows of the same cell, a merge of the rows in any order ends without a
fault if one does, with the same buckets up to their order; the keys are distinct, so each key has
the same cells.  The warnings are the same up to their order, too. -/
theorem merge_of_reordered_rows (settings : SourceSettings) (e : ExperimentDefinition)
    (metrics : List MetricDefinition) (metricRows metricRows' : List (List Row))
    (usersRows usersRows' : List Row)
    (husers : usersRows.Perm usersRows') (hmetrics : List.Forall₂ List.Perm metricRows metricRows')
    (hone : usersRows.Pairwise fun a b => ¬(Context.ofExperiment settings e).Meet a b)
    (hones : ∀ rows ∈ metricRows,
      rows.Pairwise fun a b => ¬(Context.ofExperiment settings e).Meet a b)
    (s : State)
    (h : (Context.ofExperiment settings e).merge (metrics.map (·.id)) metricRows usersRows =
      (s, none)) :
    ∃ s', (Context.ofExperiment settings e).merge (metrics.map (·.id)) metricRows' usersRows' =
        (s', none) ∧
      (s.buckets.map (·.dimension)).Nodup ∧ s.buckets.Perm s'.buckets ∧
      (∀ key, s.buckets.find? (·.dimension = key) = s'.buckets.find? (·.dimension = key)) ∧
      s.warnings.Perm s'.warnings := by
  generalize Context.ofExperiment settings e = c at *
  generalize metrics.map (·.id) = metricIds at *
  have hperm := items_perm metricIds husers hmetrics
  -- Which items fail does not depend on the items before them, so the permuted run ends as well.
  obtain ⟨s', h'⟩ : ∃ s', c.merge metricIds metricRows' usersRows' = (s', none) := by
    refine c.exists_run_iff.mpr fun item hitem => ?_
    exact c.exists_run_iff.mp ⟨s, h⟩ item (hperm.mem_iff.mpr hitem)
  have hs : Reflects c _ s := (Reflects.start c).run h
  have hs' : Reflects c _ s' := (Reflects.start c).run h'
  have hcells := c.filter_items_eq metricIds husers hmetrics hone hones
  have hbuckets := hs.buckets_perm hs' hperm hcells
  refine ⟨s', h', hs.nodup, hbuckets, fun key => ?_, ?_⟩
  · exact find?_eq_of_perm hs.nodup hbuckets key
  · rw [hs.warnings, hs'.warnings]
    exact ((hperm.map _).filter _).map _

/-- Two users rows, one of them of no variation, and two metrics of which the first has rows in two
buckets, each list turned round. -/
theorem merge_of_reordered_rows_turned :
    let e := ExperimentDefinition.minimal "e" "exp" ["control", "treatment"]
    let c := Context.ofExperiment .builtin e
    let metrics := [MetricDefinition.minimal "m" "M" .count "t",
      MetricDefinition.minimal "n" "N" .count "t"]
    let usersRows : List Row :=
      [[("variation", .text "1"), ("dimension", .text "de"), ("users", .text "3")],
        [("variation", .text "x"), ("dimension", .text "de"), ("users", .text "9")]]
    let metricRows : List (List Row) :=
      [[[("variation", .text "0"), ("dimension", .text "fr"), ("count", .text "4")],
          [("variation", .text "0"), ("dimension", .text "de"), ("count", .text "2")]],
        [[("variation", .text "0"), ("dimension", .text "fr"), ("count", .text "5")]]]
    let outcome := c.merge (metrics.map (·.id)) metricRows usersRows
    outcome = (outcome.1, none) ∧
      usersRows.Pairwise (fun a b => ¬c.Meet a b) ∧
      (∀ rows ∈ metricRows, rows.Pairwise fun a b => ¬c.Meet a b) ∧
      ∃ s, c.merge (metrics.map (·.id)) (metricRows.map List.reverse) usersRows.reverse =
          (s, none) ∧
        outcome.1.buckets.Perm s.buckets := by
  intro e c metrics usersRows metricRows outcome
  have h : outcome = (outcome.1, none) := Prod.ext rfl (by decide +kernel)
  have hone : usersRows.Pairwise fun a b => ¬c.Meet a b := by
    unfold Context.Meet
    decide +kernel
  have hones : ∀ rows ∈ metricRows, rows.Pairwise fun a b => ¬c.Meet a b := by
    unfold Context.Meet
    decide +kernel
  have hreversed : List.Forall₂ List.Perm metricRows (metricRows.map List.reverse) := by
    simp [metricRows, List.Perm.swap]
  obtain ⟨s, hs, -, hperm, -⟩ := merge_of_reordered_rows .builtin e metrics metricRows
    (metricRows.map List.reverse) usersRows usersRows.reverse (List.reverse_perm _).symm hreversed
    hone hones outcome.1 h
  exact ⟨h, hone, hones, s, hs, hperm⟩

end SplitTest.Merge
