import Mathlib.Data.List.Induction
import SplitTest.Proofs.Except
import SplitTest.Results.Merge

/-! Merged results read cell by cell.  A cell has a dimension key and a position.  What a merge
leaves in a cell is what the rows of that cell, taken alone and in order, make of an empty cell; the
buckets stand in the order in which their keys first occur; every other row leaves a warning and
nothing else. -/

namespace SplitTest.Merge

/-- The cell that a row belongs to: the key of its dimension and the position of its variation. -/
def Context.cell? (c : Context) (row : Row) : Option (String × Nat) :=
  (c.place row).map fun i => (dimensionKey row, i.val)

/-- The keys of rows that belong to a cell, in order. -/
def Context.keysOf (c : Context) (rows : List Row) : List String :=
  rows.filterMap fun row => (c.cell? row).map Prod.fst

/-- The record that a metric's row adds to its cell. -/
def record (id : String) (row : Row) : Except Fault VariationMetric := do
  let count ← Cell.toInt (row.get "count")
  let mean ← Cell.toDouble (row.get "mean")
  let stddev ← Cell.toDouble (row.get "stddev")
  pure ⟨id, count, mean, stddev⟩

/-- The cells of the bucket with a key; those of an empty bucket if there is none. -/
def bucket (n : Nat) (key : String) (buckets : List DimensionResult) : List VariationResult :=
  ((buckets.find? (·.dimension = key)).map (·.variations)).getD (emptyCells n)

/-- What items make of an empty cell. -/
def replay (i : Nat) (items : List Item) : Except Fault VariationResult :=
  items.foldlM (fun r item => item.change.map (· r)) ⟨i, 0, []⟩

/-- What the items of a cell make of it. -/
def Context.content (c : Context) (key : String) (i : Nat) (items : List Item) :
    Except Fault VariationResult :=
  replay i (items.filter (c.cell? ·.row = some (key, i)))

/-! ### Cells of buckets -/

theorem length_emptyCells (n : Nat) : (emptyCells n).length = n := by
  simp [emptyCells]

theorem getElem?_emptyCells {n i : Nat} (h : i < n) : (emptyCells n)[i]? = some ⟨i, 0, []⟩ := by
  simp [emptyCells, h]

theorem bucket_nil (n : Nat) (key : String) : bucket n key [] = emptyCells n := rfl

theorem bucket_cons (n : Nat) (key : String) (b : DimensionResult) (rest : List DimensionResult) :
    bucket n key (b :: rest) = if b.dimension = key then b.variations else bucket n key rest := by
  by_cases h : b.dimension = key <;> simp [bucket, h]

/-- A change to a cell changes that cell of its bucket and no other bucket. -/
theorem bucket_changeCell (n : Nat) (key key' : String) (i : Nat)
    (change : VariationResult → VariationResult) (buckets : List DimensionResult) :
    bucket n key' (changeCell n key i change buckets) =
      if key = key' then (bucket n key buckets).modify i change else bucket n key' buckets := by
  induction buckets with
  | nil => by_cases h : key = key' <;> simp [changeCell, bucket_cons, bucket_nil, h]
  | cons b rest ih =>
    by_cases hb : b.dimension = key
    · by_cases h : key = key' <;> simp [changeCell, bucket_cons, hb, h]
    · by_cases hb' : b.dimension = key'
      · have h : key ≠ key' := fun h => hb (hb'.trans h.symm)
        simp [changeCell, bucket_cons, hb', h, Ne.symm h]
      · simp [changeCell, bucket_cons, hb, hb', ih]

/-- A change to a cell adds the key of its bucket at the end if it is new. -/
theorem map_dimension_changeCell (n : Nat) (key : String) (i : Nat)
    (change : VariationResult → VariationResult) (buckets : List DimensionResult) :
    (changeCell n key i change buckets).map (·.dimension) =
      if key ∈ buckets.map (·.dimension) then buckets.map (·.dimension)
      else buckets.map (·.dimension) ++ [key] := by
  induction buckets with
  | nil => simp [changeCell]
  | cons b rest ih =>
    by_cases hb : b.dimension = key
    · simp [changeCell, hb]
    · simp only [changeCell, hb, if_false, List.map_cons, ih, List.mem_cons, Ne.symm hb, false_or]
      split <;> simp

/-- Where no two buckets have the same key, every bucket is found under its own. -/
theorem bucket_of_mem (n : Nat) {buckets : List DimensionResult}
    (h : (buckets.map (·.dimension)).Nodup) {b : DimensionResult} (hb : b ∈ buckets) :
    bucket n b.dimension buckets = b.variations := by
  induction buckets with
  | nil => simp at hb
  | cons d rest ih =>
    obtain ⟨hd, hrest⟩ := List.nodup_cons.mp h
    rw [bucket_cons]
    rcases List.mem_cons.mp hb with rfl | hb
    · simp
    · have hne : d.dimension ≠ b.dimension := fun heq =>
        hd (List.mem_map.mpr ⟨b, hb, heq.symm⟩)
      rw [if_neg hne, ih hrest hb]

/-! ### Keys in order -/

theorem eraseDups_concat (keys : List String) (key : String) :
    (keys ++ [key]).eraseDups =
      if key ∈ keys.eraseDups then keys.eraseDups else keys.eraseDups ++ [key] := by
  rw [List.eraseDups_append]
  by_cases h : key ∈ keys <;> simp [h, List.removeAll, List.eraseDups_cons]

theorem nodup_eraseDups (keys : List String) : keys.eraseDups.Nodup := by
  induction keys using List.reverseRecOn with
  | nil => simp
  | append_singleton keys key ih =>
    rw [eraseDups_concat]
    split
    · exact ih
    · rename_i h
      refine List.nodup_append.mpr ⟨ih, by simp, fun a ha b hb => ?_⟩
      obtain rfl : b = key := by simpa using hb
      exact fun heq => h (heq ▸ ha)

/-! ### Runs -/

/-- All that a step can do. -/
theorem Context.step_eq_ok {c : Context} {s s' : State} {item : Item} (h : c.step s item = .ok s') :
    (c.place item.row = none ∧
      s' = { s with warnings := s.warnings ++ [c.warning item.row] }) ∨
    ∃ i change, c.place item.row = some i ∧ item.change = .ok change ∧
      s' = { s with
        buckets := changeCell c.variations (dimensionKey item.row) i change s.buckets } := by
  unfold Context.step at h
  split at h
  · rename_i hp
    exact .inl ⟨hp, (Except.ok.inj h).symm⟩
  · rename_i i hp
    obtain ⟨change, hc, hs⟩ := Except.bind_eq_ok.mp h
    exact .inr ⟨i, change, hp, hc, (Except.pure_eq_ok.mp hs).symm⟩

theorem Context.run_cons_eq_none {c : Context} {s s' : State} {item : Item} {rest : List Item}
    (h : c.run s (item :: rest) = (s', none)) :
    ∃ s1, c.step s item = .ok s1 ∧ c.run s1 rest = (s', none) := by
  unfold Context.run at h
  cases hs : c.step s item with
  | error f => simp [hs] at h
  | ok s1 => exact ⟨s1, rfl, by simpa [hs] using h⟩

/-- A run without a fault is one over the items before any point and one over those after it. -/
theorem Context.run_append_eq_none {c : Context} {s s' : State} {items rest : List Item}
    (h : c.run s (items ++ rest) = (s', none)) :
    ∃ s1, c.run s items = (s1, none) ∧ c.run s1 rest = (s', none) := by
  induction items generalizing s with
  | nil => exact ⟨s, rfl, h⟩
  | cons item items ih =>
    obtain ⟨s1, hstep, hrun⟩ := c.run_cons_eq_none h
    obtain ⟨s2, hitems, hrest⟩ := ih hrun
    exact ⟨s2, by simp [Context.run, hstep, hitems], hrest⟩

/-- The state is what the items done so far make of no buckets: every cell holds what its own items
make of it, the keys are in the order of their first items, and the warnings in the order of the
items that have no cell. -/
structure Reflects (c : Context) (done : List Item) (s : State) : Prop where
  keys : s.buckets.map (·.dimension) = (c.keysOf (done.map Item.row)).eraseDups
  length : ∀ key, (bucket c.variations key s.buckets).length = c.variations
  cells : ∀ key i, i < c.variations →
    ∃ r, (bucket c.variations key s.buckets)[i]? = some r ∧ c.content key i done = .ok r
  warnings : s.warnings = ((done.map Item.row).filter (c.cell? · = none)).map c.warning

theorem Reflects.start (c : Context) : Reflects c [] ⟨[], []⟩ where
  keys := rfl
  length _ := length_emptyCells c.variations
  cells _ _ hi := ⟨_, getElem?_emptyCells hi, rfl⟩
  warnings := rfl

theorem replay_concat (i : Nat) (items : List Item) (item : Item) :
    replay i (items ++ [item]) = replay i items >>= fun r => item.change.map (· r) := by
  simp [replay, List.foldlM_append]

theorem Context.content_concat (c : Context) (key : String) (i : Nat) (done : List Item)
    (item : Item) :
    c.content key i (done ++ [item]) =
      if c.cell? item.row = some (key, i) then
        c.content key i done >>= fun r => item.change.map (· r)
      else c.content key i done := by
  by_cases h : c.cell? item.row = some (key, i) <;>
    simp [Context.content, List.filter_append, h, replay_concat]

theorem Reflects.skip {c : Context} {done : List Item} {s : State} (h : Reflects c done s)
    {item : Item} (hp : c.place item.row = none) :
    Reflects c (done ++ [item]) { s with warnings := s.warnings ++ [c.warning item.row] } := by
  have hcell : c.cell? item.row = none := by simp [Context.cell?, hp]
  constructor
  · simp [h.keys, Context.keysOf, hcell]
  · exact h.length
  · intro key i hi
    rw [c.content_concat, hcell, if_neg (by simp)]
    exact h.cells key i hi
  · simp [h.warnings, hcell]

theorem Reflects.change {c : Context} {done : List Item} {s : State} (h : Reflects c done s)
    {item : Item} {i : Fin c.variations} {change : VariationResult → VariationResult}
    (hp : c.place item.row = some i) (hc : item.change = .ok change) :
    Reflects c (done ++ [item]) { s with
      buckets := changeCell c.variations (dimensionKey item.row) i change s.buckets } := by
  have hcell : c.cell? item.row = some (dimensionKey item.row, i.val) := by
    simp [Context.cell?, hp]
  constructor
  · have hkeys : c.keysOf ((done ++ [item]).map Item.row) =
        c.keysOf (done.map Item.row) ++ [dimensionKey item.row] := by
      simp [Context.keysOf, hcell]
    rw [hkeys, eraseDups_concat, map_dimension_changeCell, h.keys]
  · intro key
    rw [bucket_changeCell]
    split <;> simp [h.length]
  · intro key j hj
    obtain ⟨r, hr, hcontent⟩ := h.cells key j hj
    rw [bucket_changeCell, c.content_concat, hcell]
    by_cases hkey : dimensionKey item.row = key
    · subst hkey
      rw [if_pos rfl, List.getElem?_modify, hr]
      by_cases hij : i.val = j
      · exact ⟨change r, by simp [hij], by simp [hij, hcontent, hc, bind, Except.bind, Except.map]⟩
      · exact ⟨r, by simp [hij], by simp [hij, hcontent]⟩
    · exact ⟨r, by simp [hkey, hr], by simp [hkey, hcontent]⟩
  · simp [h.warnings, hcell]

theorem Reflects.step {c : Context} {done : List Item} {s s' : State} {item : Item}
    (h : Reflects c done s) (hs : c.step s item = .ok s') : Reflects c (done ++ [item]) s' := by
  obtain ⟨hp, rfl⟩ | ⟨i, change, hp, hc, rfl⟩ := c.step_eq_ok hs
  · exact h.skip hp
  · exact h.change hp hc

theorem Reflects.run {c : Context} {done items : List Item} {s s' : State} (h : Reflects c done s)
    (hrun : c.run s items = (s', none)) : Reflects c (done ++ items) s' := by
  induction items generalizing done s with
  | nil =>
    obtain rfl : s = s' := by simpa [Context.run] using hrun
    simpa using h
  | cons item rest ih =>
    obtain ⟨s1, hstep, hrest⟩ := c.run_cons_eq_none hrun
    simpa using ih (h.step hstep) hrest

/-! ### What a cell holds -/

def usersRowsOf (items : List Item) : List Row :=
  items.filterMap fun item =>
    match item with
    | .users row => some row
    | .metric _ _ => none

/-- The rows of metrics among items, each with its metric. -/
def metricRowsOf (items : List Item) : List (String × Row) :=
  items.filterMap fun item =>
    match item with
    | .users _ => none
    | .metric id row => some (id, row)

/-- The users in the last of some rows; without a row there are none. -/
def lastUsers (rows : List Row) : Except Fault Int :=
  match rows.getLast? with
  | some row => Cell.toInt (row.get "users")
  | none => .ok 0

/-- The records of rows with their metrics, in order. -/
def records (rows : List (String × Row)) : Except Fault (List VariationMetric) :=
  rows.mapM fun (id, row) => record id row

theorem lastUsers_concat (rows : List Row) (row : Row) :
    lastUsers (rows ++ [row]) = Cell.toInt (row.get "users") := by
  simp [lastUsers]

theorem change_users_eq_ok {row : Row} {change : VariationResult → VariationResult}
    (h : (Item.users row).change = .ok change) :
    ∃ users, Cell.toInt (row.get "users") = .ok users ∧ change = fun r => { r with users } := by
  simp only [Item.change, Except.bind_eq_ok, Except.pure_eq_ok] at h
  obtain ⟨users, hu, rfl⟩ := h
  exact ⟨users, hu, rfl⟩

theorem change_metric_eq_ok {id : String} {row : Row} {change : VariationResult → VariationResult}
    (h : (Item.metric id row).change = .ok change) :
    ∃ m, record id row = .ok m ∧ change = fun r => { r with metrics := r.metrics ++ [m] } := by
  simp only [Item.change, Except.bind_eq_ok, Except.pure_eq_ok] at h
  obtain ⟨count, hcount, mean, hmean, stddev, hstddev, rfl⟩ := h
  refine ⟨⟨id, count, mean, stddev⟩, ?_, rfl⟩
  simp only [record, Except.bind_eq_ok, Except.pure_eq_ok]
  exact ⟨count, hcount, mean, hmean, stddev, hstddev, rfl⟩

theorem records_concat {rows : List (String × Row)} {ms : List VariationMetric} {id : String}
    {row : Row} {m : VariationMetric} (hms : records rows = .ok ms) (hm : record id row = .ok m) :
    records (rows ++ [(id, row)]) = .ok (ms ++ [m]) := by
  rw [records, Except.mapM_eq_ok] at hms ⊢
  exact List.rel_append hms (.cons hm .nil)

/-- What items make of an empty cell: its position, the users in the last users row, and a record
for each metric row in order. -/
theorem replay_eq_ok {i : Nat} {items : List Item} {r : VariationResult}
    (h : replay i items = .ok r) :
    r.variation = i ∧ lastUsers (usersRowsOf items) = .ok r.users ∧
      records (metricRowsOf items) = .ok r.metrics := by
  induction items using List.reverseRecOn generalizing r with
  | nil =>
    obtain rfl : VariationResult.mk i 0 [] = r := by simpa [replay, pure, Except.pure] using h
    exact ⟨rfl, rfl, rfl⟩
  | append_singleton items item ih =>
    rw [replay_concat] at h
    obtain ⟨r0, h0, h⟩ := Except.bind_eq_ok.mp h
    obtain ⟨change, hc, rfl⟩ := Except.map_eq_ok.mp h
    obtain ⟨hvariation, husers, hmetrics⟩ := ih h0
    cases item with
    | users row =>
      obtain ⟨users, hu, rfl⟩ := change_users_eq_ok hc
      refine ⟨hvariation, ?_, by simpa [metricRowsOf] using hmetrics⟩
      simp [usersRowsOf, lastUsers_concat, hu]
    | metric id row =>
      obtain ⟨m, hm, rfl⟩ := change_metric_eq_ok hc
      refine ⟨hvariation, by simpa [usersRowsOf] using husers, ?_⟩
      simpa [metricRowsOf] using records_concat hmetrics hm

end SplitTest.Merge
