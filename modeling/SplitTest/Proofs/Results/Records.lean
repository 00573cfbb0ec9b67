import SplitTest.Proofs.Results.Counts
import SplitTest.Proofs.Results.NumberCells
import SplitTest.Session

/-! The results that an analysis returns.  Whatever the rows, a bucket has a cell for each variation
of the experiment, at its position, and every record in a cell is that of a metric of the analysis
and holds finite numbers. -/

namespace SplitTest

namespace Merge

theorem isFinite_of_record {id : String} {row : Row} {m : VariationMetric}
    (h : record id row = .ok m) : m.mean.isFinite = true ∧ m.stddev.isFinite = true := by
  simp only [record, Except.bind_eq_ok, Except.pure_eq_ok] at h
  obtain ⟨count, -, mean, hmean, stddev, hstddev, rfl⟩ := h
  exact ⟨Cell.isFinite_of_toDouble hmean, Cell.isFinite_of_toDouble hstddev⟩

theorem exists_of_records {rows : List (String × Row)} {ms : List VariationMetric}
    (h : records rows = .ok ms) {m : VariationMetric} (hm : m ∈ ms) :
    ∃ item ∈ rows, record item.1 item.2 = .ok m := by
  rw [records, Except.mapM_eq_ok] at h
  exact Except.exists_of_forall₂ h.flip m hm

theorem exists_of_mem_metricRowsOf {items : List Item} {item : String × Row}
    (h : item ∈ metricRowsOf items) : .metric item.1 item.2 ∈ items := by
  obtain ⟨i, hi, hitem⟩ := List.mem_filterMap.mp h
  cases i with
  | users row => cases hitem
  | metric id row =>
    obtain rfl := Option.some.inj hitem
    exact hi

theorem mem_of_metric_mem_items {id : String} {row : Row} {metricIds : List String}
    {metricRows : List (List Row)} {usersRows : List Row}
    (h : .metric id row ∈ items metricIds metricRows usersRows) : id ∈ metricIds := by
  rcases List.mem_append.mp h with husers | hmetric
  · obtain ⟨row', -, heq⟩ := List.mem_map.mp husers
    cases heq
  · obtain ⟨⟨id', rows⟩, hpair, hitem⟩ := List.mem_flatMap.mp hmetric
    obtain ⟨row', -, heq⟩ := List.mem_map.mp hitem
    obtain ⟨rfl, rfl⟩ := Item.metric.inj heq
    exact (List.of_mem_zip hpair).1

/-- What the results of a merge are like, whatever its rows. -/
structure WellFormed (variations : Nat) (metricIds : List String)
    (buckets : List DimensionResult) : Prop where
  /-- Every bucket has a cell for each variation, at its position. -/
  positions : ∀ d ∈ buckets, d.variations.map (·.variation) = (List.range variations).map Int.ofNat
  /-- Every record is that of a metric and holds finite numbers. -/
  records : ∀ d ∈ buckets, ∀ v ∈ d.variations, ∀ m ∈ v.metrics,
    m.metric ∈ metricIds ∧ m.mean.isFinite = true ∧ m.stddev.isFinite = true

theorem wellFormed_of_merge {c : Context} {metricIds : List String} {metricRows : List (List Row)}
    {usersRows : List Row} {s : State} (h : c.merge metricIds metricRows usersRows = (s, none)) :
    WellFormed c.variations metricIds s.buckets := by
  have hs : Reflects c (items metricIds metricRows usersRows) s := (Reflects.start c).run h
  refine ⟨fun d hd => hs.map_variation hd, fun d hd v hv m hm => ?_⟩
  obtain ⟨i, hi⟩ := List.mem_iff_getElem?.mp hv
  obtain ⟨-, -, hrecords⟩ := replay_eq_ok (hs.cell_of_mem hd hi)
  obtain ⟨⟨id, row⟩, hitem, hrecord⟩ := exists_of_records hrecords hm
  obtain rfl := metric_of_record hrecord
  have hmem := List.mem_of_mem_filter (exists_of_mem_metricRowsOf hitem)
  exact ⟨mem_of_metric_mem_items hmem, isFinite_of_record hrecord⟩

end Merge

namespace Plan

theorem exists_merge_of_conclude {s : Source} {c : AnalysisConfig} {texts : List String}
    {answers : List (List Row)} {r : ExperimentResults}
    (h : (concludeExperiment s c texts answers).outcome = .ok (.experiment r)) :
    ∃ metricRows usersRows state,
      (Merge.Context.ofExperiment s.settings c.experiment).merge (c.metrics.map (·.id)) metricRows
        usersRows = (state, none) ∧ r.results = state.buckets := by
  unfold concludeExperiment at h
  cases hmerge : (Merge.Context.ofExperiment s.settings c.experiment).merge (c.metrics.map (·.id))
      answers.dropLast (answers.getLast?.getD []) with
  | mk state fault =>
    cases fault with
    | some f => simp [hmerge] at h
    | none =>
      simp only [hmerge, Except.ok.injEq, Reply.experiment.injEq] at h
      obtain rfl := h
      exact ⟨_, _, state, hmerge, rfl⟩

theorem wellFormed_of_conclude {s : Source} {c : AnalysisConfig} {texts : List String}
    {answers : List (List Row)} {r : ExperimentResults}
    (h : (concludeExperiment s c texts answers).outcome = .ok (.experiment r)) :
    Merge.WellFormed c.experiment.variations.length (c.metrics.map (·.id)) r.results := by
  obtain ⟨metricRows, usersRows, state, hmerge, hresults⟩ := exists_merge_of_conclude h
  rw [hresults]
  exact Merge.wellFormed_of_merge hmerge

theorem conclude_of_experiment {s : Source} {c : AnalysisConfig} {now : Nat → DateTime}
    {plan : Plan}
    (h : ofRequest s (.experimentResults c now) = .ok plan) :
    plan.conclude = concludeExperiment s c plan.queries := by
  obtain ⟨metrics, -, h⟩ := Except.bind_eq_ok.mp h
  obtain ⟨users, -, h⟩ := Except.bind_eq_ok.mp h
  obtain rfl := Except.pure_eq_ok.mp h
  rfl

end Plan

namespace Session

variable {s : Session} {request : Request}

theorem outcome_of_answers {plan : Plan} {answers : List (List Row)}
    (hplan : Plan.ofRequest s.source request = .ok plan)
    (hanswers : (ForkJoin.run (s.nextAnswers plan.queries.length)).result = .ok answers) :
    (s.step request).2.outcome = (plan.conclude answers).outcome := by
  simp only [step, hplan, hanswers]

theorem exists_answers_of_step {reply : Reply} (h : (s.step request).2.outcome = .ok reply) :
    ∃ plan answers, Plan.ofRequest s.source request = .ok plan ∧
      (plan.conclude answers).outcome = .ok reply := by
  unfold step at h
  split at h
  · cases h
  · rename_i plan hplan
    simp only at h
    split at h
    · cases h
    · exact ⟨plan, _, hplan, h⟩

/-- The results that a session returns are well formed. -/
theorem wellFormed_of_step {c : AnalysisConfig} {now : Nat → DateTime} {r : ExperimentResults}
    (h : (s.step (.experimentResults c now)).2.outcome = .ok (.experiment r)) :
    Merge.WellFormed c.experiment.variations.length (c.metrics.map (·.id)) r.results := by
  obtain ⟨plan, answers, hplan, hconclude⟩ := exists_answers_of_step h
  rw [Plan.conclude_of_experiment hplan] at hconclude
  exact Plan.wellFormed_of_conclude hconclude

end Session

end SplitTest
