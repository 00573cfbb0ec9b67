import SplitTest.Proofs.ForkJoin.Outcome
import SplitTest.Proofs.Results.Counts
import SplitTest.Proofs.Results.Records

/-! The report of an experiment.  `Lines` says which lines a report has, without reference to how
they are put together.  Well formed results have a report, so every analysis of text rows has one:
the positions in its results are those of the experiment's variations, and the metrics of its
records are those of the analysis. -/

namespace SplitTest

namespace Report

open Text

/-! ### The lines of a report -/

/-- The metric is the last one with the id. -/
def IsLast (metrics : List MetricDefinition) (id : String) (metric : MetricDefinition) : Prop :=
  ∃ before after, metrics = before ++ metric :: after ∧ metric.id = id ∧ ∀ m ∈ after, m.id ≠ id

/-- The line of a record, under the name of its metric. -/
inductive RecordLine (metrics : List MetricDefinition) (m : VariationMetric) : String → Prop
  | intro {metric : MetricDefinition} (h : IsLast metrics m.metric metric) :
      RecordLine metrics m ("    " ++ padRight 24 metric.name ++
        " count=" ++ padRight 8 (toString m.count) ++
        " mean=" ++ padRight 12 (m.mean.fixed 4) ++ " stddev=" ++ m.stddev.fixed 4)

/-- The lines of a variation: its own key and users, and a line for each record. -/
inductive VariationLines (e : ExperimentDefinition) (metrics : List MetricDefinition)
    (v : VariationResult) : List String → Prop
  | intro {i : Nat} {variation : Variation} {records : List String} (hi : v.variation = i)
      (hvariation : e.variations[i]? = some variation)
      (hrecords : List.Forall₂ (RecordLine metrics) v.metrics records) :
      VariationLines e metrics v (("  Variation " ++ toString i ++ " (" ++ variation.key ++ "): " ++
        toString v.users ++ " users") :: records)

/-- The lines of a bucket: a blank line, its dimension, and the lines of each variation, the
variations being those of the experiment in order. -/
inductive BucketLines (e : ExperimentDefinition) (metrics : List MetricDefinition)
    (d : DimensionResult) : List String → Prop
  | intro {variations : List (List String)}
      (hpositions : d.variations.map (·.variation) =
        (List.range e.variations.length).map Int.ofNat)
      (hvariations : List.Forall₂ (VariationLines e metrics) d.variations variations) :
      BucketLines e metrics d ("" :: ("DIMENSION: " ++ d.dimension) :: variations.flatten)

/-- The lines of a report: three lines at its head, the lines of each bucket or a line that says
that there are none, and a rule. -/
inductive Lines (e : ExperimentDefinition) (metrics : List MetricDefinition) :
    List DimensionResult → List String → Prop
  | empty : Lines e metrics [] [rule, "EXPERIMENT: " ++ e.trackingKey, rule, "  No data", rule]
  | buckets {results : List DimensionResult} {buckets : List (List String)} (hne : results ≠ [])
      (hbuckets : List.Forall₂ (BucketLines e metrics) results buckets) :
      Lines e metrics results
        ([rule, "EXPERIMENT: " ++ e.trackingKey, rule] ++ buckets.flatten ++ [rule])

/-! ### Names and variations -/

theorem IsLast.metricName_eq {metrics : List MetricDefinition} {id : String}
    {metric : MetricDefinition} (h : IsLast metrics id metric) :
    metricName metrics id = metric.name := by
  obtain ⟨before, after, rfl, hid, hafter⟩ := h
  have hnone : after.filter (·.id = id) = [] := by simpa [List.filter_eq_nil_iff] using hafter
  simp [metricName, List.filter_append, hid, hnone]

/-- A metric with the id is followed by a last one. -/
theorem exists_isLast {metrics : List MetricDefinition} {id : String}
    (h : id ∈ metrics.map (·.id)) : ∃ metric, IsLast metrics id metric := by
  induction metrics with
  | nil => cases h
  | cons m rest ih =>
    by_cases hrest : id ∈ rest.map (·.id)
    · obtain ⟨metric, before, after, rfl, hmetric⟩ := ih hrest
      exact ⟨metric, m :: before, after, rfl, hmetric⟩
    · have hid : m.id = id := by
        rcases List.mem_cons.mp h with hm | hm
        · exact hm.symm
        · exact absurd hm hrest
      refine ⟨m, [], rest, rfl, hid, fun n hn heq => hrest ?_⟩
      exact List.mem_map.mpr ⟨n, hn, heq⟩

theorem variationAt_natCast {e : ExperimentDefinition} {i : Nat} {variation : Variation}
    (h : e.variations[i]? = some variation) : variationAt e i = .ok variation := by
  have hi : ¬(i : Int) < 0 := by omega
  simp [variationAt, elementAt, elementAt.pick, hi, h]

/-! ### Reports of well formed results -/

section WellFormed

variable {e : ExperimentDefinition} {metrics : List MetricDefinition}

theorem recordLine_metricLine {m : VariationMetric} (h : m.metric ∈ metrics.map (·.id)) :
    RecordLine metrics m (metricLine metrics m) := by
  obtain ⟨metric, hlast⟩ := exists_isLast h
  rw [metricLine, hlast.metricName_eq]
  exact .intro hlast

theorem exists_variationLines {v : VariationResult} {i : Nat} (hi : v.variation = i)
    (hlt : i < e.variations.length) (h : ∀ m ∈ v.metrics, m.metric ∈ metrics.map (·.id)) :
    ∃ lines, variationLines e metrics v = .ok lines ∧ VariationLines e metrics v lines := by
  have hvariation := List.getElem?_eq_getElem hlt
  have hrecords : List.Forall₂ (RecordLine metrics) v.metrics
      (v.metrics.map (metricLine metrics)) := by
    rw [List.forall₂_map_right_iff, List.forall₂_same]
    exact fun m hm => recordLine_metricLine (h m hm)
  refine ⟨_, ?_, .intro hi hvariation hrecords⟩
  rw [variationLines, hi, variationAt_natCast hvariation]
  rfl

theorem exists_dimensionLines {d : DimensionResult}
    (hpositions : d.variations.map (·.variation) = (List.range e.variations.length).map Int.ofNat)
    (h : ∀ v ∈ d.variations, ∀ m ∈ v.metrics, m.metric ∈ metrics.map (·.id)) :
    ∃ lines, dimensionLines e metrics d = .ok lines ∧ BucketLines e metrics d lines := by
  have hlines : ∀ v ∈ d.variations, ∃ lines,
      variationLines e metrics v = .ok lines ∧ VariationLines e metrics v lines := by
    intro v hv
    have hmem : v.variation ∈ (List.range e.variations.length).map Int.ofNat :=
      hpositions ▸ List.mem_map_of_mem hv
    obtain ⟨i, hi, hposition⟩ := List.mem_map.mp hmem
    exact exists_variationLines hposition.symm (List.mem_range.mp hi) (h v hv)
  obtain ⟨variations, hread, hvariations⟩ := Except.exists_mapM_forall₂ hlines
  refine ⟨_, ?_, .intro hpositions hvariations⟩
  rw [dimensionLines, hread]
  rfl

/-- Well formed results have a report. -/
theorem exists_experiment {results : List DimensionResult}
    (h : Merge.WellFormed e.variations.length (metrics.map (·.id)) results) :
    ∃ lines, experiment e metrics results = .ok ("\n".intercalate lines) ∧
      Lines e metrics results lines := by
  obtain ⟨buckets, hread, hbuckets⟩ := Except.exists_mapM_forall₂ fun d hd =>
    exists_dimensionLines (h.positions d hd) fun v hv m hm => (h.records d hd v hv m hm).1
  cases results with
  | nil =>
    cases hbuckets
    exact ⟨_, rfl, .empty⟩
  | cons d rest =>
    refine ⟨_, ?_, .buckets (List.cons_ne_nil d rest) hbuckets⟩
    rw [experiment, experimentLines, hread]
    rfl

end WellFormed

/-- An answer of text rows. -/
def IsTextAnswer (b : Branch (List Row)) : Prop :=
  ∃ rows, b.outcome = .ok rows ∧ ∀ row ∈ rows, row.isText = true

theorem exists_result_of_text_answers {branches : List (Branch (List Row))}
    (h : ∀ b ∈ branches, IsTextAnswer b) :
    ∃ answers, (ForkJoin.run branches).result = .ok answers ∧
      ∀ rows ∈ answers, ∀ row ∈ rows, row.isText = true := by
  have hwell : ∀ b ∈ branches, b.fails = false := by
    intro b hb
    obtain ⟨rows, hrows, -⟩ := h b hb
    rw [Branch.fails, hrows]
  refine ⟨_, ForkJoin.run_of_well hwell, fun rows hrows => ?_⟩
  obtain ⟨b, hb, houtcome⟩ := List.mem_filterMap.mp hrows
  obtain ⟨rows', hrows', htext⟩ := h b hb
  rw [hrows'] at houtcome
  obtain rfl := Option.some.inj houtcome
  exact htext

/-- An analysis whose answers are text rows returns results, and the report of these has the lines
that it should have. -/
theorem experiment_of_text_rows {s : Session} {c : AnalysisConfig} {now : Nat → DateTime}
    {plan : Plan}
    (hplan : Plan.ofRequest s.source (.experimentResults c now) = .ok plan)
    (htext : ∀ b ∈ s.nextAnswers plan.queries.length, IsTextAnswer b) :
    ∃ r lines, (s.step (.experimentResults c now)).2.outcome = .ok (.experiment r) ∧
      experiment c.experiment c.metrics r.results = .ok ("\n".intercalate lines) ∧
      Lines c.experiment c.metrics r.results lines := by
  obtain ⟨answers, hanswers, hrows⟩ := exists_result_of_text_answers htext
  have husers : ∀ row ∈ answers.getLast?.getD [], row.isText = true := by
    cases hlast : answers.getLast? with
    | none => exact List.forall_mem_nil _
    | some rows => exact hrows rows (List.mem_of_getLast? hlast)
  have hmetrics : ∀ rows ∈ answers.dropLast, ∀ row ∈ rows, row.isText = true :=
    fun rows hmem => hrows rows ((List.dropLast_sublist answers).subset hmem)
  have hmerges := (Merge.Context.ofExperiment s.source.settings c.experiment).merge_of_isText
    (c.metrics.map (·.id)) husers hmetrics
  obtain ⟨state, hmerge⟩ := hmerges
  obtain ⟨lines, hreport, hlines⟩ := exists_experiment (Merge.wellFormed_of_merge hmerge)
  refine ⟨⟨state.buckets, Audit.script plan.queries⟩, lines, ?_, hreport, hlines⟩
  rw [Session.outcome_of_answers hplan hanswers, Plan.conclude_of_experiment hplan,
    Plan.concludeExperiment, hmerge]

/-- Two metrics with one id, of which the last gives the name. -/
theorem experiment_of_text_rows_repeated_id :
    let source : Source := { settings := .builtin, dialect := ⟨.postgres, none, none⟩ }
    let midnight (n : Fin Date.count) : DateTime := ⟨⟨n⟩, ⟨0, by decide⟩, ⟨0, by decide⟩, none⟩
    let c : AnalysisConfig :=
      { experiment := { ExperimentDefinition.minimal "exp" "checkout" ["control", "treatment"] with
          sqlOverride := [("users", "select 1"), ("m", "select 2")] }
        phase := ⟨midnight ⟨738000, by decide⟩, none⟩
        metrics := [.minimal "m" "Orders" .count "orders", .minimal "m" "Purchases" .count "orders"]
        activation := none, dimension := none }
    let now (_ : Nat) := midnight ⟨738001, by decide⟩
    let purchases : List Row := [[("variation", .text "1"), ("count", .text "4")]]
    let people : List Row := [[("variation", .text "1"), ("users", .text "9")]]
    let s : Session :=
      { source, sent := 0, answers := [⟨0, .ok purchases⟩, ⟨0, .ok []⟩, ⟨1, .ok people⟩] }
    ∃ r lines, (s.step (.experimentResults c now)).2.outcome = .ok (.experiment r) ∧
      experiment c.experiment c.metrics r.results = .ok ("\n".intercalate lines) ∧
      Lines c.experiment c.metrics r.results lines := by
  intro source midnight c now purchases people s
  have hcount : (Plan.ofRequest source (.experimentResults c now)).toOption.map
      (·.queries.length) = some 3 := by
    decide +kernel
  obtain ⟨plan, hplan, hlength⟩ : ∃ plan,
      Plan.ofRequest s.source (.experimentResults c now) = .ok plan ∧ plan.queries.length = 3 := by
    cases hplan : Plan.ofRequest source (.experimentResults c now) with
    | error f => simp [hplan, Except.toOption] at hcount
    | ok plan => exact ⟨plan, rfl, by simpa [hplan, Except.toOption] using hcount⟩
  refine experiment_of_text_rows hplan ?_
  rw [hlength, show s.nextAnswers 3 = s.answers from rfl]
  simp only [s, List.forall_mem_cons]
  exact ⟨⟨_, rfl, by decide⟩, ⟨_, rfl, by decide⟩, ⟨_, rfl, by decide⟩, List.forall_mem_nil _⟩

end Report

end SplitTest
