import SplitTest.Proofs.Query.Failure
import SplitTest.Proofs.Session.Law

/-! Overrides and the queries that an analysis sends.  Each query is looked up among the overrides
under a key of its own, the id of its metric or the reserved key of the users query, and reads no
other override.  The keys are those of one map, so a metric may have the reserved key as its id. -/

namespace SplitTest

/-! ### Other overrides -/

section

variable (overrides : List (String × String))

/-- The same analysis of an experiment with other overrides. -/
def Analysis.withOverrides (a : Analysis) : Analysis :=
  { a with experiment := { a.experiment with sqlOverride := overrides } }

/-- The same document for an experiment with other overrides. -/
def AnalysisConfig.withOverrides (c : AnalysisConfig) : AnalysisConfig :=
  { c with experiment := { c.experiment with sqlOverride := overrides } }

end

variable {overrides : List (String × String)}

theorem Analysis.override_withOverrides {a : Analysis} {key : String} (d : Dialect)
    (h : overrides.lookup key = a.experiment.sqlOverride.lookup key) :
    (a.withOverrides overrides).experiment.override d a.phase key a.now =
      a.experiment.override d a.phase key a.now := by
  unfold ExperimentDefinition.override
  rw [← h]
  rfl

theorem Source.experimentUsersQuery_withOverrides (s : Source) {a : Analysis}
    (h : overrides.lookup Analysis.usersKey =
      a.experiment.sqlOverride.lookup Analysis.usersKey) :
    s.experimentUsersQuery (a.withOverrides overrides) = s.experimentUsersQuery a := by
  unfold experimentUsersQuery
  rw [← a.override_withOverrides s.dialect h]
  rfl

theorem Source.experimentMetricQuery_withOverrides (s : Source) {a : Analysis}
    {m : MetricDefinition} (h : overrides.lookup m.id = a.experiment.sqlOverride.lookup m.id) :
    s.experimentMetricQuery (a.withOverrides overrides) m = s.experimentMetricQuery a m := by
  unfold experimentMetricQuery
  rw [← a.override_withOverrides s.dialect h]
  rfl

/-! ### The queries of an analysis -/

namespace AnalysisConfig

/-- The queries of an analysis in the order in which they are sent. -/
def compositions (c : AnalysisConfig) (now : Nat → DateTime) : List Composition :=
  c.metrics.zipIdx.map (fun m => .experimentMetric (c.analysis (now m.2)) m.1) ++
    [.experimentUsers (c.analysis (now c.metrics.length))]

/-- The keys of the queries' overrides, in the same order. -/
def overrideKeys (c : AnalysisConfig) : List String :=
  c.metrics.map (·.id) ++ [Analysis.usersKey]

theorem length_compositions (c : AnalysisConfig) (now : Nat → DateTime) :
    (c.compositions now).length = c.metrics.length + 1 := by
  simp [compositions]

theorem getElem?_overrideKeys {c : AnalysisConfig} {i : Nat} {key : String} :
    c.overrideKeys[i]? = some key ↔
      (c.metrics.map (·.id))[i]? = some key ∨ i = c.metrics.length ∧ key = Analysis.usersKey := by
  rcases Nat.lt_or_ge i c.metrics.length with hlt | hge
  · rw [overrideKeys, List.getElem?_append_left (by simpa), or_iff_left]
    omega
  · have hnone : (c.metrics.map (·.id))[i]? = none := List.getElem?_eq_none (by simpa)
    rw [overrideKeys, List.getElem?_append_right (by simpa), hnone, List.length_map,
      List.getElem?_singleton]
    simp [show i - c.metrics.length = 0 ↔ i = c.metrics.length by omega, eq_comm]

/-- A key has one position, since the ids of the metrics are different and none of them is the key
of the users query. -/
theorem eq_of_getElem?_overrideKeys {c : AnalysisConfig} {i j : Nat} {key : String}
    (hids : (c.metrics.map (·.id)).Nodup)
    (hkey : key = Analysis.usersKey → key ∉ c.metrics.map (·.id))
    (hi : c.overrideKeys[i]? = some key) (hj : c.overrideKeys[j]? = some key) : i = j := by
  rcases getElem?_overrideKeys.mp hi with hi | ⟨rfl, husers⟩ <;>
    rcases getElem?_overrideKeys.mp hj with hj | ⟨rfl, husers'⟩
  · obtain ⟨hlt, -⟩ := List.getElem?_eq_some_iff.mp hi
    exact (List.getElem?_inj hlt hids).mp (hi.trans hj.symm)
  · exact absurd (List.mem_of_getElem? hi) (hkey husers')
  · exact absurd (List.mem_of_getElem? hj) (hkey husers)
  · rfl

/-- The definitions are ones that documents are accepted as. -/
structure IsAccepted (c : AnalysisConfig) : Prop where
  analysis : ∀ now, (c.analysis now).IsAccepted
  metrics : ∀ m ∈ c.metrics, ∃ v, MetricDefinition.read v = .ok m

end AnalysisConfig

namespace Source

variable (s : Source) (c : AnalysisConfig) (now : Nat → DateTime)

/-- The texts of the queries of an analysis, if all can be composed. -/
def queryTexts : Except Fault (List String) :=
  ((c.compositions now).mapM s.compose).map (List.map Sql.text)

theorem map_queries_experiment :
    (Plan.experiment s c now).map Plan.queries = s.queryTexts c now := by
  have hmetrics : (c.metrics.zipIdx.map fun m =>
        .experimentMetric (c.analysis (now m.2)) m.1).mapM s.compose =
      c.metrics.zipIdx.mapM fun m => s.experimentMetricQuery (c.analysis (now m.2)) m.1 :=
    List.mapM_map
  have husers (a : Analysis) : [Composition.experimentUsers a].mapM s.compose =
      (s.experimentUsersQuery a).map List.singleton := by
    cases h : s.experimentUsersQuery a <;> simp [compose, h] <;> rfl
  unfold queryTexts AnalysisConfig.compositions Plan.experiment
  rw [List.mapM_append, hmetrics, husers]
  cases c.metrics.zipIdx.mapM
      fun m => s.experimentMetricQuery (c.analysis (now m.2)) m.1 with
  | error f => rfl
  | ok metrics => cases s.experimentUsersQuery (c.analysis (now c.metrics.length)) <;> rfl

variable {s c now}

theorem map_ok_of_queryTexts {texts : List String} (h : s.queryTexts c now = .ok texts) :
    texts.map .ok = ((c.compositions now).map s.compose).map (Except.map Sql.text) := by
  obtain ⟨queries, hqueries, rfl⟩ := Except.map_eq_ok.mp h
  have hcomposed : (c.compositions now).map s.compose = queries.map .ok := by
    rw [← List.forall₂_eq_eq_eq, List.forall₂_map_left_iff, List.forall₂_map_right_iff]
    exact Except.mapM_eq_ok.mp hqueries
  rw [hcomposed, List.map_map, List.map_map]
  rfl

/-- A query is the same for other overrides that agree with the first at its own key. -/
theorem compose_withOverrides {k : String}
    (h : ∀ key ≠ k, overrides.lookup key = c.experiment.sqlOverride.lookup key) {i : Nat}
    (hi : c.overrideKeys[i]? ≠ some k) :
    (((c.withOverrides overrides).compositions now).map s.compose)[i]? =
      ((c.compositions now).map s.compose)[i]? := by
  have hlists (c : AnalysisConfig) : (c.compositions now).map s.compose =
      c.metrics.zipIdx.map (fun m => s.experimentMetricQuery (c.analysis (now m.2)) m.1) ++
        [s.experimentUsersQuery (c.analysis (now c.metrics.length))] := by
    simp only [AnalysisConfig.compositions, List.map_append, List.map_map]
    rfl
  have hanalysis (t : DateTime) : (c.withOverrides overrides).analysis t =
    (c.analysis t).withOverrides overrides := rfl
  have hmetrics : (c.withOverrides overrides).metrics = c.metrics := rfl
  simp only [hlists, hanalysis, hmetrics]
  unfold AnalysisConfig.overrideKeys at hi
  rcases Nat.lt_or_ge i c.metrics.length with hlt | hge
  · rw [List.getElem?_append_left (by simpa), List.getElem?_map,
      List.getElem?_eq_getElem hlt] at hi
    rw [List.getElem?_append_left (by simpa), List.getElem?_append_left (by simpa),
      List.getElem?_map, List.getElem?_map, List.getElem?_zipIdx, List.getElem?_eq_getElem hlt]
    have hkey : c.metrics[i].id ≠ k := fun heq => hi (congrArg some heq)
    exact congrArg some (s.experimentMetricQuery_withOverrides (h _ hkey))
  · rw [List.getElem?_append_right (by simpa), List.length_map] at hi
    rw [List.getElem?_append_right (by simpa), List.getElem?_append_right (by simpa),
      List.length_map, List.length_map, List.length_zipIdx]
    cases hposition : i - c.metrics.length with
    | zero =>
      rw [hposition] at hi
      have hkey : Analysis.usersKey ≠ k := fun heq => hi (congrArg some heq)
      exact congrArg some (s.experimentUsersQuery_withOverrides (h _ hkey))
    | succ n => rfl

/-- The texts under two such maps of overrides, where all queries can be composed. -/
theorem queryTexts_withOverrides {k : String} {texts texts' : List String}
    (h : ∀ key ≠ k, overrides.lookup key = c.experiment.sqlOverride.lookup key)
    (htexts : s.queryTexts c now = .ok texts)
    (htexts' : s.queryTexts (c.withOverrides overrides) now = .ok texts') :
    texts.length = texts'.length ∧
      ∀ i : Nat, texts[i]? ≠ texts'[i]? → c.overrideKeys[i]? = some k := by
  have hqueries := map_ok_of_queryTexts htexts
  have hqueries' := map_ok_of_queryTexts htexts'
  constructor
  · have hlength := congrArg List.length hqueries
    have hlength' := congrArg List.length hqueries'
    simp only [List.length_map, AnalysisConfig.length_compositions] at hlength hlength'
    exact hlength.trans hlength'.symm
  · intro i hne
    by_contra hkey
    have hsame : (((c.withOverrides overrides).compositions now).map s.compose)[i]? = _ :=
      compose_withOverrides h hkey
    replace hsame := congrArg (Option.map (Except.map Sql.text)) hsame
    rw [← List.getElem?_map, ← List.getElem?_map, ← hqueries, ← hqueries', List.getElem?_map,
      List.getElem?_map] at hsame
    exact hne (Option.map_injective (fun _ _ => Except.ok.inj) hsame).symm

end Source

/-! ### When they are sent -/

theorem FailsBy.exists_iff {α : Type} {times : List DateTime} {x : Except Fault α}
    (h : FailsBy times x) :
    (∃ a, x = .ok a) ↔ ∀ t ∈ times, ∃ text, Dialect.timestampText t = .ok text := by
  cases x with
  | ok a => exact iff_of_true ⟨a, rfl⟩ h
  | error f =>
    obtain ⟨t, ht, hfault⟩ := h
    refine iff_of_false (fun ⟨_, hok⟩ => nomatch hok) fun hall => ?_
    obtain ⟨text, htext⟩ := hall t ht
    cases hfault.symm.trans htext

/-- Where the time now has a literal or is not needed, an override and a composed query need the
literals of the same times. -/
theorem Analysis.forall_times_iff {a : Analysis} {p : DateTime → Prop}
    (hnow : a.phase.dateEnded = none → p a.now) (key : String) :
    (∀ t ∈ a.times key, p t) ↔ ∀ t ∈ a.phase.dateEnded.toList ++ [a.phase.dateStarted], p t := by
  unfold times
  cases hended : a.phase.dateEnded with
  | none => split <;> simp [hnow hended]
  | some ended => split <;> simp [and_comm]

namespace Source

variable {s : Source} {c : AnalysisConfig} {now : Nat → DateTime}

/-- Any query of accepted definitions can be composed exactly if the start of the phase and its end
have literals. -/
theorem exists_compose_iff (h : c.IsAccepted)
    (hnow : c.phase.dateEnded = none → ∀ i, ∃ text, Dialect.timestampText (now i) = .ok text) :
    ∀ r ∈ c.compositions now, (∃ q, s.compose r = .ok q) ↔
      ∀ t ∈ c.phase.dateEnded.toList ++ [c.phase.dateStarted],
        ∃ text, Dialect.timestampText t = .ok text := by
  refine List.forall_mem_append.mpr ⟨List.forall_mem_map.mpr fun ⟨m, i⟩ hm => ?_,
    List.forall_mem_singleton.mpr ?_⟩
  · have haccepted :
        (QueryRequest.composition (.experimentMetric (c.analysis (now i)) m)).IsAccepted :=
      ⟨h.analysis _, h.metrics m (List.fst_mem_of_mem_zipIdx hm)⟩
    exact (s.answer_failsBy haccepted).exists_iff.trans
      (Analysis.forall_times_iff (fun hended => hnow hended i) m.id)
  · have haccepted : (QueryRequest.composition
        (.experimentUsers (c.analysis (now c.metrics.length)))).IsAccepted :=
      h.analysis _
    exact (s.answer_failsBy haccepted).exists_iff.trans
      (Analysis.forall_times_iff (fun hended => hnow hended _) Analysis.usersKey)

theorem exists_queryTexts_iff (h : c.IsAccepted)
    (hnow : c.phase.dateEnded = none → ∀ i, ∃ text, Dialect.timestampText (now i) = .ok text) :
    (∃ texts, s.queryTexts c now = .ok texts) ↔
      ∀ t ∈ c.phase.dateEnded.toList ++ [c.phase.dateStarted],
        ∃ text, Dialect.timestampText t = .ok text := by
  have hqueries := exists_compose_iff (s := s) h hnow
  constructor
  · rintro ⟨texts, htexts⟩
    obtain ⟨queries, hcomposed, -⟩ := Except.map_eq_ok.mp htexts
    have husers : .experimentUsers (c.analysis (now c.metrics.length)) ∈ c.compositions now :=
      List.mem_append_right _ (List.mem_singleton_self _)
    exact (hqueries _ husers).mp (Except.exists_mapM_iff.mp ⟨queries, hcomposed⟩ _ husers)
  · intro htimes
    obtain ⟨queries, hcomposed⟩ :=
      Except.exists_mapM_iff.mpr fun r hr => (hqueries r hr).mpr htimes
    exact ⟨_, Except.map_eq_ok.mpr ⟨queries, hcomposed, rfl⟩⟩

end Source

namespace Session

variable (s : Session)

/-- The queries that are sent for an analysis. -/
def sentFor (c : AnalysisConfig) (now : Nat → DateTime) : List String :=
  (s.step (.experimentResults c now)).2.queries

theorem sentFor_eq (c : AnalysisConfig) (now : Nat → DateTime) :
    s.sentFor c now = (s.source.queryTexts c now).toOption.getD [] := by
  rw [sentFor, ← Source.map_queries_experiment]
  change _ =
    ((Plan.ofRequest s.source (.experimentResults c now)).map Plan.queries).toOption.getD []
  cases hplan : Plan.ofRequest s.source (.experimentResults c now) with
  | error f =>
    rw [step_of_error hplan]
    rfl
  | ok plan =>
    rw [step_of_ok hplan, Plan.done_queries]
    rfl

/-- Where accepted experiments differ in nothing but the override under one key, as many queries are
sent for the one as for the other, and two queries at the same position are different only if that
key is theirs.  With metrics of different ids this is one position at most, unless the key is the
reserved one of the users query and a metric has it as its id. -/
theorem override_of_own_query (c : AnalysisConfig) (now : Nat → DateTime) (k : String)
    (overrides : List (String × String))
    (hrest : ∀ key ≠ k, overrides.lookup key = c.experiment.sqlOverride.lookup key)
    (haccepted : c.IsAccepted) (haccepted' : (c.withOverrides overrides).IsAccepted)
    (hnow : c.phase.dateEnded = none → ∀ i, ∃ text, Dialect.timestampText (now i) = .ok text) :
    let sent := s.sentFor c now
    let sent' := s.sentFor (c.withOverrides overrides) now
    sent.length = sent'.length ∧
      (∀ i : Nat, sent[i]? ≠ sent'[i]? → c.overrideKeys[i]? = some k) ∧
      ((c.metrics.map (·.id)).Nodup → (k = Analysis.usersKey → k ∉ c.metrics.map (·.id)) →
        ∀ i j : Nat, sent[i]? ≠ sent'[i]? → sent[j]? ≠ sent'[j]? → i = j) := by
  intro sent sent'
  have hown : sent.length = sent'.length ∧
      ∀ i : Nat, sent[i]? ≠ sent'[i]? → c.overrideKeys[i]? = some k := by
    simp only [sent, sent', sentFor_eq]
    have hboth := (Source.exists_queryTexts_iff (s := s.source) haccepted hnow).trans
      (Source.exists_queryTexts_iff (s := s.source) haccepted' hnow).symm
    cases htexts : s.source.queryTexts c now with
    | error f =>
      cases htexts' : s.source.queryTexts (c.withOverrides overrides) now with
      | error f' => exact ⟨rfl, fun i hne => absurd rfl hne⟩
      | ok texts' =>
        obtain ⟨texts, hok⟩ := hboth.mpr ⟨texts', htexts'⟩
        cases htexts.symm.trans hok
    | ok texts =>
      obtain ⟨texts', htexts'⟩ := hboth.mp ⟨texts, htexts⟩
      rw [htexts']
      exact Source.queryTexts_withOverrides hrest htexts htexts'
  exact ⟨hown.1, hown.2, fun hids hkey i j hi hj =>
    AnalysisConfig.eq_of_getElem?_overrideKeys hids hkey (hown.2 i hi) (hown.2 j hj)⟩

/-- An analysis of an experiment without an end by metrics that count events. -/
def signups (ids : List String) (started : DateTime) (overrides : List (String × String)) :
    AnalysisConfig :=
  { experiment := { ExperimentDefinition.minimal "e" "exp" ["control", "treatment"] with
      sqlOverride := overrides }
    phase := ⟨started, none⟩
    metrics := ids.map fun id => .minimal id "Signups" .binomial "signups"
    activation := none, dimension := none }

theorem isAccepted_signups (ids : List String) (started : DateTime)
    (overrides : List (String × String)) : (signups ids started overrides).IsAccepted := by
  have hkeys : ["control", "treatment"] ≠ [] := List.cons_ne_nil _ _
  have hexperiment := ExperimentDefinition.read_overridden "e" "exp" hkeys overrides
  have hphase : ExperimentPhase.read (.object [("date_started", .datetime started)]) =
    .ok ⟨started, none⟩ := rfl
  have hmetrics : ∀ m ∈ (signups ids started overrides).metrics,
      ∃ v, MetricDefinition.read v = .ok m :=
    List.forall_mem_map.mpr fun id _ =>
      ⟨_, MetricDefinition.read_minimal id "Signups" .binomial "signups" rfl⟩
  exact ⟨fun now => ⟨⟨_, hexperiment⟩, ⟨_, hphase⟩, fun m hm => absurd hm (Option.not_mem_none m),
    fun d hd => absurd hd (Option.not_mem_none d)⟩, hmetrics⟩

/-- An override under the id of the second of three metrics. -/
theorem override_of_own_query_second :
    let s : Session := ⟨{ settings := .builtin, dialect := ⟨.postgres, none, none⟩ }, [], 0⟩
    let started : DateTime := ⟨⟨⟨737821, by decide⟩⟩, ⟨0, by decide⟩, 0, none⟩
    let sent overrides := s.sentFor (signups ["a", "b", "c"] started overrides) fun _ => started
    (sent []).length = (sent [("b", "SELECT 1")]).length ∧
      ∀ i : Nat, (sent [])[i]? ≠ (sent [("b", "SELECT 1")])[i]? → i = 1 := by
  intro s started sent
  have hrest : ∀ key ≠ "b",
      [("b", "SELECT 1")].lookup key = ([] : List (String × String)).lookup key :=
    fun key hkey => by simp [hkey]
  obtain ⟨hlength, -, hone⟩ := s.override_of_own_query (signups ["a", "b", "c"] started [])
    (fun _ => started) "b" [("b", "SELECT 1")] hrest (isAccepted_signups _ _ _)
    (isAccepted_signups _ _ _) (fun _ _ => ⟨_, rfl⟩)
  have hids : ((signups ["a", "b", "c"] started []).metrics.map (·.id)).Nodup := by decide
  exact ⟨hlength, fun i hi => hone hids (by decide) i 1 hi (by decide +kernel)⟩

/-- The reserved key as the id of a metric: an override under it changes both queries. -/
theorem override_of_users_and_metric :
    let s : Session := ⟨{ settings := .builtin, dialect := ⟨.postgres, none, none⟩ }, [], 0⟩
    let started : DateTime := ⟨⟨⟨737821, by decide⟩⟩, ⟨0, by decide⟩, 0, none⟩
    let now (_ : Nat) := started
    let c := signups ["users"] started
    let overrides := [("users", "SELECT variation, dimension, users FROM daily")]
    (c []).IsAccepted ∧ (c overrides).IsAccepted ∧ c overrides = (c []).withOverrides overrides ∧
      (s.sentFor (c []) now)[0]? ≠ (s.sentFor (c overrides) now)[0]? ∧
      (s.sentFor (c []) now)[1]? ≠ (s.sentFor (c overrides) now)[1]? := by
  intro s started now c overrides
  exact ⟨isAccepted_signups _ _ _, isAccepted_signups _ _ _, rfl, by decide +kernel,
    by decide +kernel⟩

end Session

end SplitTest
