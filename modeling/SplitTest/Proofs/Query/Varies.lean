import SplitTest.Proofs.Except
import SplitTest.Proofs.Query.Composition
import SplitTest.Proofs.Sql.Varies

/-! Queries for arguments that differ only in names and in given values.  Each builder of a derived
table is taken once: what it makes of two such arguments differs in the labels and in the literals
for the given values only. -/

namespace SplitTest

open Scan

/-! ### Arguments that agree when names and values are erased -/

theorem MetricDefinition.exists_of_erased {m m' : MetricDefinition}
    (h : m.withoutName.withoutValues = m'.withoutName.withoutValues) :
    ∃ name conditions, m' = { m with name, conditions } ∧
      m.conditions.map MetricCondition.withoutValue =
        conditions.map MetricCondition.withoutValue := by
  refine ⟨m'.name, m'.conditions, ?_, congrArg MetricDefinition.conditions h⟩
  cases m
  cases m'
  simp_all [withoutName, withoutValues]

theorem ExperimentDefinition.exists_of_erased {e e' : ExperimentDefinition}
    (h : e.withoutKey = e'.withoutKey) : ∃ key, e' = { e with trackingKey := key } := by
  refine ⟨e'.trackingKey, ?_⟩
  cases e
  cases e'
  simp_all [withoutKey]

theorem UsersQueryParams.exists_of_erased {p p' : UsersQueryParams}
    (h : p.withoutNames.withoutPages = p'.withoutNames.withoutPages) :
    ∃ name urlRegex segment, p' = { p with name, urlRegex, segment } ∧
      (p.pageFilter?.map fun _ => "") = (p'.pageFilter?.map fun _ => "") ∧
      p.segment.map SegmentDefinition.withoutName =
        segment.map SegmentDefinition.withoutName := by
  refine ⟨p'.name, p'.urlRegex, p'.segment, ?_, congrArg UsersQueryParams.urlRegex h,
    congrArg UsersQueryParams.segment h⟩
  cases p
  cases p'
  simp_all [withoutNames, withoutPages]

theorem UsersQueryParams.segmentJoin_of_erased {p p' : UsersQueryParams}
    (h : p.withoutNames.withoutPages = p'.withoutNames.withoutPages) :
    p.segmentJoin = p'.segmentJoin := by
  have hsome := congrArg (fun q => q.segment.isSome) h
  simp only [withoutNames, withoutPages, Option.isSome_map] at hsome
  simp only [segmentJoin, hsome]

theorem Analysis.distinctUsers_of_erased {a a' : Analysis}
    (h : a.withoutNames.withoutValues = a'.withoutNames.withoutValues) :
    a.distinctUsersHead = a'.distinctUsersHead ∧ a.distinctUsersTail = a'.distinctUsersTail := by
  have hactivation := congrArg (fun a => a.activation.isSome) h
  have hdimension := congrArg (fun a => a.dimension.isSome) h
  simp only [withoutNames, withoutValues, Option.isSome_map] at hactivation hdimension
  simp only [distinctUsersHead, distinctUsersTail, distinctUserJoins, dimensionJoins,
    activationJoins, dimensionValue, dimensionGroup, hactivation, hdimension, and_self]

theorem Analysis.exists_of_erased {a a' : Analysis}
    (h : a.withoutNames.withoutValues = a'.withoutNames.withoutValues) :
    ∃ experiment activation dimension, a' = { a with experiment, activation, dimension } ∧
      a.experiment.withoutKey = experiment.withoutKey ∧
      a.activation.map (·.withoutName.withoutValues) =
        activation.map (·.withoutName.withoutValues) ∧
      a.dimension.map DimensionDefinition.withoutName =
        dimension.map DimensionDefinition.withoutName := by
  have hactivation := congrArg Analysis.activation h
  simp only [withoutValues, withoutNames, Option.map_map] at hactivation
  refine ⟨a'.experiment, a'.activation, a'.dimension, ?_, congrArg Analysis.experiment h,
    hactivation, congrArg Analysis.dimension h⟩
  cases a
  cases a'
  simp_all [withoutNames, withoutValues]

/-! ### Conditions -/

theorem Dialect.regexMatch_varies (d : Dialect) (column : Sql) (pattern other : String) :
    (d.regexMatch column pattern).Varies (d.regexMatch column other)
      [d.patternText pattern] [d.patternText other] := by
  unfold regexMatch patternText
  cases d.flavor with
  | snowflake | bigquery | presto | duckdb =>
    exact .skip _ (.skip _ (.skip _ (.here (.literal _ _))))
  | postgres | redshift => exact .skip _ (.skip _ (.here (.literal _ _)))

namespace Source

variable (s : Source)

theorem condition_varies (tableName : String) {c c' : MetricCondition}
    (h : c.withoutValue = c'.withoutValue) :
    (s.condition tableName c).Varies (s.condition tableName c') [c.given s.dialect]
      [c'.given s.dialect] := by
  obtain ⟨column, operator, value⟩ := c
  obtain ⟨_, _, value'⟩ := c'
  obtain ⟨rfl, rfl, -⟩ := MetricCondition.mk.inj h
  unfold condition MetricCondition.given
  cases operator with
  | isMatch => exact s.dialect.regexMatch_varies _ _ _
  | isNoMatch => exact .skip _ (.here (s.dialect.regexMatch_varies _ _ _))
  | _ => exact .skip _ (.skip _ (.skip _ (.skip _ (.here (.literal _ _)))))

theorem conditions_vary (tableName : String) {cs cs' : List MetricCondition}
    (h : cs.map MetricCondition.withoutValue = cs'.map MetricCondition.withoutValue) :
    Sql.AllVary (cs.map (s.condition tableName)) (cs'.map (s.condition tableName))
      (cs.map (MetricCondition.given s.dialect)) (cs'.map (MetricCondition.given s.dialect)) := by
  induction cs generalizing cs' with
  | nil =>
    obtain rfl : cs' = [] := by simpa using h.symm
    exact .nil
  | cons c cs ih =>
    cases cs' with
    | nil => simp at h
    | cons c' cs' =>
      obtain ⟨hfirst, hrest⟩ := List.cons.inj h
      exact .cons (s.condition_varies tableName hfirst) (ih hrest)

/-! ### Derived tables -/

theorem filter_varies {m : MetricDefinition} {name : String} {conditions : List MetricCondition}
    (h : m.conditions.map MetricCondition.withoutValue =
      conditions.map MetricCondition.withoutValue) :
    Sql.Varies
      (if m.conditions.isEmpty then Sql.empty
        else .concat ["WHERE\n      ", s.conditions m "m"])
      (if conditions.isEmpty then Sql.empty
        else .concat ["WHERE\n      ", s.conditions { m with name, conditions } "m"])
      (m.given s.dialect) (conditions.map (MetricCondition.given s.dialect)) := by
  have hempty : m.conditions.isEmpty = conditions.isEmpty := by
    simpa using congrArg List.isEmpty h
  have hall := s.conditions_vary "m" h
  cases hcase : m.conditions.isEmpty with
  | true =>
    have hnone : m.conditions = [] := List.isEmpty_iff.mp hcase
    have hnone' : conditions = [] := List.isEmpty_iff.mp (hempty ▸ hcase)
    rw [if_pos rfl, if_pos (hempty ▸ hcase), MetricDefinition.given, hnone, hnone']
    exact .refl _
  | false =>
    rw [if_neg (by simp), if_neg (by simp [← hempty, hcase])]
    exact .skip _ (.here (.join _ hall))

theorem metricTable_varies (idType : IdType) {m m' : MetricDefinition}
    (h : m.withoutName.withoutValues = m'.withoutName.withoutValues) (hname : OneLine m.name)
    (hname' : OneLine m'.name) :
    Except.Related (fun q q' : Sql => q.Varies q' (m.given s.dialect) (m'.given s.dialect))
      (s.metricTable m idType) (s.metricTable m' idType) := by
  obtain ⟨name', conditions', rfl, hconditions⟩ := MetricDefinition.exists_of_erased h
  refine .bind_same (m.rawValue "m") fun value => ?_
  refine .comment (.between (.of rfl) hname (.of rfl)) (.between (.of rfl) hname' (.of rfl)) .of ?_
  repeat refine .skip _ ?_
  exact .here (s.filter_varies hconditions)

theorem experimentTable_varies (phase : ExperimentPhase) (idType : IdType)
    {e e' : ExperimentDefinition} (h : e.withoutKey = e'.withoutKey) :
    Except.Related (fun q q' : Sql => q.Varies q' [e.trackingKey] [e'.trackingKey])
      (s.experimentTable e phase idType) (s.experimentTable e' phase idType) := by
  obtain ⟨key', rfl⟩ := ExperimentDefinition.exists_of_erased h
  unfold experimentTable
  cases phase.dateEnded
  case' none => refine .bind_same _ fun last => .bind_same _ fun first => ?_
  case' some t => refine .bind_same _ fun _ => .bind_same _ fun last => .bind_same _ fun first => ?_
  all_goals
    repeat refine .skip _ ?_
    exact .here (.literal e.trackingKey key')

theorem segmentTable_varies (idType : IdType) {g g' : SegmentDefinition}
    (h : g.withoutName = g'.withoutName) (hname : OneLine g.name) (hname' : OneLine g'.name) :
    (s.segmentTable g idType).Varies (s.segmentTable g' idType) [] [] := by
  obtain ⟨name, sql, userIdType⟩ := g
  obtain ⟨name', _, _⟩ := g'
  obtain ⟨-, rfl, rfl⟩ := SegmentDefinition.mk.inj h
  exact .comment (.between (.of rfl) hname (.of rfl)) (.between (.of rfl) hname' (.of rfl)) .of
    (.refl _)

theorem dimensionTable_varies (idType : IdType) {d d' : DimensionDefinition}
    (h : d.withoutName = d'.withoutName) (hname : OneLine d.name) (hname' : OneLine d'.name) :
    (s.dimensionTable d idType).Varies (s.dimensionTable d' idType) [] [] := by
  obtain ⟨name, sql, userIdType⟩ := d
  obtain ⟨name', _, _⟩ := d'
  obtain ⟨-, rfl, rfl⟩ := DimensionDefinition.mk.inj h
  exact .comment (.between (.of rfl) hname (.of rfl)) (.between (.of rfl) hname' (.of rfl)) .of
    (.refl _)

theorem pageFilter_varies (column : Sql) (filter filter' : Option String) :
    ((filter.map fun _ => "") = filter'.map fun _ => "") →
    Sql.Varies
      (match filter with
        | some pattern => .concat ["\n      AND ", s.dialect.regexMatch column pattern]
        | none => .empty)
      (match filter' with
        | some pattern => .concat ["\n      AND ", s.dialect.regexMatch column pattern]
        | none => .empty)
      (filter.toList.map s.dialect.patternText) (filter'.toList.map s.dialect.patternText) := by
  intro h
  cases filter with
  | none =>
    obtain rfl : filter' = none := Option.map_eq_none_iff.mp h.symm
    exact .refl _
  | some pattern =>
    obtain ⟨pattern', rfl, -⟩ := Option.map_eq_some_iff.mp h.symm
    exact .skip _ (.here (s.dialect.regexMatch_varies column pattern pattern'))

theorem pageUsersTable_varies {p p' : UsersQueryParams}
    (h : p.withoutNames.withoutPages = p'.withoutNames.withoutPages) :
    Except.Related (fun q q' : Sql => q.Varies q' (p.given s.dialect) (p'.given s.dialect))
      (s.pageUsersTable p) (s.pageUsersTable p') := by
  obtain ⟨name', urlRegex', segment', rfl, hfilter, -⟩ := UsersQueryParams.exists_of_erased h
  refine .bind_same _ fun first => .bind_same _ fun last => ?_
  repeat refine .skip _ ?_
  exact .here (s.pageFilter_varies s.settings.pageviews.urlColumn _ _ hfilter)

end Source

/-! ### Lists of derived tables -/

namespace DerivedTable

theorem sql_varies (name : String) {body body' : Sql} {values others : List String}
    (h : body.Varies body' values others) :
    (mk name body).sql.Varies (mk name body').sql values others :=
  .skip _ (.skip _ (.here h))

/-- Lists of derived tables whose texts vary one by one. -/
def AllVary (ts ts' : List DerivedTable) (values others : List String) : Prop :=
  Sql.AllVary (ts.map sql) (ts'.map sql) values others

theorem AllVary.append {ts ts' us us' : List DerivedTable}
    {values others values' others' : List String}
    (h : AllVary ts ts' values others) (h' : AllVary us us' values' others') :
    AllVary (ts ++ us) (ts' ++ us') (values ++ values') (others ++ others') := by
  unfold AllVary
  rw [List.map_append, List.map_append]
  exact Sql.AllVary.append h h'

theorem AllVary.append_same {ts ts' : List DerivedTable} {values others : List String}
    (h : AllVary ts ts' values others) (us : List DerivedTable) :
    AllVary (ts ++ us) (ts' ++ us) values others := by
  have hsame : AllVary us us [] [] := Sql.AllVary.refl _
  have hall := h.append hsame
  rwa [List.append_nil, List.append_nil] at hall

theorem AllVary.cons (name : String) {body body' : Sql} {ts ts' : List DerivedTable}
    {values others values' others' : List String} (h : body.Varies body' values others)
    (hrest : AllVary ts ts' values' others') :
    AllVary (mk name body :: ts) (mk name body' :: ts') (values ++ values') (others ++ others') :=
  Sql.AllVary.cons (sql_varies name h) hrest

theorem AllVary.head (name : String) {body body' : Sql} {ts ts' : List DerivedTable}
    {values others : List String} (h : body.Varies body' values others)
    (hrest : AllVary ts ts' [] []) :
    AllVary (mk name body :: ts) (mk name body' :: ts') values others := by
  have hall := Sql.AllVary.cons (sql_varies name h) hrest
  rwa [List.append_nil, List.append_nil] at hall

/-- The table of an optional part, which varies with the part's name only. -/
theorem allVary_toList {α : Type} {erase : α → α} (name : String) (body : α → Sql)
    {x x' : Option α} (h : x.map erase = x'.map erase)
    (hbody : ∀ a ∈ x, ∀ a' ∈ x', erase a = erase a' → (body a).Varies (body a') [] []) :
    AllVary (x.toList.map fun a => mk name (body a)) (x'.toList.map fun a => mk name (body a))
      [] [] := by
  cases x with
  | none =>
    obtain rfl : x' = none := Option.map_eq_none_iff.mp h.symm
    exact .nil
  | some a =>
    obtain ⟨a', rfl, heq⟩ := Option.map_eq_some_iff.mp h.symm
    exact .head name (hbody a rfl a' rfl heq.symm) Sql.AllVary.nil

end DerivedTable

namespace Source

variable (s : Source)

theorem visitorTables_vary {p p' : UsersQueryParams}
    (h : p.withoutNames.withoutPages = p'.withoutNames.withoutPages)
    (hnames : ∀ name ∈ p.names, OneLine name) (hnames' : ∀ name ∈ p'.names, OneLine name) :
    Except.Related
      (fun ts ts' => DerivedTable.AllVary ts ts' (p.given s.dialect) (p'.given s.dialect))
      (s.visitorTables p) (s.visitorTables p') := by
  refine .bind (s.pageUsersTable_varies h) fun users users' husers => ?_
  obtain ⟨name', urlRegex', segment', rfl, -, hsegment⟩ := UsersQueryParams.exists_of_erased h
  refine .head "__users" husers (DerivedTable.allVary_toList "__segment" _ hsegment ?_)
  intro g hg g' hg' hgg'
  have hmem : g.name ∈ p.names :=
    List.mem_cons_of_mem _ (List.mem_map_of_mem (Option.mem_toList.mpr hg))
  exact s.segmentTable_varies p.userIdType hgg' (hnames _ hmem)
    (hnames' _ (List.mem_cons_of_mem _ (List.mem_map_of_mem (Option.mem_toList.mpr hg'))))

theorem activationTables_vary (idType : IdType) {x x' : Option MetricDefinition}
    (h : x.map (·.withoutName.withoutValues) = x'.map (·.withoutName.withoutValues))
    (hnames : ∀ m ∈ x, OneLine m.name) (hnames' : ∀ m ∈ x', OneLine m.name) :
    Except.Related (fun ts ts' => DerivedTable.AllVary ts ts'
        (x.toList.flatMap (MetricDefinition.given s.dialect))
        (x'.toList.flatMap (MetricDefinition.given s.dialect)))
      (x.toList.mapM fun m => do
        pure (DerivedTable.mk "__activationMetric" (← s.metricTable m idType)))
      (x'.toList.mapM fun m => do
        pure (DerivedTable.mk "__activationMetric" (← s.metricTable m idType))) := by
  cases x with
  | none =>
    obtain rfl : x' = none := Option.map_eq_none_iff.mp h.symm
    exact Sql.AllVary.nil
  | some m =>
    obtain ⟨m', rfl, heq⟩ := Option.map_eq_some_iff.mp h.symm
    simp only [Option.toList_some, List.mapM_cons, List.mapM_nil, bind_assoc, pure_bind,
      List.flatMap_singleton]
    refine .bind (s.metricTable_varies idType heq.symm (hnames m rfl) (hnames' m' rfl)) ?_
    intro q q' hq
    exact .head "__activationMetric" hq .nil

theorem populationTables_vary {a a' : Analysis}
    (h : a.withoutNames.withoutValues = a'.withoutNames.withoutValues)
    (hnames : ∀ name ∈ a.names, OneLine name) (hnames' : ∀ name ∈ a'.names, OneLine name) :
    Except.Related
      (fun ts ts' => DerivedTable.AllVary ts ts' (a.given s.dialect) (a'.given s.dialect))
      (s.populationTables a) (s.populationTables a') := by
  obtain ⟨experiment', activation', dimension', rfl, hexperiment, hactivation, hdimension⟩ :=
    Analysis.exists_of_erased h
  obtain ⟨key', rfl⟩ := ExperimentDefinition.exists_of_erased hexperiment
  simp only [Analysis.names, List.forall_mem_append, List.forall_mem_map, Option.mem_toList]
    at hnames hnames'
  refine .bind (s.activationTables_vary a.experiment.userIdType hactivation hnames.2 hnames'.2) ?_
  intro ts ts' hts
  refine DerivedTable.AllVary.append (DerivedTable.allVary_toList "__dimension" _ hdimension ?_) hts
  intro d hd d' hd' hdd'
  exact s.dimensionTable_varies _ hdd' (hnames.1 d hd) (hnames'.1 d' hd')

end Source

/-! ### Queries -/

theorem Query.sql_varies {q q' : Query} {values others : List String} (htitle : OneLine q.title)
    (htitle' : OneLine q'.title) (hseparator : q.separator = q'.separator)
    (htables : DerivedTable.AllVary q.tables q'.tables values others) (hbody : q.body = q'.body) :
    q.sql.Varies q'.sql values others := by
  unfold sql
  rw [hseparator, hbody]
  exact .comment htitle htitle' .of (.here (.join _ htables))

namespace Source

variable (s : Source)

theorem usersQuery_varies {p p' : UsersQueryParams}
    (h : p.withoutNames.withoutPages = p'.withoutNames.withoutPages)
    (hnames : ∀ name ∈ p.names, OneLine name) (hnames' : ∀ name ∈ p'.names, OneLine name) :
    Except.Related
      (fun q q' : Query => q.sql.Varies q'.sql (p.given s.dialect) (p'.given s.dialect))
      (s.usersQuery p) (s.usersQuery p') := by
  refine .bind (s.visitorTables_vary h hnames hnames') fun ts ts' hts => ?_
  have hjoin : p.segmentJoin = p'.segmentJoin := UsersQueryParams.segmentJoin_of_erased h
  obtain ⟨name', urlRegex', segment', rfl, -, -⟩ := UsersQueryParams.exists_of_erased h
  refine Query.sql_varies ?_ ?_ rfl hts ?_
  · exact .append (hnames _ List.mem_cons_self) (.of rfl)
  · exact .append (hnames' _ List.mem_cons_self) (.of rfl)
  · simp only [hjoin]
    rfl

theorem metricValueQuery_varies {p p' : MetricValueParams}
    (h : p.withoutNames.withoutValues = p'.withoutNames.withoutValues)
    (hnames : ∀ name ∈ p.metric.name :: p.names, OneLine name)
    (hnames' : ∀ name ∈ p'.metric.name :: p'.names, OneLine name) :
    Except.Related (fun q q' : Query => q.sql.Varies q'.sql
        (p.toUsersQueryParams.given s.dialect ++ p.metric.given s.dialect)
        (p'.toUsersQueryParams.given s.dialect ++ p'.metric.given s.dialect))
      (s.metricValueQuery p) (s.metricValueQuery p') := by
  obtain ⟨hname, hrest⟩ := List.forall_mem_cons.mp hnames
  obtain ⟨hname', hrest'⟩ := List.forall_mem_cons.mp hnames'
  obtain ⟨p, m, percentiles⟩ := p
  obtain ⟨p', m', percentiles'⟩ := p'
  obtain ⟨hparams, hmetric, rfl⟩ := MetricValueParams.mk.inj h
  have hjoin : p.segmentJoin = p'.segmentJoin := UsersQueryParams.segmentJoin_of_erased hparams
  -- The visitors are related first: after the fields are split, the parameters are no longer one.
  refine .bind (s.visitorTables_vary hparams hrest hrest') fun ts ts' hts => ?_
  have htable := s.metricTable_varies p.userIdType hmetric hname hname'
  obtain ⟨pname', urlRegex', segment', rfl, -, -⟩ := UsersQueryParams.exists_of_erased hparams
  obtain ⟨mname', conditions', rfl, -⟩ := MetricDefinition.exists_of_erased hmetric
  refine .bind htable fun metric metric' hq => ?_
  refine Query.sql_varies ?_ ?_ rfl ?_ ?_
  · exact .append (.append (.append (hrest _ List.mem_cons_self) (.of rfl)) hname) (.of rfl)
  · exact .append (.append (.append (hrest' _ List.mem_cons_self) (.of rfl)) hname') (.of rfl)
  · simp only [hjoin, List.append_assoc]
    exact hts.append (.head "__metric" hq (Sql.AllVary.refl _))
  · rfl

theorem composedUsersQuery_varies {a a' : Analysis}
    (h : a.withoutNames.withoutValues = a'.withoutNames.withoutValues)
    (hnames : ∀ name ∈ a.names, OneLine name) (hnames' : ∀ name ∈ a'.names, OneLine name) :
    Except.Related (fun q q' : Query => q.sql.Varies q'.sql
        (a.experiment.trackingKey :: a.given s.dialect)
        (a'.experiment.trackingKey :: a'.given s.dialect))
      (s.composedUsersQuery a) (s.composedUsersQuery a') := by
  have hpopulation := s.populationTables_vary h hnames hnames'
  obtain ⟨hhead, htail⟩ := Analysis.distinctUsers_of_erased h
  obtain ⟨experiment', activation', dimension', rfl, hexperiment, -, -⟩ :=
    Analysis.exists_of_erased h
  have hviews := s.experimentTable_varies a.phase a.experiment.userIdType hexperiment
  obtain ⟨key', rfl⟩ := ExperimentDefinition.exists_of_erased hexperiment
  refine .bind hviews fun views views' hview => .bind hpopulation fun ts ts' hts => ?_
  refine Query.sql_varies (.of rfl) (.of rfl) rfl ?_ rfl
  simp only [hhead, htail, List.cons_append]
  exact .cons "__experiment" hview (hts.append_same _)

theorem composedMetricQuery_varies {a a' : Analysis} {m m' : MetricDefinition}
    (h : a.withoutNames.withoutValues = a'.withoutNames.withoutValues)
    (hm : m.withoutName.withoutValues = m'.withoutName.withoutValues)
    (hnames : ∀ name ∈ m.name :: a.names, OneLine name)
    (hnames' : ∀ name ∈ m'.name :: a'.names, OneLine name) :
    Except.Related (fun q q' : Query => q.sql.Varies q'.sql
        (a.experiment.trackingKey :: (m.given s.dialect ++ a.given s.dialect))
        (a'.experiment.trackingKey :: (m'.given s.dialect ++ a'.given s.dialect)))
      (s.composedMetricQuery a m) (s.composedMetricQuery a' m') := by
  obtain ⟨hname, hrest⟩ := List.forall_mem_cons.mp hnames
  obtain ⟨hname', hrest'⟩ := List.forall_mem_cons.mp hnames'
  have hpopulation := s.populationTables_vary h hrest hrest'
  have htable := s.metricTable_varies a.experiment.userIdType hm hname hname'
  obtain ⟨hhead, htail⟩ := Analysis.distinctUsers_of_erased h
  have hactivated := congrArg (fun a => a.activation.isSome) h
  simp only [Analysis.withoutNames, Analysis.withoutValues, Option.isSome_map] at hactivated
  obtain ⟨experiment', activation', dimension', rfl, hexperiment, -, -⟩ :=
    Analysis.exists_of_erased h
  have hviews := s.experimentTable_varies a.phase a.experiment.userIdType hexperiment
  obtain ⟨key', rfl⟩ := ExperimentDefinition.exists_of_erased hexperiment
  obtain ⟨mname', conditions', rfl, -⟩ := MetricDefinition.exists_of_erased hm
  refine .bind hviews fun views views' hview => .bind hpopulation fun ts ts' hts => ?_
  refine .bind htable fun metric metric' hmetric => ?_
  have htitle {name : String} (h : OneLine name) : OneLine (name ++ " (" ++ m.type.name ++ ")") :=
    .append (.append (.append h (.of rfl)) m.type.oneLine_name) (.of rfl)
  refine Query.sql_varies (htitle hname) (htitle hname') rfl ?_ rfl
  simp only [hhead, htail, hactivated, List.cons_append]
  exact .cons "__experiment" hview (.cons "__metric" hmetric (hts.append_same _))

/-! ### Compositions -/

/-- Two composed queries whose arguments differ in names and given values only differ in comments
and in the literals for the given values only. -/
theorem composed_varies {c c' : Composition}
    (h : c.withoutNames.withoutValues = c'.withoutNames.withoutValues)
    (hnames : ∀ name ∈ c.names, OneLine name) (hnames' : ∀ name ∈ c'.names, OneLine name) :
    Except.Related (fun q q' : Query => q.sql.Varies q'.sql (c.given s.dialect)
        (c'.given s.dialect))
      (s.composed c) (s.composed c') := by
  cases c with
  | users p =>
    cases c' with
    | users p' => exact s.usersQuery_varies (Composition.users.inj h) hnames hnames'
    | _ => exact Composition.noConfusion h
  | metricValue p =>
    cases c' with
    | metricValue p' =>
      exact s.metricValueQuery_varies (Composition.metricValue.inj h) hnames hnames'
    | _ => exact Composition.noConfusion h
  | experimentUsers a =>
    cases c' with
    | experimentUsers a' =>
      exact s.composedUsersQuery_varies (Composition.experimentUsers.inj h) hnames hnames'
    | _ => exact Composition.noConfusion h
  | experimentMetric a m =>
    cases c' with
    | experimentMetric a' m' =>
      obtain ⟨ha, hm⟩ := Composition.experimentMetric.inj h
      exact s.composedMetricQuery_varies ha hm hnames hnames'
    | _ => exact Composition.noConfusion h

theorem compose_varies {c c' : Composition}
    (h : c.withoutNames.withoutValues = c'.withoutNames.withoutValues)
    (hown : c.isOverridden = false) (hnames : ∀ name ∈ c.names, OneLine name)
    (hnames' : ∀ name ∈ c'.names, OneLine name) :
    Except.Related (fun q q' : Sql => q.Varies q' (c.given s.dialect) (c'.given s.dialect))
      (s.compose c) (s.compose c') := by
  have hown' : c'.isOverridden = false := by
    rw [← c'.isOverridden_erased, ← h, c.isOverridden_erased, hown]
  rw [s.compose_of_not_overridden hown, s.compose_of_not_overridden hown']
  exact (s.composed_varies h hnames hnames').map fun _ _ hq => hq

end Source
end SplitTest
