import SplitTest.Proofs.Query.IdentifiesJoins

/-! Identifiers of two types in one query.  A query asks for people by one type of identifier; each
definition that takes part in it knows them by a type of its own.  Where the two differ, the table
of the definition is joined with the identifies table, which matches its identifiers with the
requested ones, and there is no other join with that table in the whole query. -/

namespace SplitTest

/-! ### Participants -/

/-- A definition that takes part in a query, with a table of its own. -/
structure Participant where
  /-- The name of the table. -/
  table : String
  /-- The comment at the start of the table. -/
  label : String
  /-- The type of its identifiers. -/
  native : IdType
  /-- What the identifiers are read from. -/
  relation : String
  /-- The name by which that is called. -/
  letter : String
  /-- The column for identifiers of each type. -/
  column : IdType → String

/-- A metric's own name for the column of identifiers of a type. -/
def MetricDefinition.ownIdColumn (m : MetricDefinition) : IdType → Option String
  | .user => m.userIdColumn
  | .anonymous => m.anonymousIdColumn

/-- The column of a metric for identifiers of a type: its own, or else that of the settings. -/
def Source.metricIdColumn (s : Source) (m : MetricDefinition) (idType : IdType) : String :=
  (nonEmpty? (m.ownIdColumn idType)).getD (s.settings.idColumn idType .default none)

namespace Participant

def segment (g : SegmentDefinition) : Participant where
  table := "__segment"
  label := "Segment (" ++ g.name ++ ")"
  native := g.userIdType
  relation := "(" ++ g.sql ++ ")"
  letter := "s"
  column _ := "user_id"

def dimension (d : DimensionDefinition) : Participant where
  table := "__dimension"
  label := "Dimension (" ++ d.name ++ ")"
  native := d.userIdType
  relation := "(" ++ d.sql ++ ")"
  letter := "d"
  column _ := "user_id"

def metric (s : Source) (table : String) (m : MetricDefinition) : Participant where
  table := table
  label := "Metric (" ++ m.name ++ ")"
  native := m.userIdType
  relation := s.dialect.fullTableName m.table
  letter := "m"
  column := s.metricIdColumn m

end Participant

def MetricDefinition.values (m : MetricDefinition) : List String :=
  m.conditions.map MetricCondition.value

def Analysis.values (a : Analysis) : List String :=
  a.activation.toList.flatMap MetricDefinition.values

namespace Composition

/-- The texts of an experiment's key, of the conditions of metrics and of an expression for pages,
which stand in literals. -/
def values : Composition → List String
  | users p => p.urlRegex.toList
  | metricValue p => p.urlRegex.toList ++ p.metric.values
  | experimentUsers a => a.experiment.trackingKey :: a.values
  | experimentMetric a m => a.experiment.trackingKey :: (m.values ++ a.values)

/-- All texts that the arguments supply. -/
def supplied (c : Composition) : List String :=
  c.texts ++ c.columns ++ c.names ++ c.values

/-- The type of identifiers that a query asks for. -/
def requested : Composition → IdType
  | users p => p.userIdType
  | metricValue p => p.userIdType
  | experimentUsers a => a.experiment.userIdType
  | experimentMetric a _ => a.experiment.userIdType

/-- The segment, the dimension, the activation metric and the metric of a query. -/
def participants (s : Source) : Composition → List Participant
  | users p => p.segment.toList.map .segment
  | metricValue p => p.segment.toList.map .segment ++ [.metric s "__metric" p.metric]
  | experimentUsers a =>
    a.dimension.toList.map .dimension ++ a.activation.toList.map (.metric s "__activationMetric")
  | experimentMetric a m =>
    .metric s "__metric" m :: (a.dimension.toList.map .dimension ++
      a.activation.toList.map (.metric s "__activationMetric"))

/-- The table of the people that a query is about, the comment at its start, and the identifier that
it selects for them. -/
def people (s : Source) : Composition → String × String × String
  | users p => pageUsers p
  | metricValue p => pageUsers p.toUsersQueryParams
  | experimentUsers a | experimentMetric a _ =>
    ("__experiment", "Viewed Experiment",
      "e." ++ s.settings.idColumn a.experiment.userIdType .experiments none)
where
  pageUsers (p : UsersQueryParams) : String × String × String :=
    ("__users", "Users visiting specific pages", s.settings.idColumn p.userIdType .pageviews none)

end Composition

section

variable {w : Watchword} (d : Dialect)

theorem Dialect.absent_patternText {pattern : String} (h : w.Absent pattern) :
    w.Absent (d.patternText pattern) := by
  unfold patternText
  split
  · have hchars : (".*(" ++ pattern ++ ").*").toList =
        ['.', '*'] ++ '(' :: (pattern.toList ++ ')' :: ['.', '*']) := by
      simp
    have hmarks : ¬w.chars <:+: ['.', '*'] := w.not_infix_of_check rfl
    rw [Watchword.Absent, hchars]
    exact Watchword.not_infix_append_cons rfl hmarks
      (Watchword.not_infix_append_cons rfl h hmarks)
  · exact h

theorem MetricDefinition.absent_given {m : MetricDefinition} (h : ∀ v ∈ m.values, w.Absent v) :
    ∀ v ∈ m.given d, w.Absent v := by
  refine List.forall_mem_map.mpr fun c hc => ?_
  have hvalue : w.Absent c.value := h _ (List.mem_map_of_mem hc)
  unfold MetricCondition.given
  split
  · exact d.absent_patternText hvalue
  · exact d.absent_patternText hvalue
  · exact hvalue

theorem Analysis.absent_given {a : Analysis} (h : ∀ v ∈ a.values, w.Absent v) :
    ∀ v ∈ a.given d, w.Absent v := by
  simp only [Analysis.values, Analysis.given, List.forall_mem_flatMap] at h ⊢
  exact fun m hm => MetricDefinition.absent_given d (h m hm)

theorem UsersQueryParams.absent_given {p : UsersQueryParams}
    (h : ∀ v ∈ p.urlRegex.toList, w.Absent v) : ∀ v ∈ p.given d, w.Absent v := by
  refine List.forall_mem_map.mpr fun pattern hpattern => d.absent_patternText (h pattern ?_)
  have hnonEmpty := (Option.filter_eq_some_iff.mp (Option.mem_toList.mp hpattern)).1
  exact Option.mem_toList.mpr (Option.filter_eq_some_iff.mp hnonEmpty).1

theorem Composition.absent_given {c : Composition} (h : ∀ v ∈ c.values, w.Absent v) :
    ∀ v ∈ c.given d, w.Absent v := by
  cases c with
  | users p => exact p.absent_given d h
  | metricValue p =>
    obtain ⟨hpages, hmetric⟩ := List.forall_mem_append.mp h
    exact List.forall_mem_append.mpr
      ⟨p.toUsersQueryParams.absent_given d hpages, p.metric.absent_given d hmetric⟩
  | experimentUsers a =>
    obtain ⟨hkey, hvalues⟩ := List.forall_mem_cons.mp h
    exact List.forall_mem_cons.mpr ⟨hkey, a.absent_given d hvalues⟩
  | experimentMetric a m =>
    obtain ⟨hkey, hvalues⟩ := List.forall_mem_cons.mp h
    obtain ⟨hmetric, hactivation⟩ := List.forall_mem_append.mp hvalues
    exact List.forall_mem_cons.mpr ⟨hkey, List.forall_mem_append.mpr
      ⟨m.absent_given d hmetric, a.absent_given d hactivation⟩⟩

end

namespace Source

variable (s : Source) (requested : IdType) (x : Participant)

/-- What the table of a participant selects. -/
def selectedId : String :=
  if x.native = requested then x.letter ++ "." ++ x.column requested
  else "i." ++ s.settings.idColumn requested .identifies none

/-- The join in the table of a participant, if there is one. -/
def bridge : String :=
  if x.native = requested then ""
  else s.bridgeMark ++ "\n  i." ++ s.settings.idColumn x.native .identifies none ++ " = " ++
    x.letter ++ "." ++ x.column x.native ++ "\n)"

/-- A table that selects the requested identifiers of a participant, with the join that this needs
and no other. -/
def Takes (table : Sql) : Prop :=
  ∃ columns rest : String,
    let before := "-- " ++ x.label ++ "\n    SELECT\n      " ++ s.selectedId requested x ++
      " as user_id," ++ columns ++ "\n    FROM\n      " ++ x.relation ++
      " " ++ x.letter ++ "\n      "
    table.text = before ++ s.bridge requested x ++ "\n    " ++ rest ∧
      Watchword.join.Absent before ∧ Watchword.join.Absent ("\n    " ++ rest)

/-- A table that selects the identifiers of people as they stand, with no join. -/
def TakesOwn (label column : String) (table : Sql) : Prop :=
  (∃ rest, table.text = "-- " ++ label ++ "\n    SELECT\n      " ++ column ++
    " as user_id," ++ rest) ∧ Watchword.join.Absent table.text

/-- The table of a participant in a query. -/
structure TakesPart (t : DerivedTable) : Prop where
  name : t.name = x.table
  takes : s.Takes requested x t.body
  adds : t.sql.Adds s.bridgeMark.toList (bridges requested x.native)

theorem text_reconcile :
    let user := s.reconcile requested x.native x.letter (x.column x.native) (x.column requested)
    user.column.text = s.selectedId requested x ∧ user.join.text = s.bridge requested x := by
  intro user
  unfold user reconcile selectedId bridge
  by_cases h : requested = x.native
  · rw [if_pos h, if_pos h.symm, if_pos h.symm]
    refine ⟨?_, rfl⟩
    simp [String.append_assoc]
  · rw [if_neg h, if_neg (Ne.symm h), if_neg (Ne.symm h)]
    simp [identifiesJoin, bridgeMark, String.append_assoc]

variable {s requested x}

theorem takes_of_takesUsers {q : Sql}
    (h : q.TakesUsers .join (s.reconcile requested x.native x.letter (x.column x.native)
      (x.column requested)) x.label x.relation x.letter) : s.Takes requested x q := by
  obtain ⟨hcolumn, hjoin⟩ := s.text_reconcile requested x
  obtain ⟨start, rest, rfl, hstart, hrest, ⟨columns, hlabel⟩, more, hmore⟩ :=
    h.exists_split
  rw [hcolumn] at hlabel
  have hstart := hstart.not_infix_chars
  have hrest := hrest.not_infix_chars
  rw [Sql.chars, hlabel] at hstart
  rw [Sql.chars, hmore] at hrest
  refine ⟨columns, more, ?_, hstart, hrest⟩
  simp [hlabel, hjoin, hmore, String.append_assoc]

theorem takesPart_of_takesUsers (hs : ∀ t ∈ s.texts, Watchword.join.Absent t) {cs : List Char}
    (htable : x.table = String.ofList cs)
    (hname : isTableName cs = true)
    (hletter : Watchword.join.Absent x.letter)
    (hnative : Watchword.join.Absent (x.column x.native)) {body : Sql}
    (h : body.TakesUsers .join (s.reconcile requested x.native x.letter (x.column x.native)
      (x.column requested)) x.label x.relation x.letter) :
    s.TakesPart requested x ⟨String.ofList cs, body⟩ :=
  ⟨htable.symm, takes_of_takesUsers h, DerivedTable.sql_adds s.join_prefix_bridgeMark hname
    (h.adds (reconcile_adds hs requested x.native _ hletter hnative))⟩

/-- A metric's own column comes before those of the settings. -/
theorem idColumn_metric (s : Source) (m : MetricDefinition) (idType : IdType) :
    s.settings.idColumn idType .default m = s.metricIdColumn m idType := by
  have hown : SourceSettings.metricColumn? (some m) idType.role = m.ownIdColumn idType := by
    cases idType <;> rfl
  rw [SourceSettings.idColumn, SourceSettings.column, hown, metricIdColumn, SourceSettings.idColumn,
    SourceSettings.column]
  cases m.ownIdColumn idType with
  | none => rfl
  | some column =>
    rw [SourceSettings.firstNonEmpty, nonEmpty?, Option.filter_some]
    cases column.isEmpty <;> rfl

section

variable (hs : ∀ t ∈ s.texts, Watchword.join.Absent t)
include hs

theorem metricTable_takesPart {m : MetricDefinition} {q : Sql} (table : String) {cs : List Char}
    (htable : table = String.ofList cs)
    (hname : isTableName cs = true)
    (htexts : ∀ t ∈ m.texts, Watchword.join.Absent t)
    (hcolumn : ∀ column ∈ m.column, Watchword.join.Absent column)
    (hlabel : Watchword.join.Absent m.name)
    (hgiven : ∀ v ∈ m.given s.dialect, Watchword.join.Absent v)
    (hq : s.metricTable m requested = .ok q) :
    s.TakesPart requested (.metric s table m) ⟨String.ofList cs, q⟩ := by
  have hnative : Watchword.join.Absent (s.settings.idColumn m.userIdType .default m) :=
    forall_column Watchword.absent_builtin hs m.userIdType.role .default fun _ hm =>
      Option.mem_some.mp hm ▸ htexts
  have htakes := metricTable_takesUsers hs htexts hcolumn (fun _ => hlabel) (fun _ => hgiven) hq
  rw [idColumn_metric] at hnative htakes
  rw [idColumn_metric] at htakes
  exact takesPart_of_takesUsers hs htable hname (Watchword.join.absent_of_check rfl) hnative htakes

theorem segmentTable_takesPart {g : SegmentDefinition} (hsql : Watchword.join.Absent g.sql)
    (hlabel : Watchword.join.Absent g.name) :
    s.TakesPart requested (.segment g) ⟨"__segment", s.segmentTable g requested⟩ :=
  takesPart_of_takesUsers hs rfl rfl (Watchword.join.absent_of_check rfl)
    (Watchword.join.absent_of_check rfl)
    (segmentTable_takesUsers hs hsql (fun _ => hlabel) requested)

theorem dimensionTable_takesPart {d : DimensionDefinition} (hsql : Watchword.join.Absent d.sql)
    (hlabel : Watchword.join.Absent d.name) :
    s.TakesPart requested (.dimension d) ⟨"__dimension", s.dimensionTable d requested⟩ :=
  takesPart_of_takesUsers hs rfl rfl (Watchword.join.absent_of_check rfl)
    (Watchword.join.absent_of_check rfl)
    (dimensionTable_takesUsers hs hsql (fun _ => hlabel) requested)

theorem populationTables_takePart {a : Analysis} {ts : List DerivedTable}
    (htexts : ∀ t ∈ a.texts, Watchword.join.Absent t)
    (hcolumns : ∀ column ∈ a.columns, Watchword.join.Absent column)
    (hnames : ∀ name ∈ a.names, Watchword.join.Absent name)
    (hgiven : ∀ v ∈ a.given s.dialect, Watchword.join.Absent v)
    (hts : s.populationTables a = .ok ts) :
    List.Forall₂ (s.TakesPart a.experiment.userIdType)
      ((Composition.experimentUsers a).participants s) ts := by
  simp only [Analysis.texts, Analysis.columns, Analysis.names, Analysis.given,
    List.forall_mem_append, List.forall_mem_map, List.forall_mem_flatMap,
    Option.mem_toList] at htexts hcolumns hnames hgiven
  refine forall₂_populationTables hts (fun d hd => ?_) fun m hm table htable => ?_
  · exact dimensionTable_takesPart hs (htexts.1 d hd) (hnames.1 d hd)
  · exact metricTable_takesPart hs _ rfl rfl (htexts.2 m hm) (hcolumns m hm) (hnames.2 m hm)
      (hgiven m hm) htable

end

theorem sum_bridges (xs : List Participant) :
    (xs.map fun x => bridges requested x.native).sum = xs.countP (·.native ≠ requested) := by
  induction xs with
  | nil => rfl
  | cons x xs ih =>
    rw [List.map_cons, List.sum_cons, ih, List.countP_cons, Nat.add_comm, bridges]
    by_cases h : requested = x.native
    · simp [h]
    · simp [h, Ne.symm h]

/-! ### Compositions -/

/-- What is shown of each query: its participants take their identifiers as they must, no other
table is joined with the identifies table, and people are taken as they stand. -/
structure Bridges (s : Source) (c : Composition) (q : Query) : Prop where
  count : occurrences s.bridgeMark.toList q.sql.chars =
    (c.participants s).countP (·.native ≠ c.requested)
  takes : ∀ x ∈ c.participants s, ∃ t ∈ q.tables, t.name = x.table ∧ s.Takes c.requested x t.body
  people : ∃ t ∈ q.tables, t.name = (c.people s).1 ∧
    TakesOwn (c.people s).2.1 (c.people s).2.2 t.body

/-- The joins of a query with the identifies table are those of its participants. -/
theorem bridges_of_tables {c : Composition} {q : Query} {first : DerivedTable}
    {users others : List DerivedTable} (htitle : Watchword.join.Absent q.title)
    (hseparator : q.separator = Query.leadingComma)
    (htables : q.tables = first :: users ++ others)
    (hfirst : first.sql.Adds s.bridgeMark.toList 0) (hname : first.name = (c.people s).1)
    (hown : TakesOwn (c.people s).2.1 (c.people s).2.2 first.body)
    (husers : List.Forall₂ (s.TakesPart c.requested) (c.participants s) users)
    (hothers : ∀ t ∈ others, t.sql.Aloof) (hbody : q.body.Aloof) : s.Bridges c q where
  count := by
    have hadds : List.Forall₂ (fun t n => t.sql.Adds s.bridgeMark.toList n) users
        ((c.participants s).map fun x => bridges c.requested x.native) :=
      List.forall₂_map_right_iff.mpr (husers.flip.imp fun _ _ h => h.adds)
    rw [Query.occurrences_sql htitle hseparator htables hfirst hadds hothers hbody, Nat.zero_add,
      sum_bridges]
  takes x hx := by
    obtain ⟨t, ht, hpart⟩ := Except.exists_of_forall₂ husers x hx
    exact ⟨t, by simp [htables, ht], hpart.name, hpart.takes⟩
  people := ⟨first, by simp [htables], hname, hown⟩

variable (hs : ∀ t ∈ s.texts, Watchword.join.Absent t)
include hs

theorem experimentTable_takesOwn {a : Analysis} {q : Sql}
    (hkey : Watchword.join.Absent a.experiment.trackingKey)
    (hq : s.experimentTable a.experiment a.phase a.experiment.userIdType = .ok q) :
    (DerivedTable.mk "__experiment" q).sql.Adds s.bridgeMark.toList 0 ∧
      TakesOwn ((Composition.experimentUsers a).people s).2.1
        ((Composition.experimentUsers a).people s).2.2 q := by
  have hcolumn := absent_sectionColumn hs a.experiment.userIdType.role .experiments
  have htakes := experimentTable_takesUsers hs (fun _ => hkey) hq
  have hadds := reconcile_adds hs a.experiment.userIdType a.experiment.userIdType
    (s.settings.idColumn a.experiment.userIdType .experiments none)
    (Watchword.join.absent_of_check rfl : Watchword.join.Absent "e") hcolumn
  rw [bridges, if_pos rfl] at hadds
  refine ⟨DerivedTable.sql_adds s.join_prefix_bridgeMark rfl (htakes.adds hadds), ?_, ?_⟩
  · have hid : (s.reconcile a.experiment.userIdType a.experiment.userIdType "e"
        (s.settings.idColumn a.experiment.userIdType .experiments none)
        (s.settings.idColumn a.experiment.userIdType .experiments none)).column.text =
        "e." ++ s.settings.idColumn a.experiment.userIdType .experiments none := by
      rw [reconcile, if_pos rfl]
      simp [← String.append_assoc]
    have hselected := htakes.exists_selected
    rwa [hid] at hselected
  · have hjoin : (s.reconcile a.experiment.userIdType a.experiment.userIdType "e"
      (s.settings.idColumn a.experiment.userIdType .experiments none)
      (s.settings.idColumn a.experiment.userIdType .experiments none)).join.Woven .join := by
      rw [reconcile, if_pos rfl]
      exact Sql.Edged.empty.toWoven
    exact (htakes.woven hjoin).not_infix_chars

theorem pageUsersTable_takesOwn {p : UsersQueryParams} {q : Sql}
    (hgiven : ∀ v ∈ p.given s.dialect, Watchword.join.Absent v)
    (hq : s.pageUsersTable p = .ok q) :
    (DerivedTable.mk "__users" q).sql.Adds s.bridgeMark.toList 0 ∧
      TakesOwn ((Composition.users p).people s).2.1 ((Composition.users p).people s).2.2 q := by
  have hwoven := pageUsersTable_woven hs (fun _ => hgiven) hq
  obtain ⟨first, -, hq⟩ := Except.bind_eq_ok.mp hq
  obtain ⟨last, -, hq⟩ := Except.bind_eq_ok.mp hq
  obtain rfl := Except.ok.inj hq
  refine ⟨DerivedTable.sql_adds s.join_prefix_bridgeMark rfl (hwoven.adds s.join_prefix_bridgeMark
    ?_), ?_, hwoven.not_infix_chars⟩
  · simp [Sql.concat_cons, Sql.chars_append, Sql.chars_comment, Watchword.chars]
  · exact Sql.exists_selected _ _ "\n      " rfl _

theorem visitorTables_takePart {p : UsersQueryParams} {ts : List DerivedTable}
    (htexts : ∀ t ∈ p.texts, Watchword.join.Absent t)
    (hnames : ∀ name ∈ p.names, Watchword.join.Absent name)
    (hgiven : ∀ v ∈ p.given s.dialect, Watchword.join.Absent v)
    (hts : s.visitorTables p = .ok ts) :
    ∃ users segments, ts = ⟨"__users", users⟩ :: segments ∧
      (DerivedTable.mk "__users" users).sql.Adds s.bridgeMark.toList 0 ∧
      TakesOwn ((Composition.users p).people s).2.1 ((Composition.users p).people s).2.2 users ∧
      List.Forall₂ (s.TakesPart p.userIdType) ((Composition.users p).participants s) segments := by
  simp only [UsersQueryParams.texts, UsersQueryParams.names, List.forall_mem_cons,
    List.forall_mem_map, Option.mem_toList] at htexts hnames
  obtain ⟨users, husers, rfl⟩ := visitorTables_eq_ok.mp hts
  obtain ⟨hadds, hown⟩ := pageUsersTable_takesOwn hs hgiven husers
  refine ⟨users, _, rfl, hadds, hown, ?_⟩
  show List.Forall₂ _ (p.segment.toList.map Participant.segment) _
  cases hg : p.segment with
  | none => exact .nil
  | some g => exact .cons (segmentTable_takesPart hs (htexts g hg) (hnames.2 g hg)) .nil

theorem usersQuery_bridges {p : UsersQueryParams} {q : Query}
    (htexts : ∀ t ∈ p.texts, Watchword.join.Absent t)
    (hnames : ∀ name ∈ p.names, Watchword.join.Absent name)
    (hgiven : ∀ v ∈ p.given s.dialect, Watchword.join.Absent v)
    (hq : s.usersQuery p = .ok q) : s.Bridges (.users p) q := by
  obtain ⟨ts, hts, hq⟩ := Except.bind_eq_ok.mp hq
  obtain rfl := Except.ok.inj hq
  obtain ⟨users, segments, rfl, hfirst, hown, hsegments⟩ :=
    visitorTables_takePart hs htexts hnames hgiven hts
  have htitle : Watchword.join.Absent (p.name ++ " - Number of Users") :=
    .around (t := "- Number of Users") (hnames _ List.mem_cons_self)
      (Watchword.join.absent_of_check rfl) (c := ' ') rfl (by simp)
  have hday : (s.dialect.dateTrunc "u.actual_start").Aloof :=
    s.dialect.dateTrunc_aloof (.written rfl)
  refine bridges_of_tables htitle rfl
    (show _ = (⟨"__users", users⟩ : DerivedTable) :: segments ++ [] by simp) hfirst rfl hown
    hsegments (List.forall_mem_nil _) ?_
  refine .next rfl (.cons (dateColumn_aloof p) (.next rfl (.cons (segmentJoin_aloof p)
    (.next rfl (.cons ?_ (.next rfl .nil))))))
  split
  · exact .next rfl (.cons hday (.next rfl (.cons (segmentJoin_aloof p) (.next rfl (.cons hday
      (.next rfl .nil))))))
  · exact .nil

theorem metricValueQuery_bridges {p : MetricValueParams} {q : Query}
    (htexts : ∀ t ∈ p.toUsersQueryParams.texts ++ p.metric.texts, Watchword.join.Absent t)
    (hcolumn : ∀ column ∈ p.metric.column, Watchword.join.Absent column)
    (hnames : ∀ name ∈ p.metric.name :: p.toUsersQueryParams.names, Watchword.join.Absent name)
    (hgiven : ∀ v ∈ p.toUsersQueryParams.given s.dialect ++ p.metric.given s.dialect,
      Watchword.join.Absent v)
    (hq : s.metricValueQuery p = .ok q) : s.Bridges (.metricValue p) q := by
  obtain ⟨htexts, hmtexts⟩ := List.forall_mem_append.mp htexts
  obtain ⟨hmname, hnames⟩ := List.forall_mem_cons.mp hnames
  obtain ⟨hgiven, hmgiven⟩ := List.forall_mem_append.mp hgiven
  obtain ⟨visitors, hvisitors, hq⟩ := Except.bind_eq_ok.mp hq
  obtain ⟨metric, hmetric, hq⟩ := Except.bind_eq_ok.mp hq
  obtain rfl := Except.ok.inj hq
  obtain ⟨users, segments, rfl, hfirst, hown, hsegments⟩ :=
    visitorTables_takePart hs htexts hnames hgiven hvisitors
  have htitle : Watchword.join.Absent (p.name ++ " - " ++ p.metric.name ++ " Metric") := by
    have hchars : (p.name ++ " - " ++ p.metric.name ++ " Metric").toList =
        p.name.toList ++ ' ' :: (['-'] ++ ' ' ::
          (p.metric.name.toList ++ ' ' :: "Metric".toList)) := by
      simp
    rw [Watchword.Absent, hchars]
    exact Watchword.not_infix_append_cons rfl (hnames _ List.mem_cons_self)
      (Watchword.not_infix_append_cons rfl (Watchword.join.not_infix_of_check rfl)
        (Watchword.not_infix_append_cons rfl hmname (Watchword.join.not_infix_of_check rfl)))
  have hday : (s.dialect.dateTrunc "d.actual_start").Aloof :=
    s.dialect.dateTrunc_aloof (.written rfl)
  have hladder {column : Option Sql} (h : ∀ c ∈ column, c.Aloof) :
      (if p.includePercentiles then s.percentileColumns p.metric column else .empty).Aloof := by
    split
    · exact s.percentileColumns_aloof p.metric h
    · exact .nil
  have hmetric := metricTable_takesPart hs "__metric" rfl rfl hmtexts hcolumn hmname
    hmgiven hmetric
  have htables (t u v : DerivedTable) (ts : List DerivedTable) :
      ⟨"__users", users⟩ :: segments ++ [t, u, v] ++ ts =
        ⟨"__users", users⟩ :: (segments ++ [t]) ++ u :: v :: ts := by
    simp
  refine bridges_of_tables htitle rfl (htables _ _ _ _) hfirst rfl hown
    (List.rel_append hsegments (.cons hmetric .nil)) ?others ?body
  case others =>
    simp only [List.forall_mem_cons]
    refine ⟨?_, ?_, ?_⟩
    · refine DerivedTable.sql_aloof rfl (.cons ?_ (.cons (segmentJoin_aloof _) (.next rfl .nil)))
      exact .append (.append (.append (.written rfl) (.written rfl)) (.written rfl)) (.written rfl)
    · exact DerivedTable.sql_aloof rfl (s.userMetricTable_aloof p.metric "__userMetric" rfl .nil
        (.written rfl))
    · split
      · exact List.forall_mem_singleton.mpr (DerivedTable.sql_aloof rfl
          (s.userMetricTable_aloof p.metric "__userMetricDates" rfl (.cons hday (.next rfl .nil))
            (.cons hday (.next rfl .nil))))
      · exact List.forall_mem_nil _
  case body =>
    refine .next rfl (.cons (dateColumn_aloof _) (.cons ?_ (.cons (hladder ?_) (.next rfl
      (.cons ?_ (.next rfl .nil))))))
    · exact .append (.written rfl) (.written rfl)
    · rintro _ ⟨⟩
      exact .written rfl
    · split
      · refine .cons ?_ (.cons (hladder ?_) (.cons ?_ .nil))
        · exact .append (.written rfl) (.written rfl)
        · simp
        · exact .append (.written rfl) (.written rfl)
      · exact .nil

theorem composedUsersQuery_bridges {a : Analysis} {q : Query}
    (htexts : ∀ t ∈ a.texts, Watchword.join.Absent t)
    (hcolumns : ∀ column ∈ a.columns, Watchword.join.Absent column)
    (hnames : ∀ name ∈ a.names, Watchword.join.Absent name)
    (hgiven : ∀ v ∈ a.experiment.trackingKey :: a.given s.dialect, Watchword.join.Absent v)
    (hq : s.composedUsersQuery a = .ok q) : s.Bridges (.experimentUsers a) q := by
  obtain ⟨hkey, hgiven⟩ := List.forall_mem_cons.mp hgiven
  obtain ⟨views, hviews, hq⟩ := Except.bind_eq_ok.mp hq
  obtain ⟨population, hpopulation, hq⟩ := Except.bind_eq_ok.mp hq
  obtain rfl := Except.ok.inj hq
  obtain ⟨hfirst, hown⟩ := experimentTable_takesOwn hs hkey hviews
  refine bridges_of_tables (Watchword.join.absent_of_check rfl) rfl rfl hfirst rfl hown
    (populationTables_takePart hs htexts hcolumns hnames hgiven hpopulation) ?others ?body
  case others =>
    exact List.forall_mem_singleton.mpr (DerivedTable.sql_aloof rfl
      (.cons a.distinctUsersHead_aloof (.cons a.distinctUsersTail_aloof .nil)))
  case body =>
    have hcomment :
        (Sql.comment "Count of distinct users in experiment per variation/dimension").Aloof :=
      rfl
    exact .cons hcomment (.cons (.append (.written rfl) (.written rfl)) .nil)

theorem composedMetricQuery_bridges {a : Analysis} {m : MetricDefinition} {q : Query}
    (htexts : ∀ t ∈ a.texts ++ m.texts, Watchword.join.Absent t)
    (hcolumns : ∀ column ∈ a.columns ++ m.column.toList, Watchword.join.Absent column)
    (hnames : ∀ name ∈ m.name :: a.names, Watchword.join.Absent name)
    (hgiven : ∀ v ∈ a.experiment.trackingKey :: (m.given s.dialect ++ a.given s.dialect),
      Watchword.join.Absent v)
    (hq : s.composedMetricQuery a m = .ok q) : s.Bridges (.experimentMetric a m) q := by
  obtain ⟨htexts, hmtexts⟩ := List.forall_mem_append.mp htexts
  obtain ⟨hcolumns, hmcolumn⟩ := List.forall_mem_append.mp hcolumns
  obtain ⟨hmname, hnames⟩ := List.forall_mem_cons.mp hnames
  obtain ⟨hkey, hgiven⟩ := List.forall_mem_cons.mp hgiven
  obtain ⟨hmgiven, hgiven⟩ := List.forall_mem_append.mp hgiven
  replace hmcolumn : ∀ column ∈ m.column, Watchword.join.Absent column := fun column hcolumn =>
    hmcolumn column (Option.mem_toList.mpr hcolumn)
  obtain ⟨views, hviews, hq⟩ := Except.bind_eq_ok.mp hq
  obtain ⟨population, hpopulation, hq⟩ := Except.bind_eq_ok.mp hq
  obtain ⟨metric, hmetric, hq⟩ := Except.bind_eq_ok.mp hq
  obtain rfl := Except.ok.inj hq
  obtain ⟨hfirst, hown⟩ := experimentTable_takesOwn hs hkey hviews
  have htitle : Watchword.join.Absent (m.name ++ " (" ++ m.type.name ++ ")") := by
    have htype : Watchword.join.Absent m.type.name := by
      cases m.type <;> exact Watchword.join.absent_of_check rfl
    have hchars : (m.name ++ " (" ++ m.type.name ++ ")").toList =
        m.name.toList ++ ' ' :: ([] ++ '(' :: (m.type.name.toList ++ ')' :: [])) := by
      simp
    rw [Watchword.Absent, hchars]
    exact Watchword.not_infix_append_cons rfl hmname (Watchword.not_infix_append_cons rfl
      Watchword.not_infix_nil (Watchword.not_infix_append_cons rfl htype Watchword.not_infix_nil))
  have hmetric := metricTable_takesPart hs "__metric" rfl rfl hmtexts hmcolumn hmname
    hmgiven hmetric
  refine bridges_of_tables htitle rfl rfl hfirst rfl hown (.cons hmetric
    (populationTables_takePart hs htexts hcolumns hnames hgiven hpopulation)) ?others ?body
  case others =>
    simp only [List.forall_mem_cons]
    refine ⟨DerivedTable.sql_aloof rfl (.cons a.distinctUsersHead_aloof (.cons ?_
      (.cons a.distinctUsersTail_aloof .nil))), DerivedTable.sql_aloof rfl
        (s.userMetricTable_aloof m "__userMetric" rfl (.written rfl) (.written rfl)),
        List.forall_mem_nil _⟩
    rw [Sql.Aloof, Sql.chars_code]
    simp only [String.toList_append]
    cases a.activation.isSome <;> decide +kernel
  case body =>
    have hcomment : (Sql.comment
        "Sum all user metrics together to get a total per variation/dimension").Aloof := rfl
    show (Sql.concat [.comment _, .code _, .code momentColumns, .code _]).Aloof
    exact .cons hcomment (.next rfl (.next rfl (.next rfl .nil)))

theorem composed_bridges {c : Composition} {q : Query}
    (htexts : ∀ t ∈ c.texts, Watchword.join.Absent t)
    (hcolumns : ∀ column ∈ c.columns, Watchword.join.Absent column)
    (hnames : ∀ name ∈ c.names, Watchword.join.Absent name)
    (hgiven : ∀ v ∈ c.given s.dialect, Watchword.join.Absent v)
    (hq : s.composed c = .ok q) : s.Bridges c q := by
  cases c with
  | users p => exact usersQuery_bridges hs htexts hnames hgiven hq
  | metricValue p =>
    have hcolumn : ∀ column ∈ p.metric.column, Watchword.join.Absent column := fun column hcolumn =>
      hcolumns column (Option.mem_toList.mpr hcolumn)
    exact metricValueQuery_bridges hs htexts hcolumn hnames hgiven hq
  | experimentUsers a => exact composedUsersQuery_bridges hs htexts hcolumns hnames hgiven hq
  | experimentMetric a m => exact composedMetricQuery_bridges hs htexts hcolumns hnames hgiven hq

omit hs in
/-- In a query of texts without the word of a join there is one join with the identifies table for
each participant whose identifiers are of another type than the query asks for.  The table of each
participant selects the requested identifier, through such a join or as its own column, and so does
the table of people, which needs no join. -/
theorem identities_bridged_exactly {c : Composition} {text : Sql} (hown : c.isOverridden = false)
    (htexts : ∀ t ∈ s.texts ++ c.supplied, Watchword.join.Absent t)
    (htext : s.compose c = .ok text) :
    ∃ q, s.composed c = .ok q ∧ text = q.sql ∧
      occurrences s.bridgeMark.toList text.text.toList =
        (c.participants s).countP (·.native ≠ c.requested) ∧
      (∀ x ∈ c.participants s, ∃ t ∈ q.tables, t.name = x.table ∧
        s.Takes c.requested x t.body) ∧
      ∃ t ∈ q.tables, t.name = (c.people s).1 ∧
        TakesOwn (c.people s).2.1 (c.people s).2.2 t.body := by
  rw [s.compose_of_not_overridden hown] at htext
  obtain ⟨q, hq, rfl⟩ := Except.map_eq_ok.mp htext
  simp only [Composition.supplied, List.forall_mem_append] at htexts
  obtain ⟨hs, ⟨⟨htexts, hcolumns⟩, hnames⟩, hvalues⟩ := htexts
  have hbridges := composed_bridges hs htexts hcolumns hnames
    (c.absent_given s.dialect hvalues) hq
  exact ⟨q, hq, rfl, hbridges.count, hbridges.takes, hbridges.people⟩

omit hs in
/-- An order knows visitors by a column of its own, and only that column stands in the join. -/
theorem identities_bridged_exactly_orders :
    let s : Source := ⟨.builtin, ⟨.postgres, none, none⟩⟩
    let day : DateTime := ⟨⟨⟨737852, by decide⟩⟩, ⟨0, by decide⟩, 0, none⟩
    let m : MetricDefinition :=
      { MetricDefinition.minimal "m" "Orders" .count "orders" with
        userIdType := .anonymous, anonymousIdColumn := some "visitor",
        userIdColumn := some "buyer" }
    let a : Analysis :=
      { experiment := { ExperimentDefinition.minimal "e" "checkout" ["a", "b"] with
          userIdType := .user }
        phase := ⟨day, none⟩, now := day, activation := some (.minimal "v" "Visits" .count "visits")
        dimension := some ⟨"Country", "SELECT user_id, value FROM countries", .anonymous⟩ }
    let c : Composition := .experimentMetric a m
    (c.isOverridden = false ∧ ∀ t ∈ s.texts ++ c.supplied, Watchword.join.Absent t) ∧
      ∃ text, s.compose c = .ok text ∧
        occurrences "JOIN identifies i ON (".toList text.text.toList = 2 ∧
        s.bridge c.requested (.metric s "__metric" m) =
          "JOIN identifies i ON (\n  i.anonymous_id = m.visitor\n)" := by
  intro s day m a c
  have htexts : ∀ t ∈ s.texts ++ c.supplied, Watchword.join.Absent t := by decide +kernel
  obtain ⟨text, htext⟩ : ∃ text, s.compose c = .ok text := Except.exists_eq_ok (by decide +kernel)
  obtain ⟨q, -, -, hcount, -⟩ := identities_bridged_exactly (c := c) rfl htexts htext
  exact ⟨⟨rfl, htexts⟩, text, htext, hcount, by decide +kernel⟩

end Source

end SplitTest
