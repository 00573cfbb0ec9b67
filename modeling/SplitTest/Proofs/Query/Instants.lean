import SplitTest.Proofs.Calendar.Stamp
import SplitTest.Proofs.Query.Composition
import SplitTest.Proofs.Schema.Minimal
import SplitTest.Query.Discovery

/-! Times in queries.  A query depends on the instants that its times denote and not on their zones,
with one exception: the queries for pages look at whole days, and a day begins at midnight on the
clock that shows the time. -/

namespace SplitTest

open DateTime (SameInstant)
open SplitTest.Except (Agree)

/-! ### Arguments that denote the same instants -/

/-- Two phases that begin and end at the same instants. -/
structure ExperimentPhase.SameInstants (p q : ExperimentPhase) : Prop where
  started : SameInstant p.dateStarted q.dateStarted
  ended : Option.Rel SameInstant p.dateEnded q.dateEnded

/-- Two analyses that differ in the zones of their times only. -/
structure Analysis.SameInstants (a b : Analysis) : Prop where
  experiment : a.experiment = b.experiment
  activation : a.activation = b.activation
  dimension : a.dimension = b.dimension
  phase : a.phase.SameInstants b.phase
  now : SameInstant a.now b.now

theorem Dialect.formatTimestamp_agree (d : Dialect) {t u : DateTime} (h : SameInstant t u) :
    Agree (d.formatTimestamp t) (d.formatTimestamp u) := by
  intro q q' hq hq'
  obtain ⟨t', ht, rfl⟩ := d.formatTimestamp_eq_ok.mp hq
  obtain ⟨u', hu, rfl⟩ := d.formatTimestamp_eq_ok.mp hq'
  obtain ⟨-, hoffset, ht⟩ := DateTime.toUtc_eq_ok_iff.mp ht
  obtain ⟨-, hoffset', hu⟩ := DateTime.toUtc_eq_ok_iff.mp hu
  rw [((ht.symm.trans h).trans hu).eq hoffset hoffset']

theorem ExperimentDefinition.override_agree (e : ExperimentDefinition) (d : Dialect)
    {p q : ExperimentPhase} (h : p.SameInstants q) (key : String) {now now' : DateTime}
    (hnow : SameInstant now now') :
    Agree (e.override d p key now) (e.override d q key now') := by
  obtain ⟨started, ended⟩ := p
  obtain ⟨started', ended'⟩ := q
  obtain ⟨hstarted, hended⟩ := h
  have hend : SameInstant (ended.getD now) (ended'.getD now') := by
    cases hended with
    | some h => exact h
    | none => exact hnow
  unfold override
  split
  · exact .refl _
  · exact .map _ (.bind (d.formatTimestamp_agree hstarted) fun first =>
      .bind (d.formatTimestamp_agree hend) fun last => .refl _)

namespace Source

variable (s : Source)

theorem experimentTable_agree (e : ExperimentDefinition) (idType : IdType)
    {p q : ExperimentPhase} (h : p.SameInstants q) :
    Agree (s.experimentTable e p idType) (s.experimentTable e q idType) := by
  obtain ⟨started, ended⟩ := p
  obtain ⟨started', ended'⟩ := q
  obtain ⟨hstarted, hended⟩ := h
  have hrest (f : Sql → Sql → Except Fault Sql) (last : Sql) :
      Agree (s.dialect.formatTimestamp started >>= fun first => f first last)
        (s.dialect.formatTimestamp started' >>= fun first => f first last) :=
    .bind (s.dialect.formatTimestamp_agree hstarted) fun first => .refl (f first last)
  cases hended with
  | some h =>
    exact .bind (s.dialect.formatTimestamp_agree h) fun last => .bind (.refl _) (hrest _)
  | none => exact .bind (.refl _) (hrest _)

theorem composedUsersQuery_agree {a b : Analysis} (h : a.SameInstants b) :
    Agree (s.composedUsersQuery a) (s.composedUsersQuery b) := by
  obtain ⟨experiment, phase, activation, dimension, now⟩ := a
  obtain ⟨_, phase', _, _, now'⟩ := b
  obtain ⟨rfl, rfl, rfl, hphase, hnow⟩ := h
  exact .bind (s.experimentTable_agree experiment _ hphase) fun t => .refl _

theorem composedMetricQuery_agree {a b : Analysis} (h : a.SameInstants b) (m : MetricDefinition) :
    Agree (s.composedMetricQuery a m) (s.composedMetricQuery b m) := by
  obtain ⟨experiment, phase, activation, dimension, now⟩ := a
  obtain ⟨_, phase', _, _, now'⟩ := b
  obtain ⟨rfl, rfl, rfl, hphase, hnow⟩ := h
  exact .bind (s.experimentTable_agree experiment _ hphase) fun t => .refl _

/-- An override, or else a composed query. -/
theorem override_agree {a b : Analysis} (h : a.SameInstants b) (key : String)
    {composed composed' : Except Fault Query} (hcomposed : Agree composed composed') :
    Agree
      (do
        match ← a.experiment.override s.dialect a.phase key a.now with
        | some sql => pure sql
        | none => pure (← composed).sql : Except Fault Sql)
      (do
        match ← b.experiment.override s.dialect b.phase key b.now with
        | some sql => pure sql
        | none => pure (← composed').sql : Except Fault Sql) := by
  rw [← h.experiment]
  refine .bind (a.experiment.override_agree s.dialect h.phase key h.now) fun sql => ?_
  cases sql with
  | some sql => exact .refl _
  | none => exact .bind hcomposed fun q => .refl _

theorem experimentUsersQuery_agree {a b : Analysis} (h : a.SameInstants b) :
    Agree (s.experimentUsersQuery a) (s.experimentUsersQuery b) :=
  s.override_agree h _ (s.composedUsersQuery_agree h)

theorem experimentMetricQuery_agree {a b : Analysis} (h : a.SameInstants b)
    (m : MetricDefinition) :
    Agree (s.experimentMetricQuery a m) (s.experimentMetricQuery b m) :=
  s.override_agree h _ (s.composedMetricQuery_agree h m)

theorem pastExperimentsQuery_agree {t u : DateTime} (h : SameInstant t u) :
    Agree (s.pastExperimentsQuery t) (s.pastExperimentsQuery u) :=
  .bind (s.dialect.formatTimestamp_agree h) fun _ => .refl _

end Source

/-! ### Texts with other literals -/

namespace Sql

/-- The same characters but for some literals, which denote `values` in the first text and `others`
in the second, in this order. -/
inductive Refilled : List Char → List Char → (values others : List String) → Prop
  | nil : Refilled [] [] [] []
  | same (c : Char) {cs ds : List Char} {values others : List String}
      (rest : Refilled cs ds values others) : Refilled (c :: cs) (c :: ds) values others
  | literal (value other : String) {cs ds : List Char} {values others : List String}
      (rest : Refilled cs ds values others) :
      Refilled ((Literal.encode value).toList ++ cs) ((Literal.encode other).toList ++ ds)
        (value :: values) (other :: others)

namespace Refilled

variable {cs ds cs' ds' : List Char} {values others values' others' : List String}

theorem skip (before : List Char) (h : Refilled cs ds values others) :
    Refilled (before ++ cs) (before ++ ds) values others := by
  induction before with
  | nil => exact h
  | cons c before ih => exact .same c ih

theorem append_same (h : Refilled cs ds values others) (after : List Char) :
    Refilled (cs ++ after) (ds ++ after) values others := by
  induction h with
  | nil => simpa using skip after .nil
  | same c _ ih => exact .same c ih
  | literal value other _ ih =>
    rw [List.append_assoc, List.append_assoc]
    exact .literal value other ih

/-- Values without quotes can be told from the text. -/
theorem eq_iff (h : Refilled cs ds values others) (hvalues : ∀ value ∈ values, Word.Clear value)
    (hothers : ∀ other ∈ others, Word.Clear other) : cs = ds ↔ values = others := by
  induction h with
  | nil => simp
  | same c _ ih => simp [ih hvalues hothers]
  | @literal value other cs ds values others _ ih =>
    obtain ⟨hvalue, hvalues⟩ := List.forall_mem_cons.mp hvalues
    obtain ⟨hother, hothers⟩ := List.forall_mem_cons.mp hothers
    have hchars {s : String} (hs : Word.Clear s) (cs : List Char) :
        (Literal.encode s).toList ++ cs = Literal.quote :: (s.toList ++ Literal.quote :: cs) := by
      simp [Literal.encode_of_clear hs]
    rw [hchars hvalue, hchars hother, List.cons.injEq, List.cons.injEq, ← ih hvalues hothers]
    constructor
    · rintro ⟨-, heq⟩
      obtain ⟨hfirst, hrest⟩ := append_cons_inj_of_first (fun hmem => (hvalue _ hmem).2 rfl)
        (fun hmem => (hother _ hmem).2 rfl) heq
      exact ⟨String.toList_inj.mp hfirst, hrest⟩
    · rintro ⟨rfl, rfl⟩
      exact ⟨rfl, rfl⟩

end Refilled

/-- A text and the same text with other literals. -/
def Refills (p q : Sql) (values others : List String) : Prop :=
  Refilled p.chars q.chars values others

namespace Refills

variable {p q : Sql} {ps qs : List Sql} {values others : List String}

theorem skip (p : Sql) (h : (concat ps).Refills (concat qs) values others) :
    (concat (p :: ps)).Refills (concat (p :: qs)) values others := by
  unfold Refills at h ⊢
  rw [concat_cons, concat_cons, chars_append, chars_append]
  exact h.skip p.chars

theorem here (h : p.Refills q values others) (ps : List Sql) :
    (concat (p :: ps)).Refills (concat (q :: ps)) values others := by
  unfold Refills at h ⊢
  rw [concat_cons, concat_cons, chars_append, chars_append]
  exact h.append_same _

theorem literal (value other : String) (h : (concat ps).Refills (concat qs) values others) :
    (concat (Sql.literal value :: ps)).Refills (concat (Sql.literal other :: qs)) (value :: values)
      (other :: others) := by
  unfold Refills at h ⊢
  rw [concat_cons, concat_cons, chars_append, chars_append, chars_literal, chars_literal]
  exact .literal value other h

theorem refl (p : Sql) : p.Refills p [] [] := by
  simpa [Refills] using Refilled.skip p.chars .nil

theorem join (separator : Sql) (h : p.Refills q values others) (ps : List Sql) :
    (Sql.join separator (p :: ps)).Refills (Sql.join separator (q :: ps)) values others := by
  cases ps with
  | nil => exact h.here []
  | cons p' ps => exact h.here _

end Refills
end Sql

/-- A query whose first table has other literals. -/
theorem Query.sql_refills (title name separator : String) (tables : List DerivedTable)
    (body : Sql) {t u : Sql} {values others : List String} (h : t.Refills u values others) :
    (sql ⟨title, ⟨name, t⟩ :: tables, separator, body⟩).Refills
      (sql ⟨title, ⟨name, u⟩ :: tables, separator, body⟩) values others := by
  have htable : (DerivedTable.mk name t).sql.Refills (DerivedTable.mk name u).sql values others :=
    .skip _ (.skip _ (h.here _))
  exact .skip _ (.skip _ ((htable.join _ _).here _))

namespace Source

variable (s : Source)

/-! ### The bounds of a query for pages -/

theorem pageUsersTable_refills (p : UsersQueryParams) {dateFrom dateTo : DateTime} {q q' : Sql}
    (hq : s.pageUsersTable p = .ok q)
    (hq' : s.pageUsersTable { p with dateFrom, dateTo } = .ok q') :
    ∃ first last first' last' : DateTime, p.dateFrom.startOfDay.toUtc = .ok first ∧
      p.dateTo.startOfDay.toUtc = .ok last ∧ dateFrom.startOfDay.toUtc = .ok first' ∧
      dateTo.startOfDay.toUtc = .ok last' ∧
      q.Refills q' [first.stampText, last.stampText] [first'.stampText, last'.stampText] := by
  obtain ⟨_, hfirst, hq⟩ := Except.bind_eq_ok.mp hq
  obtain ⟨_, hlast, hq⟩ := Except.bind_eq_ok.mp hq
  obtain ⟨_, hfirst', hq'⟩ := Except.bind_eq_ok.mp hq'
  obtain ⟨_, hlast', hq'⟩ := Except.bind_eq_ok.mp hq'
  obtain ⟨first, hfrom, rfl⟩ := s.dialect.formatTimestamp_eq_ok.mp hfirst
  obtain ⟨last, hto, rfl⟩ := s.dialect.formatTimestamp_eq_ok.mp hlast
  obtain ⟨first', hfrom', rfl⟩ := s.dialect.formatTimestamp_eq_ok.mp hfirst'
  obtain ⟨last', hto', rfl⟩ := s.dialect.formatTimestamp_eq_ok.mp hlast'
  obtain rfl := Except.pure_eq_ok.mp hq
  obtain rfl := Except.pure_eq_ok.mp hq'
  refine ⟨first, last, first', last', hfrom, hto, hfrom', hto', ?_⟩
  -- With the stamps as variables a piece that is not the same on both sides is seen at once.
  generalize first.stampText = v, last.stampText = w, first'.stampText = v', last'.stampText = w'
  repeat with_reducible refine .skip _ ?_
  refine .literal v v' ?_
  repeat with_reducible refine .skip _ ?_
  exact .literal w w' (.refl _)

theorem usersQuery_refills (p : UsersQueryParams) {dateFrom dateTo : DateTime} {q q' : Query}
    (hq : s.usersQuery p = .ok q) (hq' : s.usersQuery { p with dateFrom, dateTo } = .ok q') :
    ∃ t t', s.pageUsersTable p = .ok t ∧ s.pageUsersTable { p with dateFrom, dateTo } = .ok t' ∧
      ∀ values others, t.Refills t' values others → q.sql.Refills q'.sql values others := by
  obtain ⟨ts, hts, hq⟩ := Except.bind_eq_ok.mp hq
  obtain ⟨ts', hts', hq'⟩ := Except.bind_eq_ok.mp hq'
  obtain ⟨t, ht, rfl⟩ := visitorTables_eq_ok.mp hts
  obtain ⟨t', ht', rfl⟩ := visitorTables_eq_ok.mp hts'
  obtain rfl := Except.pure_eq_ok.mp hq
  obtain rfl := Except.pure_eq_ok.mp hq'
  exact ⟨t, t', ht, ht', fun values others h => Query.sql_refills _ _ _ _ _ h⟩

theorem metricValueQuery_refills (p : MetricValueParams) {dateFrom dateTo : DateTime}
    {q q' : Query} (hq : s.metricValueQuery p = .ok q)
    (hq' : s.metricValueQuery { p with dateFrom, dateTo } = .ok q') :
    ∃ t t', s.pageUsersTable p.toUsersQueryParams = .ok t ∧
      s.pageUsersTable { p.toUsersQueryParams with dateFrom, dateTo } = .ok t' ∧
      ∀ values others, t.Refills t' values others → q.sql.Refills q'.sql values others := by
  obtain ⟨ts, hts, hq⟩ := Except.bind_eq_ok.mp hq
  obtain ⟨ts', hts', hq'⟩ := Except.bind_eq_ok.mp hq'
  obtain ⟨metric, hmetric, hq⟩ := Except.bind_eq_ok.mp hq
  obtain ⟨metric', hmetric', hq'⟩ := Except.bind_eq_ok.mp hq'
  obtain rfl := Except.ok.inj (hmetric.symm.trans hmetric')
  obtain ⟨t, ht, rfl⟩ := visitorTables_eq_ok.mp hts
  obtain ⟨t', ht', rfl⟩ := visitorTables_eq_ok.mp hts'
  obtain rfl := Except.pure_eq_ok.mp hq
  obtain rfl := Except.pure_eq_ok.mp hq'
  exact ⟨t, t', ht, ht', fun values others h => Query.sql_refills _ _ _ _ _ h⟩

/-- The bounds of a query for pages can be told from its text. -/
theorem text_eq_iff_of_refills (p : UsersQueryParams) {dateFrom dateTo : DateTime} {q q' t t' : Sql}
    (ht : s.pageUsersTable p = .ok t) (ht' : s.pageUsersTable { p with dateFrom, dateTo } = .ok t')
    (hrefills : ∀ values others, t.Refills t' values others → q.Refills q' values others) :
    q.text = q'.text ↔ SameInstant p.dateFrom.startOfDay dateFrom.startOfDay ∧
      SameInstant p.dateTo.startOfDay dateTo.startOfDay := by
  obtain ⟨first, last, first', last', hfirst, hlast, hfirst', hlast', hdiffer⟩ :=
    s.pageUsersTable_refills p ht ht'
  have hclear (u v : DateTime) : ∀ stamp ∈ [u.stampText, v.stampText], Word.Clear stamp :=
    List.forall_mem_cons.mpr ⟨.stamp u, List.forall_mem_singleton.mpr (.stamp v)⟩
  have hchars : q.text = q'.text ↔ q.chars = q'.chars := String.toList_inj.symm
  rw [hchars, (hrefills _ _ hdiffer).eq_iff (hclear _ _) (hclear _ _), List.cons.injEq,
    List.cons.injEq, DateTime.stampText_eq_iff hfirst hfirst' rfl,
    DateTime.stampText_eq_iff hlast hlast' rfl, and_iff_left rfl]

/-- Queries for an experiment and for past experiments are the same for the same instants, and so
are queries for pages exactly if the days of both dates begin at the same instants. -/
theorem text_of_same_instants :
    (∀ (a b : Analysis) (q q' : Sql), a.SameInstants b → s.experimentUsersQuery a = .ok q →
      s.experimentUsersQuery b = .ok q' → q.text = q'.text) ∧
    (∀ (a b : Analysis) (m : MetricDefinition) (q q' : Sql), a.SameInstants b →
      s.experimentMetricQuery a m = .ok q → s.experimentMetricQuery b m = .ok q' →
      q.text = q'.text) ∧
    (∀ (t u : DateTime) (q q' : Query), SameInstant t u → s.pastExperimentsQuery t = .ok q →
      s.pastExperimentsQuery u = .ok q' → q.sql.text = q'.sql.text) ∧
    (∀ (p : UsersQueryParams) (dateFrom dateTo : DateTime) (q q' : Query),
      s.usersQuery p = .ok q → s.usersQuery { p with dateFrom, dateTo } = .ok q' →
      (q.sql.text = q'.sql.text ↔ SameInstant p.dateFrom.startOfDay dateFrom.startOfDay ∧
        SameInstant p.dateTo.startOfDay dateTo.startOfDay)) ∧
    (∀ (p : MetricValueParams) (dateFrom dateTo : DateTime) (q q' : Query),
      s.metricValueQuery p = .ok q → s.metricValueQuery { p with dateFrom, dateTo } = .ok q' →
      (q.sql.text = q'.sql.text ↔ SameInstant p.dateFrom.startOfDay dateFrom.startOfDay ∧
        SameInstant p.dateTo.startOfDay dateTo.startOfDay)) := by
  refine ⟨?_, ?_, ?_, ?_, ?_⟩
  · intro a b q q' h hq hq'
    rw [s.experimentUsersQuery_agree h q q' hq hq']
  · intro a b m q q' h hq hq'
    rw [s.experimentMetricQuery_agree h m q q' hq hq']
  · intro t u q q' h hq hq'
    rw [s.pastExperimentsQuery_agree h q q' hq hq']
  · intro p dateFrom dateTo q q' hq hq'
    obtain ⟨t, t', ht, ht', hrefills⟩ := s.usersQuery_refills p hq hq'
    exact s.text_eq_iff_of_refills p ht ht' hrefills
  · intro p dateFrom dateTo q q' hq hq'
    obtain ⟨t, t', ht, ht', hrefills⟩ := s.metricValueQuery_refills p hq hq'
    exact s.text_eq_iff_of_refills p.toUsersQueryParams ht ht' hrefills

/-- A phase that begins at midnight in Berlin, written with its zone and in UTC. -/
theorem text_of_same_instants_midnight :
    let s : Source := { settings := .builtin, dialect := ⟨.postgres, none, none⟩ }
    let berlin : DateTime := ⟨⟨⟨737821, by decide⟩⟩, ⟨0, by decide⟩, 0, some 3600⟩
    let utc : DateTime := ⟨⟨⟨737820, by decide⟩⟩, ⟨82800, by decide⟩, 0, none⟩
    let a (started : DateTime) : Analysis :=
      { experiment := .minimal "e" "exp" ["control", "treatment"], phase := ⟨started, none⟩
        activation := none, dimension := none, now := utc }
    (a berlin).SameInstants (a utc) ∧ ∃ q q', s.experimentUsersQuery (a berlin) = .ok q ∧
      s.experimentUsersQuery (a utc) = .ok q' ∧ q.text = q'.text := by
  intro s berlin utc a
  have h : SameInstant berlin utc := ⟨by decide +kernel, rfl⟩
  have hsame : (a berlin).SameInstants (a utc) := ⟨rfl, rfl, rfl, ⟨h, .none⟩, .refl utc⟩
  obtain ⟨q, hq⟩ := Except.exists_eq_ok (x := s.experimentUsersQuery (a berlin)) (by decide +kernel)
  obtain ⟨q', hq'⟩ := Except.exists_eq_ok (x := s.experimentUsersQuery (a utc)) (by decide +kernel)
  exact ⟨hsame, q, q', hq, hq', s.text_of_same_instants.1 _ _ q q' hsame hq hq'⟩

/-- The day of midnight in Berlin begins later than the day that UTC shows then. -/
theorem usersQuery_depends_on_zone :
    let s : Source := { settings := .builtin, dialect := ⟨.postgres, none, none⟩ }
    let berlin : DateTime := ⟨⟨⟨737821, by decide⟩⟩, ⟨0, by decide⟩, 0, some 3600⟩
    let utc : DateTime := ⟨⟨⟨737820, by decide⟩⟩, ⟨82800, by decide⟩, 0, none⟩
    let p (dateFrom : DateTime) : UsersQueryParams :=
      { name := "Traffic", dateFrom, dateTo := ⟨⟨⟨737830, by decide⟩⟩, ⟨0, by decide⟩, 0, none⟩
        urlRegex := none, segment := none, userIdType := .user, conversionWindowHours := 72
        includeByDate := false }
    berlin.isoText = "2021-02-01T00:00:00+01:00" ∧ utc.isoText = "2021-01-31T23:00:00" ∧
      SameInstant berlin utc ∧ ∃ q q', s.usersQuery (p berlin) = .ok q ∧
        s.usersQuery (p utc) = .ok q' ∧ q.sql.text ≠ q'.sql.text := by
  intro s berlin utc p
  obtain ⟨q, hq⟩ := Except.exists_eq_ok (x := s.usersQuery (p berlin)) (by decide +kernel)
  obtain ⟨q', hq'⟩ := Except.exists_eq_ok (x := s.usersQuery (p utc)) (by decide +kernel)
  refine ⟨by decide +kernel, by decide +kernel, ⟨by decide +kernel, rfl⟩, q, q', hq, hq', ?_⟩
  intro heq
  obtain ⟨t, t', ht, ht', hrefills⟩ := s.usersQuery_refills (p berlin) hq hq'
  have hdays := ((s.text_eq_iff_of_refills (p berlin) ht ht' hrefills).mp heq).1.instant
  revert hdays
  decide +kernel

end Source

end SplitTest
