import SplitTest.Impact
import SplitTest.Proofs.Calendar.Stamp
import SplitTest.Proofs.Query.Composition
import SplitTest.Proofs.Schema.Minimal
import SplitTest.Proofs.Session.Estimate

/-! The window of an estimate.  The three queries keep the visits between two stamps, the same in
all of them.  The stamps are those of two midnights on the clock that shows the time of the
request; read as instants in UTC they are thirty days apart, and the later one lies at least three
days and less than four days before the request. -/

namespace SplitTest

namespace DateTime

/-! ### Midnights -/

/-- The number of microseconds from the start of the calendar in UTC. -/
def micros (t : DateTime) : Int := t.instant * 1000000 + t.micro.val

/-- The number of microseconds in a number of days. -/
def microsOfDays (n : Int) : Int := n * secondsPerDay * 1000000

variable {t u : DateTime}

theorem SameInstant.micros_eq (h : SameInstant t u) : t.micros = u.micros := by
  rw [micros, micros, h.instant, h.micro]

theorem minusDays?_eq_some {n : Int} (h : t.minusDays? n = some u) :
    u.offset = t.offset ∧ (u.date.number : Int) = t.date.number - n := by
  obtain ⟨date, hdate, rfl⟩ := Option.map_eq_some_iff.mp h
  exact ⟨rfl, Date.ofNumber?_eq_some_iff.mp hdate⟩

theorem instant_startOfDay (t : DateTime) :
    t.startOfDay.instant = t.date.number * 86400 - t.offset.getD 0 := by
  simp [instant, clock, startOfDay, secondsPerDay]

/-- Between the midnight of an earlier day and the same clock time on it lies what the clock
shows. -/
theorem micros_startOfDay {n : Int} (h : t.minusDays? n = some u) :
    u.startOfDay.micros + (t.second.val * 1000000 + t.micro.val) = t.micros - microsOfDays n := by
  obtain ⟨hoffset, hnumber⟩ := minusDays?_eq_some h
  have hmicro : u.startOfDay.micro.val = 0 := rfl
  have hday : (secondsPerDay : Int) = 86400 := rfl
  have hclock : (t.clock : Int) = t.date.number * 86400 + t.second.val := by
    simp [clock, hday]
  rw [micros, micros, instant_startOfDay, hmicro, hoffset, hnumber, instant, hclock, microsOfDays,
    hday]
  omega

/-- The midnights of two earlier days are as far apart as the days. -/
theorem micros_startOfDay_sub {v : DateTime} {m n : Int} (hu : t.minusDays? m = some u)
    (hv : t.minusDays? n = some v) :
    v.startOfDay.micros - u.startOfDay.micros = microsOfDays m - microsOfDays n := by
  have hfirst := micros_startOfDay hu
  have hlast := micros_startOfDay hv
  omega

/-- The midnight of an earlier day is at least that many days back, and less than a day more. -/
theorem micros_startOfDay_bounds {n : Int} (h : t.minusDays? n = some u) :
    u.startOfDay.micros ≤ t.micros - microsOfDays n ∧
      t.micros - microsOfDays n < u.startOfDay.micros + microsOfDays 1 := by
  have hmidnight := micros_startOfDay h
  have hsecond : t.second.val < 86400 := t.second.isLt
  have hmicro : t.micro.val < 1000000 := t.micro.isLt
  have hday : microsOfDays 1 = 86400000000 := rfl
  omega

/-- The stamp of a midnight in UTC is read as that time. -/
theorem ofStamp?_of_midnight (h : t.startOfDay.toUtc = .ok u) : ofStamp? u.stampText = some u := by
  obtain ⟨-, hoffset, hsame⟩ := toUtc_eq_ok_iff.mp h
  have hmicro : u.micro = 0 := hsame.micro.symm
  rw [ofStamp?_stampText, ← hmicro, ← hoffset]

end DateTime

/-! ### Visits between two stamps -/

/-- The table of visitors, the first of a query, keeps the visits whose time lies between two
stamps; beside that it may keep those of some pages only. -/
def Query.KeepsVisits (q : Query) (time lower upper : String) : Prop :=
  ∃ columns pages person body tables, q.tables = ⟨"__users", body⟩ :: tables ∧
    body.text = columns ++ "\n    WHERE\n      " ++ time ++ " >= \x27" ++ lower ++
      "\x27\n      AND " ++ time ++ " <= \x27" ++ upper ++ "\x27" ++ pages ++
      "\n    GROUP BY\n      " ++ person ++ "\n    " ∧
    (pages = "" ∨ ∃ matching, pages = "\n      AND " ++ matching)

theorem Sql.text_stamp (t : DateTime) :
    (Sql.literal t.stampText).text = "\x27" ++ t.stampText ++ "\x27" := by
  rw [Sql.text_literal, Literal.encode_of_clear (.stamp t)]
  rfl

namespace Source

variable (s : Source)

/-- The column of the times of visits. -/
def visitTime : String := s.settings.timestampColumn .pageviews none

/-- A query that keeps the visits from the midnight of the first day of its parameters to that of
the last day, both in UTC. -/
def KeepsDays (p : UsersQueryParams) (q : Query) : Prop :=
  ∃ first last, p.dateFrom.startOfDay.toUtc = .ok first ∧ p.dateTo.startOfDay.toUtc = .ok last ∧
    q.KeepsVisits s.visitTime first.stampText last.stampText

theorem keepsDays_of_pageUsersTable {p : UsersQueryParams} {body : Sql}
    (h : s.pageUsersTable p = .ok body) (title separator : String) (tables : List DerivedTable)
    (rest : Sql) : s.KeepsDays p ⟨title, ⟨"__users", body⟩ :: tables, separator, rest⟩ := by
  obtain ⟨_, _, hfirst, hlast, htext⟩ := text_pageUsersTable h
  obtain ⟨first, hfrom, rfl⟩ := s.dialect.formatTimestamp_eq_ok.mp hfirst
  obtain ⟨last, hto, rfl⟩ := s.dialect.formatTimestamp_eq_ok.mp hlast
  refine ⟨first, last, hfrom, hto, s.visitColumns p, (s.pagesFilter p).text,
    s.settings.idColumn p.userIdType .pageviews none, body, tables, rfl, ?_, ?_⟩
  · simp only [htext, Sql.text_stamp, visitTime, String.append_assoc]
    rfl
  · unfold pagesFilter
    cases p.pageFilter? with
    | none => exact .inl rfl
    | some pattern =>
      exact .inr ⟨(s.dialect.regexMatch s.settings.pageviews.urlColumn pattern).text, by simp⟩

theorem keepsDays_of_usersQuery {p : UsersQueryParams} {q : Query} (h : s.usersQuery p = .ok q) :
    s.KeepsDays p q := by
  obtain ⟨tables, htables, h⟩ := Except.bind_eq_ok.mp h
  obtain ⟨body, hbody, rfl⟩ := visitorTables_eq_ok.mp htables
  obtain rfl := Except.pure_eq_ok.mp h
  exact s.keepsDays_of_pageUsersTable hbody _ _ _ _

theorem keepsDays_of_metricValueQuery {p : MetricValueParams} {q : Query}
    (h : s.metricValueQuery p = .ok q) : s.KeepsDays p.toUsersQueryParams q := by
  obtain ⟨tables, htables, h⟩ := Except.bind_eq_ok.mp h
  obtain ⟨metric, -, h⟩ := Except.bind_eq_ok.mp h
  obtain ⟨body, hbody, rfl⟩ := visitorTables_eq_ok.mp htables
  obtain rfl := Except.pure_eq_ok.mp h
  exact s.keepsDays_of_pageUsersTable hbody _ _ _ _

end Source

/-! ### The window -/

namespace Impact

variable {s : Source} {r : ImpactRequest}

theorem dates_of_baseParams {base : UsersQueryParams} (h : baseParams r = .ok base) :
    r.now.minusDays? (days + settleDays : Nat) = some base.dateFrom ∧
      r.now.minusDays? settleDays = some base.dateTo := by
  unfold baseParams at h
  split at h
  · rename_i dateFrom dateTo hfrom hto
    obtain rfl := Except.ok.inj h
    exact ⟨hfrom, hto⟩
  · cases h

/-- The three queries keep the visits between the same two midnights. -/
theorem keepsVisits_of_queries {qs : List Query} (h : queries s r = .ok qs) :
    ∃ base first last, baseParams r = .ok base ∧
      base.dateFrom.startOfDay.toUtc = .ok first ∧ base.dateTo.startOfDay.toUtc = .ok last ∧
      ∀ q ∈ qs, q.KeepsVisits s.visitTime first.stampText last.stampText := by
  obtain ⟨base, hbase, h⟩ := Except.bind_eq_ok.mp h
  obtain ⟨users, husers, h⟩ := Except.bind_eq_ok.mp h
  obtain ⟨site, hsite, h⟩ := Except.bind_eq_ok.mp h
  obtain ⟨pages, hpages, h⟩ := Except.bind_eq_ok.mp h
  obtain rfl := Except.pure_eq_ok.mp h
  obtain ⟨first, last, hfirst, hlast, husers⟩ := s.keepsDays_of_usersQuery husers
  -- The days of all three queries are those of the shared parameters.
  have hsame {q : Query} (hq : s.KeepsDays base q) :
      q.KeepsVisits s.visitTime first.stampText last.stampText := by
    obtain ⟨first', last', hfirst', hlast', hq⟩ := hq
    obtain rfl := Except.ok.inj (hfirst'.symm.trans hfirst)
    obtain rfl := Except.ok.inj (hlast'.symm.trans hlast)
    exact hq
  have hsite := hsame (s.keepsDays_of_metricValueQuery hsite)
  have hpages := hsame (s.keepsDays_of_metricValueQuery hpages)
  exact ⟨base, first, last, hbase, hfirst, hlast, by simp [husers, hsite, hpages]⟩

/-- All three queries of an estimate keep the visits between the same two stamps.  Read as instants
in UTC these are thirty days apart, and the later one lies at least three days and less than four
days before the request. -/
theorem window_of_queries {qs : List Query} (h : queries s r = .ok qs) :
    ∃ lower upper first last, qs.length = 3 ∧
      (∀ q ∈ qs, q.KeepsVisits s.visitTime lower upper) ∧
      DateTime.ofStamp? lower = some first ∧ DateTime.ofStamp? upper = some last ∧
      last.micros - first.micros = DateTime.microsOfDays 30 ∧
      last.micros ≤ r.now.micros - DateTime.microsOfDays 3 ∧
      r.now.micros - DateTime.microsOfDays 3 < last.micros + DateTime.microsOfDays 1 := by
  obtain ⟨base, first, last, hbase, hfirst, hlast, hqs⟩ := keepsVisits_of_queries h
  obtain ⟨hfrom, hto⟩ := dates_of_baseParams hbase
  have hmicros := (DateTime.toUtc_eq_ok_iff.mp hfirst).2.2.micros_eq
  have hmicros' := (DateTime.toUtc_eq_ok_iff.mp hlast).2.2.micros_eq
  have hdistance := DateTime.micros_startOfDay_sub hfrom hto
  have hbounds := DateTime.micros_startOfDay_bounds hto
  rw [hmicros, hmicros'] at hdistance
  rw [hmicros'] at hbounds
  exact ⟨_, _, first, last, length_queries h, hqs, DateTime.ofStamp?_of_midnight hfirst,
    DateTime.ofStamp?_of_midnight hlast, hdistance, hbounds.1, hbounds.2⟩

section LeapDay

/-- A request for the number of orders. -/
def ordersImpact (now : DateTime) : ImpactRequest :=
  { metric := .minimal "m" "Orders" .count "orders", urlRegex := none, segment := none, now }

/-- Early on 1 April 2024 it is still March in UTC, for a clock five and a half hours east, and the
window opens before the leap day. -/
theorem window_of_queries_leap_day :
    let s : Source := ⟨.builtin, ⟨.postgres, none, none⟩⟩
    let now : DateTime :=
      ⟨⟨⟨738976, by decide⟩⟩, ⟨8100, by decide⟩, ⟨500000, by decide⟩, some 19800⟩
    ∃ qs, queries s (ordersImpact now) = .ok qs ∧ ∃ lower upper first last, qs.length = 3 ∧
      (∀ q ∈ qs, q.KeepsVisits "received_at" lower upper) ∧
      DateTime.ofStamp? lower = some first ∧ DateTime.ofStamp? upper = some last ∧
      last.micros - first.micros = 2592000000000 ∧
      last.micros ≤ 63847255500500000 ∧ 63847255500500000 < last.micros + 86400000000 := by
  intro s now
  obtain ⟨qs, hqs⟩ : ∃ qs, queries s (ordersImpact now) = .ok qs :=
    Except.exists_eq_ok (by decide +kernel)
  obtain ⟨lower, upper, first, last, hlength, hqs', hlower, hupper, hdistance, hle, hlt⟩ :=
    window_of_queries hqs
  have hback : (ordersImpact now).now.micros - DateTime.microsOfDays 3 = 63847255500500000 := by
    decide +kernel
  rw [hback] at hle hlt
  exact ⟨qs, hqs, lower, upper, first, last, hlength, hqs', hlower, hupper, hdistance, hle, hlt⟩

end LeapDay

end Impact

end SplitTest
