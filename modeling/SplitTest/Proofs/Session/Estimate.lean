import SplitTest.Proofs.Results.NumberCells
import SplitTest.Proofs.Results.TextRows
import SplitTest.Proofs.Results.VariationFormats
import SplitTest.Proofs.Session.Law

/-! Estimates from answers whose cells are texts and nulls.  Every cell is read as a number, so all
that can go wrong is the arithmetic: a count may be too large for a floating point number, and a sum
may be.  Within these bounds an estimate is given, and its averages are finite. -/

namespace SplitTest

theorem Row.isFinite_numberIn {row : Row} (h : row.isText = true) (column : String) :
    (row.numberIn column).isFinite = true :=
  Cell.isFinite_of_toDouble (toDouble_get h column)

namespace Impact

/-! ### Daily averages -/

theorem inRange_eq_ok_iff {x : Option Double} {y : Double} : inRange x = .ok y ↔ x = some y := by
  cases x <;> simp [inRange]

theorem exists_dailyCount_iff {n : Int} :
    (∃ x, dailyCount n = .ok x) ↔ n.natAbs < Double.overflow * days := by
  simp only [dailyCount, inRange_eq_ok_iff]
  exact Double.exists_ofQuotient?_iff (by decide)

theorem isFinite_of_dailyCount {n : Int} {x : Double} (h : dailyCount n = .ok x) :
    x.isFinite = true :=
  (Double.ofQuotient?_eq_some_iff.mp (inRange_eq_ok_iff.mp h)).2

theorem dailySum_eq_ok_iff {count : Int} {mean x : Double} :
    dailySum count mean = .ok x ↔
      ∃ n, Double.ofInt? count = some n ∧ (n.mul mean).divNat days = x := by
  simp only [dailySum, Except.map_eq_ok, inRange_eq_ok_iff]

theorem exists_dailySum_iff {count : Int} {mean : Double} :
    (∃ x, dailySum count mean = .ok x) ↔ count.natAbs < Double.overflow := by
  rw [← Double.exists_ofInt?_iff]
  simp only [dailySum_eq_ok_iff]
  constructor
  · rintro ⟨x, n, hn, -⟩
    exact ⟨n, hn⟩
  · rintro ⟨n, hn⟩
    exact ⟨_, n, hn, rfl⟩

/-- The sum of a metric, the product of its count and its mean, is small enough for a floating point
number, and so is the count. -/
def SumFits (row : Row) : Prop :=
  ∃ n, Double.ofInt? (row.wholeIn "count") = some n ∧
    n.size * (row.numberIn "mean").size < Double.overflow * (Double.one * Double.one)

instance (row : Row) : Decidable (SumFits row) :=
  decidable_of_iff ((Double.ofInt? (row.wholeIn "count")).any fun n =>
    n.size * (row.numberIn "mean").size < Double.overflow * (Double.one * Double.one)) (by
      simp [SumFits, Option.any_eq_true])

variable {row : Row} (h : row.isText = true)
include h

theorem dailyValue_eq :
    dailyValue row = dailySum (row.wholeIn "count") (row.numberIn "mean") := by
  simp only [dailyValue, Row.toInt_get h, Row.toDouble_get h, bind, Except.bind]

theorem exists_dailyValue_iff :
    (∃ x, dailyValue row = .ok x) ↔ (row.wholeIn "count").natAbs < Double.overflow := by
  rw [dailyValue_eq h, exists_dailySum_iff]

theorem exists_finite_dailyValue_iff :
    (∃ x, dailyValue row = .ok x ∧ x.isFinite = true) ↔ SumFits row := by
  -- The mean in a text row is finite and a division keeps that, so all depends on the product.
  have hmean := Row.isFinite_numberIn h "mean"
  have hfinite {n : Double} (hn : Double.ofInt? (row.wholeIn "count") = some n) :
      ((n.mul (row.numberIn "mean")).divNat days).isFinite = true ↔
        n.size * (row.numberIn "mean").size < Double.overflow * (Double.one * Double.one) := by
    rw [Double.isFinite_divNat (by decide),
      Double.isFinite_mul_iff (Double.isFinite_of_ofInt? hn) hmean]
  simp only [dailyValue_eq h, dailySum_eq_ok_iff]
  constructor
  · rintro ⟨_, ⟨n, hn, rfl⟩, hx⟩
    exact ⟨n, hn, (hfinite hn).mp hx⟩
  · rintro ⟨n, hn, hsize⟩
    exact ⟨_, ⟨n, hn, rfl⟩, (hfinite hn).mpr hsize⟩

end Impact

/-- All averages of an estimate are finite numbers. -/
structure ImpactEstimate.IsFinite (e : ImpactEstimate) : Prop where
  users : e.users.isFinite = true
  value : e.value.isFinite = true
  metricTotal : e.metricTotal.isFinite = true

namespace Impact

/-! ### Estimates -/

theorem length_queries {s : Source} {r : ImpactRequest} {queries : List Query}
    (h : Impact.queries s r = .ok queries) : queries.length = 3 := by
  obtain ⟨base, -, h⟩ := Except.bind_eq_ok.mp h
  obtain ⟨users, -, h⟩ := Except.bind_eq_ok.mp h
  obtain ⟨site, -, h⟩ := Except.bind_eq_ok.mp h
  obtain ⟨pages, -, h⟩ := Except.bind_eq_ok.mp h
  obtain rfl := Except.pure_eq_ok.mp h
  rfl

/-- The counts of the three answers are small enough for floating point numbers. -/
def CountsFit : List Row → List Row → List Row → Prop
  | u :: _, s :: _, p :: _ =>
    (u.wholeIn "users").natAbs < Double.overflow * days ∧
      (s.wholeIn "count").natAbs < Double.overflow ∧ (p.wholeIn "count").natAbs < Double.overflow
  | _, _, _ => True

/-- The number of users and the sums of the metric are small enough for floating point numbers. -/
def TotalsFit : List Row → List Row → List Row → Prop
  | u :: _, s :: _, p :: _ =>
    (u.wholeIn "users").natAbs < Double.overflow * days ∧ SumFits s ∧ SumFits p
  | _, _, _ => True

/-- What an estimate makes of its answers: the averages, or zeros where an answer has no rows. -/
def averages? (users site pages : List Row) : Except Fault ImpactEstimate :=
  (estimate? users site pages).map (·.getD noData)

theorem averages?_of_noData {users site pages : List Row}
    (h : users = [] ∨ site = [] ∨ pages = []) : averages? users site pages = .ok noData := by
  rcases h with rfl | rfl | rfl
  · rfl
  · cases users <;> rfl
  · cases users <;> cases site <;> rfl

theorem averages?_cons {u s p : Row} {us ss ps : List Row} (hu : u.isText = true)
    {e : ImpactEstimate} : averages? (u :: us) (s :: ss) (p :: ps) = .ok e ↔
      dailyCount (u.wholeIn "users") = .ok e.users ∧ dailyValue p = .ok e.value ∧
        dailyValue s = .ok e.metricTotal := by
  simp only [averages?, estimate?, Row.toInt_get hu, Except.map_eq_ok, Except.bind_eq_ok,
    Except.pure_eq_ok, Except.ok.injEq, exists_eq_left']
  constructor
  · rintro ⟨_, ⟨users, husers, value, hvalue, total, htotal, rfl⟩, rfl⟩
    exact ⟨husers, hvalue, htotal⟩
  · rintro ⟨husers, hvalue, htotal⟩
    exact ⟨_, ⟨_, husers, _, hvalue, _, htotal, rfl⟩, rfl⟩

section

variable {users site pages : List Row} (htext : ∀ row ∈ users ++ site ++ pages, row.isText = true)
include htext

theorem exists_averages?_iff :
    (∃ e, averages? users site pages = .ok e) ↔ CountsFit users site pages := by
  match users, site, pages with
  | [], _, _ => exact iff_of_true ⟨_, averages?_of_noData (.inl rfl)⟩ trivial
  | _ :: _, [], _ => exact iff_of_true ⟨_, averages?_of_noData (.inr (.inl rfl))⟩ trivial
  | _ :: _, _ :: _, [] => exact iff_of_true ⟨_, averages?_of_noData (.inr (.inr rfl))⟩ trivial
  | u :: us, s :: ss, p :: ps =>
    have hu : u.isText = true := htext u (by simp)
    have hs : s.isText = true := htext s (by simp)
    have hp : p.isText = true := htext p (by simp)
    rw [CountsFit, ← exists_dailyCount_iff, ← exists_dailyValue_iff hs, ← exists_dailyValue_iff hp]
    constructor
    · rintro ⟨e, he⟩
      obtain ⟨husers, hvalue, htotal⟩ := (averages?_cons hu).mp he
      exact ⟨⟨_, husers⟩, ⟨_, htotal⟩, ⟨_, hvalue⟩⟩
    · rintro ⟨⟨x, hx⟩, ⟨y, hy⟩, ⟨z, hz⟩⟩
      exact ⟨⟨x, z, y⟩, (averages?_cons hu).mpr ⟨hx, hz, hy⟩⟩

theorem exists_finite_averages?_iff :
    (∃ e, averages? users site pages = .ok e ∧ e.IsFinite) ↔ TotalsFit users site pages := by
  have hzero : noData.IsFinite := ⟨rfl, rfl, rfl⟩
  match users, site, pages with
  | [], _, _ => exact iff_of_true ⟨_, averages?_of_noData (.inl rfl), hzero⟩ trivial
  | _ :: _, [], _ => exact iff_of_true ⟨_, averages?_of_noData (.inr (.inl rfl)), hzero⟩ trivial
  | _ :: _, _ :: _, [] =>
    exact iff_of_true ⟨_, averages?_of_noData (.inr (.inr rfl)), hzero⟩ trivial
  | u :: us, s :: ss, p :: ps =>
    have hu : u.isText = true := htext u (by simp)
    have hs : s.isText = true := htext s (by simp)
    have hp : p.isText = true := htext p (by simp)
    rw [TotalsFit, ← exists_dailyCount_iff, ← exists_finite_dailyValue_iff hs,
      ← exists_finite_dailyValue_iff hp]
    constructor
    · rintro ⟨e, he, hfinite⟩
      obtain ⟨husers, hvalue, htotal⟩ := (averages?_cons hu).mp he
      exact ⟨⟨_, husers⟩, ⟨_, htotal, hfinite.metricTotal⟩, ⟨_, hvalue, hfinite.value⟩⟩
    · rintro ⟨⟨x, hx⟩, ⟨y, hy, hyfinite⟩, ⟨z, hz, hzfinite⟩⟩
      exact ⟨⟨x, z, y⟩, (averages?_cons hu).mpr ⟨hx, hz, hy⟩,
        ⟨isFinite_of_dailyCount hx, hzfinite, hyfinite⟩⟩

end

theorem outcome_concludeImpact (metricId : String) (texts : List String)
    (users site pages : List Row) :
    (Plan.concludeImpact metricId texts [users, site, pages]).outcome =
      (averages? users site pages).map fun e => .impact e (Audit.script texts) := by
  rw [averages?, Plan.concludeImpact]
  cases estimate? users site pages with
  | error f => rfl
  | ok estimate => cases estimate <;> rfl

end Impact

/-- The answers of a batch in which none is an error. -/
theorem ForkJoin.run_of_outcomes {α : Type} {branches : List (Branch α)} {values : List α}
    (h : branches.map (·.outcome) = values.map .ok) : (run branches).result = .ok values := by
  have hwell : ∀ b ∈ branches, b.fails = false := by
    intro b hb
    have hmem : b.outcome ∈ values.map .ok := h ▸ List.mem_map_of_mem hb
    obtain ⟨v, -, hv⟩ := List.mem_map.mp hmem
    simp [Branch.fails, ← hv]
  rw [run_of_well hwell]
  have hvalues := map_outcome_of_well hwell
  rw [h] at hvalues
  exact congrArg Except.ok (List.map_injective_iff.mpr (fun _ _ => Except.ok.inj) hvalues.symm)

theorem Plan.done_of_outcomes (plan : Plan) {answers : List (Branch (List Row))}
    {rows : List (List Row)} (h : answers.map (·.outcome) = rows.map .ok) :
    plan.done answers =
      ⟨plan.queries, plan.log ++ (plan.conclude rows).log, (plan.conclude rows).outcome⟩ := by
  rw [done, ForkJoin.run_of_outcomes h]

namespace Session

open Impact

variable (session : Session) {r : ImpactRequest} {queries : List Query}
  (hqueries : Impact.queries session.source r = .ok queries) {users site pages : List Row}
  (hanswers : (session.nextAnswers queries.length).map (·.outcome) =
    [.ok users, .ok site, .ok pages])
include hqueries hanswers

/-- An estimate whose queries can be composed sends them all and gives the averages of their
answers. -/
theorem step_estimateImpact :
    let texts := queries.map fun q => q.sql.text
    let step := (session.step (.estimateImpact r)).2
    step.queries = texts ∧ step.outcome =
      (averages? users site pages).map fun e => .impact e (Audit.script texts) := by
  intro texts step
  have hplan : Plan.ofRequest session.source (.estimateImpact r) =
      .ok ⟨texts, [], Plan.concludeImpact r.metric.id texts⟩ := by
    simp only [Plan.ofRequest, Plan.impact, hqueries]
    rfl
  have hlength : texts.length = queries.length := List.length_map _
  have hrows : (session.nextAnswers queries.length).map (·.outcome) =
      [users, site, pages].map .ok := hanswers
  have hstep : step = Plan.done ⟨texts, [], Plan.concludeImpact r.metric.id texts⟩
      (session.nextAnswers queries.length) := by
    rw [← hlength]
    exact congrArg Prod.snd (step_of_ok hplan)
  rw [hstep, Plan.done_of_outcomes _ hrows]
  exact ⟨rfl, outcome_concludeImpact _ _ _ _ _⟩

/-- When all cells of the answers are texts or nulls, an estimate gives a result exactly if the
counts are small enough for floating point numbers, and its averages are finite exactly if the sums
are too.  An answer without rows makes all averages zero, and the script of the queries is never
empty. -/
theorem estimate_of_text_answers (htext : ∀ row ∈ users ++ site ++ pages, row.isText = true) :
    let script := Audit.script (queries.map fun q => q.sql.text)
    let step := (session.step (.estimateImpact r)).2
    script ≠ "" ∧
      ((∃ e, step.outcome = .ok (.impact e script)) ↔ CountsFit users site pages) ∧
      ((∃ e, step.outcome = .ok (.impact e script) ∧ e.IsFinite) ↔
        TotalsFit users site pages) ∧
      (users = [] ∨ site = [] ∨ pages = [] → step.outcome = .ok (.impact noData script)) := by
  intro script step
  have houtcome (e : ImpactEstimate) : step.outcome = .ok (.impact e script) ↔
      averages? users site pages = .ok e := by
    rw [(session.step_estimateImpact hqueries hanswers).2, Except.map_eq_ok]
    simp [script]
  refine ⟨?_, ?_, ?_, fun h => (houtcome _).mpr (averages?_of_noData h)⟩
  · intro hempty
    simpa [script, Audit.script, Audit.scriptBy] using congrArg String.toList hempty
  · simp only [houtcome, exists_averages?_iff htext]
  · simp only [houtcome, exists_finite_averages?_iff htext]

omit hqueries hanswers in
/-- Fractional counts, an exponent in a mean and a cell that is no number. -/
theorem estimate_of_text_answers_garbled :
    let source : Source := { settings := .builtin, dialect := ⟨.postgres, none, none⟩ }
    let noon : DateTime := ⟨⟨⟨737853, by decide⟩⟩, ⟨43200, by decide⟩, 0, none⟩
    let r : ImpactRequest := { metric := .minimal "m" "Orders" .count "orders", urlRegex := none
                               segment := none, now := noon }
    let users : List Row := [[("users", .text " 25_0.5 ")]]
    let site : List Row := [[("count", .text "3"), ("mean", .text "2.5e3")], []]
    let pages : List Row := [[("count", .text "many"), ("mean", .null)]]
    let session : Session :=
      { source, sent := 0, answers := [⟨2, .ok users⟩, ⟨1, .ok site⟩, ⟨4, .ok pages⟩] }
    ∃ queries, Impact.queries source r = .ok queries ∧
      (session.nextAnswers queries.length).map (·.outcome) = [.ok users, .ok site, .ok pages] ∧
      (∀ row ∈ users ++ site ++ pages, row.isText = true) ∧
      ∃ e, (session.step (.estimateImpact r)).2.outcome =
          .ok (.impact e (Audit.script (queries.map fun q => q.sql.text))) ∧ e.IsFinite := by
  intro source noon r users site pages session
  obtain ⟨queries, hqueries⟩ : ∃ queries, Impact.queries source r = .ok queries :=
    Except.exists_eq_ok (by decide +kernel)
  have hanswers : (session.nextAnswers queries.length).map (·.outcome) =
      [.ok users, .ok site, .ok pages] := by
    rw [length_queries hqueries]
    rfl
  have htext : ∀ row ∈ users ++ site ++ pages, row.isText = true := by decide +kernel
  have hfits : TotalsFit users site pages := by
    unfold TotalsFit
    decide +kernel
  obtain ⟨-, -, hfinite, -⟩ := session.estimate_of_text_answers hqueries hanswers htext
  exact ⟨queries, hqueries, hanswers, htext, hfinite.mpr hfits⟩

omit hqueries hanswers in
/-- A count that is too large for a floating point number is a fault, and a sum that is too large
is infinite. -/
theorem estimate_overflows :
    let source : Source := { settings := .builtin, dialect := ⟨.postgres, none, none⟩ }
    let noon : DateTime := ⟨⟨⟨737853, by decide⟩⟩, ⟨43200, by decide⟩, 0, none⟩
    let r : ImpactRequest := { metric := .minimal "m" "Orders" .count "orders", urlRegex := none
                               segment := none, now := noon }
    let few : Row := [("users", .text "30"), ("count", .text "10"), ("mean", .text "1.5")]
    let many : Row := [("users", .text (toString (10 ^ 400 : Int)))]
    let much : Row := [("count", .text "10"), ("mean", .text "1e308")]
    let session (users site : Row) : Session :=
      { source, sent := 0, answers := [⟨0, .ok [users]⟩, ⟨0, .ok [site]⟩, ⟨0, .ok [few]⟩] }
    (∀ row ∈ [few, many, much], row.isText = true) ∧ (∃ q, Impact.queries source r = .ok q) ∧
      ((session many few).step (.estimateImpact r)).2.outcome = .error .numberTooLarge ∧
      ∃ e script, ((session few much).step (.estimateImpact r)).2.outcome =
        .ok (.impact e script) ∧ ¬e.IsFinite := by
  intro source noon r few many much session
  obtain ⟨queries, hqueries⟩ : ∃ queries, Impact.queries source r = .ok queries :=
    Except.exists_eq_ok (by decide +kernel)
  have hstep (users site : Row) :
      ((session users site).step (.estimateImpact r)).2.outcome =
        (averages? [users] [site] [few]).map fun e =>
          .impact e (Audit.script (queries.map fun q => q.sql.text)) := by
    refine ((session users site).step_estimateImpact hqueries ?_).2
    rw [length_queries hqueries]
    rfl
  refine ⟨?_, ⟨queries, hqueries⟩, ?_, ?_⟩
  · simp only [List.forall_mem_cons, List.not_mem_nil, false_implies, implies_true, and_true]
    exact ⟨rfl, rfl, rfl⟩
  -- The text of the count is read back by lemma, as evaluating its 401 digits takes long.
  · have hread : Cell.toInt (many.get "users") = .ok (10 ^ 400) := by
      have hdigits : (Text.natText (10 ^ 400 : Int).natAbs).length ≤ 401 :=
        Text.length_natText_le (by decide) (by decide +kernel)
      have hint := intOfText?_toString (hdigits.trans (by decide))
      show Except.ok (Cell.intOfText (toString (10 ^ 400 : Int))) = _
      rw [Cell.intOfText, hint]
    have hcount : dailyCount (10 ^ 400) = .error .numberTooLarge := by decide +kernel
    rw [hstep, averages?, estimate?, hread]
    simp only [bind, Except.bind, hcount, Except.map]
  · have hsite : ((averages? [few] [much] [few]).toOption.map
        fun e => e.metricTotal.isFinite) = some false := by decide +kernel
    cases he : averages? [few] [much] [few] with
    | error f => simp [he, Except.toOption] at hsite
    | ok e =>
      have hinfinite : e.metricTotal.isFinite = false := by
        simpa [he, Except.toOption] using hsite
      rw [hstep, he]
      exact ⟨e, _, rfl, fun h => Bool.false_ne_true (hinfinite.symm.trans h.metricTotal)⟩

end Session
end SplitTest
