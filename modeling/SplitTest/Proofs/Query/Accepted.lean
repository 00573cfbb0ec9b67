import SplitTest.Proofs.Query.Failure
import SplitTest.Proofs.Query.Windows
import SplitTest.Schema.Params

/-! Accepted definitions.  What the queries rely on in a metric and in an experiment holds of each
one that is accepted.  The fields of an accepted definition, taken as a document, are accepted
again and mean the same: what the first reading makes regular is left as it is by the second. -/

namespace SplitTest

open Checked

/-! ### Written fields -/

namespace Reader

theorem optional_text (s : Option String) :
    optional text (MetricDefinition.optionalText s) = .ok s := by
  cases s <;> rfl

end Reader

theorem MetricType.lookup_name (type : MetricType) :
    MetricType.words.lookup type.name = some type := by
  cases type <;> rfl

theorem IdType.read_name (type : IdType) : IdType.read (.text type.name) = .ok type := by
  cases type <;> rfl

/-! ### Conditions -/

namespace Operator

variable {v : Value} {o : Operator}

/-- A symbol is one of those that a condition may have, and there are no blanks around it. -/
def IsSupported (symbol : String) : Prop :=
  symbol ∈ ["=", "!=", "<>", "<", ">", "<=", ">=", "~", "!~"] ∧ Text.trim symbol = symbol

theorem isSupported_symbol (o : Operator) : IsSupported o.symbol := by
  constructor
  · cases o <;> decide
  · cases o <;> decide +kernel

theorem read_symbol (o : Operator) : read (.text o.symbol) = .ok o := by
  have htrim := o.isSupported_symbol.2
  rw [read, Reader.text, andThen, htrim]
  cases o <;> rfl

/-- An operator is the text of its symbol, with or without blanks around it. -/
theorem trim_of_read (h : read v = .ok o) : ∃ raw, v = .text raw ∧ Text.trim raw = o.symbol := by
  have hsymbols : ∀ p ∈ symbols, p.1 = p.2.symbol := by decide
  obtain ⟨raw, hraw, h⟩ := andThen_eq_ok.mp h
  refine ⟨raw, Reader.text_eq_ok.mp hraw, ?_⟩
  split at h
  · rename_i o' hlookup
    cases h
    exact hsymbols (_, o) (mem_of_lookup hlookup)
  · cases h

end Operator

namespace MetricCondition

theorem read_toValue (c : MetricCondition) : read c.toValue = .ok c := by
  simp only [read, toValue, Reader.object, Reader.required, Value.field?, List.lookup_cons,
    String.reduceBEq, Operator.read_symbol]
  rfl

/-- The operator of an accepted condition is what its document states, without the blanks around
it. -/
theorem operator_of_read {v : Value} {c : MetricCondition} (h : read v = .ok c) :
    ∃ fields raw, v = .object fields ∧ Value.field? "operator" fields = some (.text raw) ∧
      Text.trim raw = c.operator.symbol := by
  cases v with
  | object fields =>
    obtain ⟨_, hfields, value, -, rfl⟩ := seq_eq_ok.mp h
    obtain ⟨_, hcolumn, operator, hoperator, rfl⟩ := seq_eq_ok.mp hfields
    obtain ⟨column, -, rfl⟩ := map_eq_ok.mp hcolumn
    obtain ⟨v, hv, hread⟩ := Reader.required_eq_ok.mp hoperator
    obtain ⟨raw, rfl, htrim⟩ := Operator.trim_of_read hread
    exact ⟨fields, raw, rfl, hv, htrim⟩
  | _ => cases h

end MetricCondition

/-! ### Metrics -/

namespace MetricDefinition

variable {v : Value} {m : MetricDefinition} {fields : List (String × Value)}

theorem keep_eq_ok {α : Type} {holds : α → Bool} {rule : String} {x : Checked α} {a : α} :
    keep holds rule x = .ok a ↔ x = .ok a ∧ holds a = true := by
  rw [keep, andThen_eq_ok]
  constructor
  · rintro ⟨b, rfl, h⟩
    split at h
    · cases h
      exact ⟨rfl, ‹_›⟩
    · cases h
  · rintro ⟨rfl, ha⟩
    exact ⟨a, rfl, if_pos ha⟩

theorem readCap_float {x : Double} (h : x.isNegative = false) :
    readCap (.float x) = .ok (some x) := by
  have hkeep : keep (!·.isNegative) "cap must be >= 0" (Reader.double (.float x)) = .ok x :=
    keep_eq_ok.mpr ⟨rfl, by simpa using h⟩
  rw [readCap, hkeep]
  rfl

theorem readCap_zero : readCap (.int 0) = .ok (some .zero) := by decide +kernel

theorem yields_readCap (v : Value) :
    Yields (fun cap => (cap.getD .zero).isNegative = false) (readCap v) := by
  refine Yields.map fun x hx => ?_
  simpa using (keep_eq_ok.mp hx).2

theorem readWindow_int {n : Int} (h : 0 ≤ n) : readWindow (.int n) = .ok n :=
  keep_eq_ok.mpr ⟨rfl, decide_eq_true h⟩

def capField (fields : List (String × Value)) : Checked (Option Double) :=
  Reader.withDefault "cap" none readCap fields

def conditionsField (fields : List (String × Value)) : Checked (List MetricCondition) :=
  Reader.withDefault "conditions" [] (Reader.list MetricCondition.read) fields

theorem yields_readFields (fields : List (String × Value)) :
    Yields (fun m => conditionsField fields = .ok m.conditions ∧ capField fields = .ok m.cap)
      (readFields fields) := by
  unfold readFields
  iterate 14 apply Yields.seq
  apply Yields.map
  iterate 5 intro _ _
  intro conditions hconditions
  iterate 4 intro _ _
  intro cap hcap
  iterate 4 intro _ _
  exact ⟨hconditions, hcap⟩

theorem read_eq_ok : read v = .ok m ↔
    ∃ fields, v = .object fields ∧ readFields fields = .ok m ∧
      (m.type.needsColumn = true → m.hasColumn = true) := by
  constructor
  · intro h
    cases v with
    | object fields =>
      obtain ⟨m', hfields, hcheck⟩ := andThen_eq_ok.mp h
      split at hcheck
      · cases hcheck
      · rename_i hcolumn
        cases hcheck
        exact ⟨fields, rfl, hfields, by simpa using hcolumn⟩
    | _ => cases h
  · rintro ⟨fields, rfl, hfields, hcolumn⟩
    exact andThen_eq_ok.mpr ⟨m, hfields, if_neg (by simpa using hcolumn)⟩

/-- What the queries rely on in a metric. -/
structure IsValid (m : MetricDefinition) : Prop where
  operators : ∀ c ∈ m.conditions, Operator.IsSupported c.operator.symbol
  cap : m.capOrZero.isNegative = false
  window : 0 ≤ m.conversionWindowHours
  column : m.type.needsColumn = true → m.hasColumn = true

/-- The same metric with its cap written out. -/
def withCap (m : MetricDefinition) : MetricDefinition := { m with cap := some m.capOrZero }

theorem isValid_of_read (h : read v = .ok m) : m.IsValid where
  operators _ _ := Operator.isSupported_symbol _
  cap := by
    obtain ⟨fields, rfl, hfields, -⟩ := read_eq_ok.mp h
    have hyields : Yields (fun cap => (cap.getD .zero).isNegative = false) (capField fields) :=
      Reader.yields_withDefault rfl yields_readCap
    exact hyields _ (yields_readFields fields m hfields).2
  window := yields_read v m h
  column := hasColumn_of_read h

/-- The operators of an accepted metric are those that the conditions of its document state, without
the blanks around them. -/
theorem operators_of_read (h : read v = .ok m) : ∀ c ∈ m.conditions,
    ∃ fields items stated raw, v = .object fields ∧
      Value.field? "conditions" fields = some (.list items) ∧ .object stated ∈ items ∧
      Value.field? "operator" stated = some (.text raw) ∧ Text.trim raw = c.operator.symbol := by
  obtain ⟨fields, rfl, hfields, -⟩ := read_eq_ok.mp h
  obtain ⟨hread, -⟩ := yields_readFields fields m hfields
  intro c hc
  obtain ⟨-, hnil⟩ | ⟨w, hw, hlist⟩ := Reader.withDefault_eq_ok.mp hread
  · simp [← hnil] at hc
  · obtain ⟨items, rfl, hall⟩ := Reader.list_eq_ok.mp hlist
    obtain ⟨item, hitem, hcondition⟩ := exists_mem_of_all hall c hc
    obtain ⟨stated, raw, rfl, hoperator, htrim⟩ := MetricCondition.operator_of_read hcondition
    exact ⟨fields, items, stated, raw, rfl, hw, hitem, hoperator, htrim⟩

theorem IsValid.readFields_toValue (h : m.IsValid) :
    ∃ fields, m.toValue = .object fields ∧ readFields fields = .ok m.withCap := by
  have hconditions := all_map MetricCondition.read_toValue m.conditions 0
  refine ⟨_, rfl, ?_⟩
  simp only [readFields, Reader.required, Reader.withDefault, Value.field?, List.lookup_cons,
    String.reduceBEq, readWindow_int h.window, Reader.list, hconditions, Reader.optional_text,
    IdType.read_name, Reader.word, MetricType.lookup_name]
  -- A cap that is absent is written as zero.
  split
  · rename_i x hx
    have hcap : m.capOrZero = x := by rw [capOrZero, hx, Option.getD_some]
    rw [readCap_float (hcap ▸ h.cap), withCap, hcap]
    rfl
  · rename_i hx
    have hcap : m.capOrZero = .zero := by rw [capOrZero, hx, Option.getD_none]
    rw [readCap_zero, withCap, hcap]
    rfl

theorem IsValid.read_toValue (h : m.IsValid) : read m.toValue = .ok m.withCap := by
  obtain ⟨fields, htoValue, hfields⟩ := h.readFields_toValue
  exact read_eq_ok.mpr ⟨fields, htoValue, hfields, h.column⟩

end MetricDefinition

/-! ### Experiments -/

theorem Variation.read_toValue (x : Variation) : read x.toValue = .ok x := by
  simp only [read, toValue, Reader.object, Reader.required, Reader.withDefault, Value.field?,
    List.lookup_cons, String.reduceBEq]
  rfl

theorem Variation.ne_nil_of_readAll {v : Value} {xs : List Variation} (h : readAll v = .ok xs) :
    xs ≠ [] := by
  obtain ⟨ys, -, h⟩ := andThen_eq_ok.mp h
  split at h
  · cases h
  · rename_i hsome
    cases h
    simpa using hsome

theorem Variation.readAll_toValue {xs : List Variation} (h : xs ≠ []) :
    readAll (.list (xs.map toValue)) = .ok xs := by
  have hexpand : (xs.map toValue).map expand = xs.map toValue := by
    rw [List.map_map]
    rfl
  have hall := all_map read_toValue xs 0
  simp only [readAll, Reader.list, hexpand, hall, andThen]
  exact if_neg (by simpa using h)

theorem ExperimentPhase.read_toValue (phase : ExperimentPhase) :
    read phase.toValue = .ok phase := by
  obtain ⟨started, ended⟩ := phase
  cases ended <;> rfl

namespace ExperimentDefinition

variable {v : Value} {e : ExperimentDefinition}

/-- What the queries rely on in an experiment. -/
structure IsValid (e : ExperimentDefinition) : Prop where
  variations : e.variations ≠ []
  window : 0 ≤ e.conversionWindowHours

theorem isValid_of_read (h : read v = .ok e) : e.IsValid where
  variations := by
    cases v with
    | object fields =>
      obtain ⟨_, hwindow, _, -, rfl⟩ := seq_eq_ok.mp h
      obtain ⟨_, hphases, _, -, rfl⟩ := seq_eq_ok.mp hwindow
      obtain ⟨_, hvariations, _, -, rfl⟩ := seq_eq_ok.mp hphases
      obtain ⟨_, hidType, variations, hread, rfl⟩ := seq_eq_ok.mp hvariations
      obtain ⟨_, hkey, _, -, rfl⟩ := seq_eq_ok.mp hidType
      obtain ⟨_, hid, _, -, rfl⟩ := seq_eq_ok.mp hkey
      obtain ⟨_, -, rfl⟩ := map_eq_ok.mp hid
      obtain ⟨w, -, hread⟩ := Reader.required_eq_ok.mp hread
      exact Variation.ne_nil_of_readAll hread
    | _ => cases h
  window := yields_read v e h

theorem IsValid.read_toValue (h : e.IsValid) : read e.toValue = .ok e := by
  have hphases := all_map ExperimentPhase.read_toValue e.phases 0
  simp only [read, toValue, Reader.object, Reader.required, Reader.withDefault, Value.field?,
    List.lookup_cons, String.reduceBEq, IdType.read_name, Reader.list, hphases, Reader.textMap,
    MetricDefinition.readWindow_int h.window, Variation.readAll_toValue h.variations]
  rw [Reader.textFields_texts]
  rfl

end ExperimentDefinition

/-! ### Populations and parameters -/

theorem DimensionDefinition.read_toValue (d : DimensionDefinition) : read d.toValue = .ok d := by
  simp only [read, toValue, Reader.object, Reader.required, Reader.withDefault, Value.field?,
    List.lookup_cons, String.reduceBEq, IdType.read_name]
  rfl

theorem SegmentDefinition.read_toValue (x : SegmentDefinition) : read x.toValue = .ok x := by
  simp only [read, toValue, Reader.object, Reader.required, Reader.withDefault, Value.field?,
    List.lookup_cons, String.reduceBEq, IdType.read_name]
  rfl

/-- The fields of the parameters are read back, whatever other fields follow. -/
theorem UsersQueryParams.readFields_toFields (p : UsersQueryParams)
    (more : List (String × Value)) : readFields (p.toFields ++ more) = .ok p := by
  have hsegment (x : SegmentDefinition) :
      Reader.optional SegmentDefinition.read x.toValue = .ok (some x) := by
    change (SegmentDefinition.read x.toValue).map some = .ok (some x)
    rw [SegmentDefinition.read_toValue]
    rfl
  simp only [readFields, toFields, List.cons_append, Reader.required, Reader.withDefault,
    Value.field?, List.lookup_cons, String.reduceBEq, IdType.read_name, Reader.optional_text]
  split
  · rename_i x hx
    rw [hsegment, ← hx]
    rfl
  · rename_i hx
    rw [Reader.optional, ← hx]
    rfl

theorem UsersQueryParams.read_toValue (p : UsersQueryParams) : read p.toValue = .ok p := by
  have hfields := p.readFields_toFields []
  rwa [List.append_nil] at hfields

namespace MetricValueParams

/-- The same parameters with the metric's cap written out. -/
def withCap (p : MetricValueParams) : MetricValueParams := { p with metric := p.metric.withCap }

theorem metric_of_read {v : Value} {p : MetricValueParams} (h : read v = .ok p) :
    p.metric.IsValid := by
  cases v with
  | object fields =>
    obtain ⟨_, hfields, _, -, rfl⟩ := seq_eq_ok.mp h
    obtain ⟨_, hbase, metric, hmetric, rfl⟩ := seq_eq_ok.mp hfields
    obtain ⟨base, -, rfl⟩ := map_eq_ok.mp hbase
    obtain ⟨w, -, hread⟩ := Reader.required_eq_ok.mp hmetric
    exact MetricDefinition.isValid_of_read hread
  | _ => cases h

theorem read_toValue {p : MetricValueParams} (h : p.metric.IsValid) :
    read p.toValue = .ok p.withCap := by
  have hbase := p.readFields_toFields
    [("metric", p.metric.toValue), ("include_percentiles", .bool p.includePercentiles)]
  have hmetric : Reader.required "metric" MetricDefinition.read (p.toFields ++
      [("metric", p.metric.toValue), ("include_percentiles", .bool p.includePercentiles)]) =
      .ok p.metric.withCap :=
    Reader.required_eq_ok.mpr ⟨p.metric.toValue, rfl, h.read_toValue⟩
  have hpercentiles : Reader.withDefault "include_percentiles" true Reader.bool (p.toFields ++
      [("metric", p.metric.toValue), ("include_percentiles", .bool p.includePercentiles)]) =
      .ok p.includePercentiles := rfl
  simp only [read, toValue, Reader.object, hbase, hmetric, hpercentiles]
  rfl

end MetricValueParams

/-! ### Accepted again -/

/-- An accepted metric has what the queries rely on, with the operators of its document without the
blanks around them; so has an accepted experiment.  The fields of whatever is accepted are accepted
again and give the same, only that a cap of zero is written out. -/
theorem read_toValue_of_read :
    (∀ v m, MetricDefinition.read v = .ok m → m.IsValid ∧
      (∀ c ∈ m.conditions, ∃ fields items stated raw, v = .object fields ∧
        Value.field? "conditions" fields = some (.list items) ∧ .object stated ∈ items ∧
        Value.field? "operator" stated = some (.text raw) ∧ Text.trim raw = c.operator.symbol) ∧
      MetricDefinition.read m.toValue = .ok m.withCap) ∧
    (∀ v e, ExperimentDefinition.read v = .ok e → e.IsValid ∧
      ExperimentDefinition.read e.toValue = .ok e) ∧
    (∀ v d, DimensionDefinition.read v = .ok d → DimensionDefinition.read d.toValue = .ok d) ∧
    (∀ v x, SegmentDefinition.read v = .ok x → SegmentDefinition.read x.toValue = .ok x) ∧
    (∀ v p, UsersQueryParams.read v = .ok p → UsersQueryParams.read p.toValue = .ok p) ∧
    ∀ v p, MetricValueParams.read v = .ok p → p.metric.IsValid ∧
      MetricValueParams.read p.toValue = .ok p.withCap := by
  refine ⟨fun v m h => ?_, fun v e h => ?_, fun _ d _ => d.read_toValue,
    fun _ x _ => x.read_toValue, fun _ p _ => p.read_toValue, fun v p h => ?_⟩
  · have hvalid := MetricDefinition.isValid_of_read h
    exact ⟨hvalid, MetricDefinition.operators_of_read h, hvalid.read_toValue⟩
  · have hvalid := ExperimentDefinition.isValid_of_read h
    exact ⟨hvalid, hvalid.read_toValue⟩
  · have hvalid := MetricValueParams.metric_of_read h
    exact ⟨hvalid, MetricValueParams.read_toValue hvalid⟩

section Lenient

/-- A metric with blanks around an operator, a number in a condition and a cap as text. -/
def paidOrders : Value :=
  .object [("id", .text "m"), ("name", .text "Paid"), ("type", .text "revenue"),
    ("table", .text "orders"), ("column", .text "amount"), ("cap", .text " 12.5 "),
    ("conditions", .list [.object [("column", .text "state"), ("operator", .text " >= "),
      ("value", .int 3)]])]

def bareKeys : Value :=
  .object [("id", .text "e"), ("tracking_key", .text "checkout"),
    ("variations", .list [.text "control", .int 1, .bool true])]

def namedSql : Value :=
  .object [("name", .text "paid"), ("sql", .text "SELECT 1")]

def lateVisits : Value :=
  .object [("name", .text "Late"), ("date_from", .text "2021-02-01"), ("date_to", .int 1612137600),
    ("segment", namedSql), ("include_by_date", .text "yes"), ("metric", paidOrders)]

/-- What is stated in lenient forms is accepted, and accepted again. -/
theorem read_toValue_of_read_lenient :
    (∃ m, MetricDefinition.read paidOrders = .ok m ∧ m.conditions = [⟨"state", .atLeast, "3"⟩] ∧
      m.IsValid ∧ MetricDefinition.read m.toValue = .ok m.withCap) ∧
    (∃ e, ExperimentDefinition.read bareKeys = .ok e ∧
      e.variations = Variation.ofKeys ["control", "1", "True"] ∧ e.IsValid ∧
      ExperimentDefinition.read e.toValue = .ok e) ∧
    (∃ d, DimensionDefinition.read namedSql = .ok d ∧ DimensionDefinition.read d.toValue = .ok d) ∧
    (∃ x, SegmentDefinition.read namedSql = .ok x ∧ SegmentDefinition.read x.toValue = .ok x) ∧
    (∃ p, UsersQueryParams.read lateVisits = .ok p ∧ UsersQueryParams.read p.toValue = .ok p) ∧
    ∃ p, MetricValueParams.read lateVisits = .ok p ∧ p.metric.IsValid ∧
      MetricValueParams.read p.toValue = .ok p.withCap := by
  obtain ⟨hmetric, hexperiment, hdimension, hsegment, husers, hvalues⟩ := read_toValue_of_read
  have hpaid : (·.conditions) <$> MetricDefinition.read paidOrders =
      .ok [⟨"state", .atLeast, "3"⟩] := by decide +kernel
  have hkeys : (·.variations) <$> ExperimentDefinition.read bareKeys =
      .ok (Variation.ofKeys ["control", "1", "True"]) := by decide +kernel
  have hvisits : (·.name) <$> UsersQueryParams.read lateVisits = .ok "Late" := by decide +kernel
  have hvisited : (·.name) <$> MetricValueParams.read lateVisits = .ok "Late" := by decide +kernel
  refine ⟨?_, ?_, ⟨_, rfl, hdimension namedSql _ rfl⟩, ⟨_, rfl, hsegment namedSql _ rfl⟩, ?_, ?_⟩
  · obtain ⟨m, hm, hconditions⟩ := map_eq_ok.mp hpaid
    obtain ⟨hvalid, -, hagain⟩ := hmetric _ m hm
    exact ⟨m, hm, hconditions, hvalid, hagain⟩
  · obtain ⟨e, he, hvariations⟩ := map_eq_ok.mp hkeys
    exact ⟨e, he, hvariations, hexperiment _ e he⟩
  · obtain ⟨p, hp, -⟩ := map_eq_ok.mp hvisits
    exact ⟨p, hp, husers _ p hp⟩
  · obtain ⟨p, hp, -⟩ := map_eq_ok.mp hvisited
    exact ⟨p, hp, hvalues _ p hp⟩

end Lenient

end SplitTest
