import SplitTest.Schema.Experiment
import SplitTest.SourceSettings

/-! What documents mean that state only what they must: a metric with its table, an experiment given
by the keys of its variations, and the settings of an empty document. -/

namespace SplitTest

/-- A metric without a value column of which nothing but its identity, type and table is stated. -/
def MetricDefinition.minimal (id name : String) (type : MetricType) (table : String) :
    MetricDefinition :=
  { id, name, type, table, column := none, conditions := [], userIdType := .user
    userIdColumn := none, anonymousIdColumn := none, timestampColumn := none, cap := none
    conversionDelayHours := 0, conversionWindowHours := defaultWindow, earlyStart := false
    ignoreNulls := false }

/-- A metric document with its required fields only is accepted unless its type needs a value
column. -/
theorem MetricDefinition.read_minimal (id name : String) (type : MetricType) (table : String)
    (h : type.needsColumn = false) :
    MetricDefinition.read (.object [("id", .text id), ("name", .text name),
      ("type", .text type.name), ("table", .text table)]) = .ok (.minimal id name type table) := by
  cases type with
  | binomial => rfl
  | count => rfl
  | duration => simp [MetricType.needsColumn] at h
  | revenue => simp [MetricType.needsColumn] at h

/-- The variations that keys stand for. -/
def Variation.ofKeys (keys : List String) : List Variation :=
  keys.map fun key => ⟨key, ""⟩

theorem Variation.all_expand (keys : List String) (index : Nat) :
    Checked.all Variation.read index ((keys.map Value.text).map Variation.expand) =
      .ok (Variation.ofKeys keys) := by
  induction keys generalizing index with
  | nil => rfl
  | cons key rest ih =>
    simp only [List.map_cons, Checked.all, ih]
    rfl

theorem Variation.readAll_keys {keys : List String} (h : keys ≠ []) :
    Variation.readAll (.list (keys.map .text)) = .ok (Variation.ofKeys keys) := by
  simp only [Variation.readAll, Reader.list, Variation.all_expand]
  cases keys with
  | nil => exact absurd rfl h
  | cons => rfl

/-- An experiment of which nothing but its identity and the keys of its variations is stated. -/
def ExperimentDefinition.minimal (id trackingKey : String) (keys : List String) :
    ExperimentDefinition :=
  { id, trackingKey, userIdType := .anonymous, variations := Variation.ofKeys keys, phases := []
    conversionWindowHours := MetricDefinition.defaultWindow, sqlOverride := [] }

/-- An experiment document with its required fields only is accepted if it names a variation. -/
theorem ExperimentDefinition.read_minimal (id trackingKey : String) {keys : List String}
    (h : keys ≠ []) :
    ExperimentDefinition.read (.object [("id", .text id), ("tracking_key", .text trackingKey),
      ("variations", .list (keys.map .text))]) = .ok (.minimal id trackingKey keys) := by
  have hkeys := Variation.readAll_keys h
  simp only [ExperimentDefinition.read, Reader.object, Reader.required, Reader.withDefault,
    Value.field?, List.lookup_cons, List.lookup_nil, String.reduceBEq, hkeys]
  rfl

theorem Reader.textFields_texts (fields : List (String × String)) :
    Reader.textFields (fields.map fun f => (f.1, .text f.2)) = .ok fields := by
  induction fields with
  | nil => rfl
  | cons f rest ih =>
    simp only [List.map_cons, Reader.textFields, ih]
    rfl

/-- Texts in place of composed queries, each key with its own, are read as they are. -/
theorem ExperimentDefinition.read_overridden (id trackingKey : String) {keys : List String}
    (h : keys ≠ []) (overrides : List (String × String)) :
    ExperimentDefinition.read (.object [("id", .text id), ("tracking_key", .text trackingKey),
      ("variations", .list (keys.map .text)),
      ("sql_override", .object (overrides.map fun f => (f.1, .text f.2)))]) =
        .ok { ExperimentDefinition.minimal id trackingKey keys with sqlOverride := overrides } := by
  have hkeys := Variation.readAll_keys h
  simp only [ExperimentDefinition.read, Reader.object, Reader.required, Reader.withDefault,
    Value.field?, List.lookup_cons, List.lookup_nil, String.reduceBEq, hkeys, Reader.textMap,
    Reader.textFields_texts]
  rfl
/-- The settings in which every name is the built-in one, and variations are named by position. -/
def SourceSettings.builtin : SourceSettings :=
  let own : Columns := ⟨none, none, none⟩
  { default := ⟨some "received_at", some "user_id", some "anonymous_id"⟩
    experiments := ⟨own, "experiment_viewed", "experiment_id", "variation_id", .index⟩
    users := ⟨own, "users"⟩
    pageviews := ⟨own, "pages", "path"⟩
    identifies := ⟨own, "identifies"⟩ }

end SplitTest
