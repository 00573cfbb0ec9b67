import SplitTest.Proofs.Json.Document
import SplitTest.Proofs.Results.Records

/-! Exported results read back.  A document of results is given by what it says of a record, so the
plain document and the one with the names differ in the records only: a name is added to each
record, and without the names the document gives back the results. -/

namespace SplitTest

/-- Every mean and every deviation is finite. -/
def ExperimentResults.IsFinite (r : ExperimentResults) : Prop :=
  ∀ d ∈ r.results, ∀ v ∈ d.variations, ∀ m ∈ v.metrics,
    m.mean.isFinite = true ∧ m.stddev.isFinite = true

namespace Value

/-- A value is part of another: it is the other, or part of one of its items or fields. -/
inductive Part (w : Value) : Value → Prop
  | self : Part w w
  | item {items : List Value} {v : Value} (hv : v ∈ items) (h : Part w v) : Part w (list items)
  | field {fields : List (String × Value)} {f : String × Value} (hf : f ∈ fields)
      (h : Part w f.2) : Part w (object fields)

theorem part_float {x y : Double} : Part (float x) (float y) ↔ x = y := by
  constructor
  · rintro ⟨⟩
    rfl
  · rintro rfl
    exact .self

theorem not_part_text {x : Double} {s : String} : ¬Part (float x) (text s) := by
  rintro ⟨⟩

theorem not_part_int {x : Double} {n : Int} : ¬Part (float x) (int n) := by
  rintro ⟨⟩

theorem part_list {x : Double} {items : List Value} :
    Part (float x) (list items) ↔ ∃ v ∈ items, Part (float x) v := by
  constructor
  · rintro (_ | ⟨hv, h⟩)
    exact ⟨_, hv, h⟩
  · rintro ⟨v, hv, h⟩
    exact .item hv h

theorem part_object {x : Double} {fields : List (String × Value)} :
    Part (float x) (object fields) ↔ ∃ f ∈ fields, Part (float x) f.2 := by
  constructor
  · rintro (_ | _ | ⟨hf, h⟩)
    exact ⟨_, hf, h⟩
  · rintro ⟨f, hf, h⟩
    exact .field hf h

end Value

namespace Export

open Value

/-! ### Documents by their records -/

/-- The fields of a record. -/
def plainFields (m : VariationMetric) : List (String × Value) :=
  [("metric", .text m.metric), ("count", .int m.count), ("mean", .float m.mean),
    ("stddev", .float m.stddev)]

/-- A variation, given what is said of a record. -/
def variationBy (record : VariationMetric → Value) (v : VariationResult) : Value :=
  .object [("variation", .int v.variation), ("users", .int v.users),
    ("metrics", .list (v.metrics.map record))]

/-- A bucket, given what is said of a record. -/
def bucketBy (record : VariationMetric → Value) (d : DimensionResult) : Value :=
  .object [("dimension", .text d.dimension),
    ("variations", .list (d.variations.map (variationBy record)))]

/-- The results, given what is said of a record. -/
def document (record : VariationMetric → Value) (r : ExperimentResults) : Value :=
  .object [("results", .list (r.results.map (bucketBy record))), ("query", .text r.query)]

/-- The results as they are, field by field. -/
def plain (r : ExperimentResults) : Value :=
  document (fun m => .object (plainFields m)) r

theorem toValue_eq (names : List (String × String)) (r : ExperimentResults) :
    toValue names r = document (metricValue names) r := rfl

/-! ### Changes to the records -/

/-- Changes a field of an object. -/
def inField (key : String) (f : Value → Value) : Value → Value
  | .object fields => .object (fields.map fun (k, v) => (k, if k = key then f v else v))
  | v => v

/-- Changes the items of a list. -/
def eachItem (f : Value → Value) : Value → Value
  | .list items => .list (items.map f)
  | v => v

/-- Changes the records of the metrics of all variations of all buckets. -/
def eachRecord (f : Value → Value) : Value → Value :=
  inField "results" (eachItem (inField "variations" (eachItem (inField "metrics" (eachItem f)))))

/-- The records of the metrics of all variations of all buckets. -/
def recordsOf (v : Value) : List Value :=
  (itemsOf "results" v).flatMap fun bucket =>
    (itemsOf "variations" bucket).flatMap fun variation => itemsOf "metrics" variation
where
  /-- The items of a list in a field. -/
  itemsOf (key : String) : Value → List Value
    | .object fields =>
      match field? key fields with
      | some (.list items) => items
      | _ => []
    | _ => []

/-- Adds the name of its metric to a record. -/
def addName (names : List (String × String)) : Value → Value
  | .object fields =>
    match field? "metric" fields with
    | some (.text id) => .object (assign "name" (.text (nameOf names id)) fields)
    | _ => .object fields
  | v => v

/-- Takes the name out of a record. -/
def dropName : Value → Value
  | .object fields => .object (fields.filter fun f => f.1 ≠ "name")
  | v => v

theorem addName_plain (names : List (String × String)) (m : VariationMetric) :
    addName names (.object (plainFields m)) = metricValue names m := by
  simp [addName, plainFields, metricValue, field?, assign]

theorem dropName_metricValue (names : List (String × String)) (m : VariationMetric) :
    dropName (metricValue names m) = .object (plainFields m) := by
  simp [dropName, plainFields, metricValue]

theorem eachRecord_document (f : Value → Value) (record : VariationMetric → Value)
    (r : ExperimentResults) : eachRecord f (document record r) = document (f ∘ record) r := by
  simp [eachRecord, inField, eachItem, document, bucketBy, variationBy, Function.comp_def]

theorem recordsOf_document (record : VariationMetric → Value) (r : ExperimentResults) :
    recordsOf (document record r) =
      r.results.flatMap fun d => d.variations.flatMap fun v => v.metrics.map record := by
  simp [recordsOf, recordsOf.itemsOf, field?, List.lookup_cons, document, bucketBy, variationBy,
    List.flatMap_map]

/-! ### Results from documents -/

/-- Reads a record. -/
def metric? : Value → Option VariationMetric
  | .object fields =>
    match field? "metric" fields, field? "count" fields, field? "mean" fields,
      field? "stddev" fields with
    | some (.text metric), some (.int count), some (.float mean), some (.float stddev) =>
      some ⟨metric, count, mean, stddev⟩
    | _, _, _, _ => none
  | _ => none

def variation? : Value → Option VariationResult
  | .object fields =>
    match field? "variation" fields, field? "users" fields, field? "metrics" fields with
    | some (.int variation), some (.int users), some (.list metrics) =>
      (metrics.mapM metric?).map fun metrics => ⟨variation, users, metrics⟩
    | _, _, _ => none
  | _ => none

def bucket? : Value → Option DimensionResult
  | .object fields =>
    match field? "dimension" fields, field? "variations" fields with
    | some (.text dimension), some (.list variations) =>
      (variations.mapM variation?).map fun variations => ⟨dimension, variations⟩
    | _, _ => none
  | _ => none

def results? : Value → Option ExperimentResults
  | .object fields =>
    match field? "results" fields, field? "query" fields with
    | some (.list results), some (.text query) =>
      (results.mapM bucket?).map fun results => ⟨results, query⟩
    | _, _ => none
  | _ => none

theorem mapM_map_some {α β : Type} {read : β → Option α} {write : α → β}
    (h : ∀ x, read (write x) = some x) (xs : List α) : (xs.map write).mapM read = some xs := by
  induction xs with
  | nil => rfl
  | cons x xs ih => simp [h, ih]

theorem metric?_plain (m : VariationMetric) : metric? (.object (plainFields m)) = some m := by
  simp [metric?, plainFields, field?, List.lookup_cons]

theorem variation?_plain (v : VariationResult) :
    variation? (variationBy (fun m => .object (plainFields m)) v) = some v := by
  simp [variation?, variationBy, field?, List.lookup_cons, mapM_map_some metric?_plain]

theorem bucket?_plain (d : DimensionResult) :
    bucket? (bucketBy (fun m => .object (plainFields m)) d) = some d := by
  simp [bucket?, bucketBy, field?, List.lookup_cons, mapM_map_some variation?_plain]

theorem results?_plain (r : ExperimentResults) : results? (plain r) = some r := by
  simp [results?, plain, document, field?, List.lookup_cons, mapM_map_some bucket?_plain]

/-! ### The text of a document -/

theorem isJson_metricValue (names : List (String × String)) (m : VariationMetric) :
    IsJson (metricValue names m) := by
  refine .object (by simp) ?_
  simp only [List.forall_mem_cons]
  exact ⟨.text _, .int _, .float _, .float _, .text _, List.forall_mem_nil _⟩

theorem isJson_document {record : VariationMetric → Value} (h : ∀ m, IsJson (record m))
    (r : ExperimentResults) : IsJson (document record r) := by
  have hvariation (v : VariationResult) : IsJson (variationBy record v) := by
    refine .object (by simp) ?_
    simp only [List.forall_mem_cons]
    exact ⟨.int _, .int _, .list (List.forall_mem_map.mpr fun m _ => h m), List.forall_mem_nil _⟩
  have hbucket (d : DimensionResult) : IsJson (bucketBy record d) := by
    refine .object (by simp) ?_
    simp only [List.forall_mem_cons]
    exact ⟨.text _, .list (List.forall_mem_map.mpr fun v _ => hvariation v),
      List.forall_mem_nil _⟩
  refine .object (by simp) ?_
  simp only [List.forall_mem_cons]
  exact ⟨.list (List.forall_mem_map.mpr fun d _ => hbucket d), .text _, List.forall_mem_nil _⟩

/-- The floating point numbers in a document are the means and the deviations. -/
theorem isFinite_of_part {names : List (String × String)} {r : ExperimentResults}
    (h : r.IsFinite) {x : Double} (hx : Part (.float x) (toValue names r)) :
    x.isFinite = true := by
  simp only [toValue, part_object, part_list, List.mem_cons, List.not_mem_nil, or_false,
    exists_eq_or_imp, exists_eq_left, not_part_text, List.mem_map] at hx
  obtain ⟨_, ⟨d, hd, rfl⟩, hx⟩ := hx
  simp only [dimensionValue, part_object, part_list, List.mem_cons, List.not_mem_nil, or_false,
    exists_eq_or_imp, exists_eq_left, not_part_text, false_or, List.mem_map] at hx
  obtain ⟨_, ⟨v, hv, rfl⟩, hx⟩ := hx
  simp only [variationValue, part_object, part_list, List.mem_cons, List.not_mem_nil, or_false,
    exists_eq_or_imp, exists_eq_left, not_part_int, false_or, List.mem_map] at hx
  obtain ⟨_, ⟨m, hm, rfl⟩, hx⟩ := hx
  simp only [metricValue, part_object, List.mem_cons, List.not_mem_nil, or_false,
    exists_eq_or_imp, exists_eq_left, not_part_int, not_part_text, part_float, false_or] at hx
  obtain ⟨hmean, hstddev⟩ := h d hd v hv m hm
  rcases hx with rfl | rfl
  · exact hmean
  · exact hstddev

/-- The text of exported results is ASCII and is read as the document, which is the plain one with
the name of its metric added to each record; without the names it gives back the results.  Finite
results have finite numbers in their document only, and the results that a session returns are
finite. -/
theorem text_read_back (names : List (String × String)) (r : ExperimentResults) :
    parse? (text names r) = some (toValue names r) ∧
    toValue names r = eachRecord (addName names) (plain r) ∧
    (∀ m ∈ recordsOf (toValue names r), ∃ id rest, m = .object (rest ++
      [("name", .text ((names.lookup id).getD id))]) ∧ field? "metric" rest = some (.text id)) ∧
    eachRecord dropName (toValue names r) = plain r ∧ results? (plain r) = some r ∧
    (∀ c ∈ (text names r).toList, c.toNat < 128) ∧
    (r.IsFinite → ∀ x, Part (.float x) (toValue names r) → x.isFinite = true) ∧
    ∀ (s : Session) (c : AnalysisConfig) (now : Nat → DateTime),
      (s.step (.experimentResults c now)).2.outcome = .ok (.experiment r) → r.IsFinite := by
  have hjson : IsJson (toValue names r) := isJson_document (isJson_metricValue names) r
  refine ⟨parse?_render hjson _, ?_, ?_, ?_, results?_plain r, hjson.isAscii _ 0,
    fun h x => isFinite_of_part h, fun s c now h d hd v hv m hm => ?_⟩
  · have hrecord : (addName names ∘ fun m => .object (plainFields m)) = metricValue names :=
      funext (addName_plain names)
    rw [plain, eachRecord_document, hrecord, toValue_eq]
  · rw [toValue_eq, recordsOf_document]
    simp only [List.mem_flatMap, List.mem_map]
    rintro _ ⟨d, -, v, -, m, -, rfl⟩
    exact ⟨m.metric, plainFields m, rfl, rfl⟩
  · have hrecord : dropName ∘ metricValue names = fun m => .object (plainFields m) :=
      funext (dropName_metricValue names)
    rw [toValue_eq, eachRecord_document, hrecord, plain]
  · exact ((Session.wellFormed_of_step h).records d hd v hv m hm).2

end Export

end SplitTest
