import SplitTest.Proofs.Query.Readable
import SplitTest.Proofs.Query.Varies
import SplitTest.Proofs.Schema.Minimal

/-! The given values, that is the tracking key, the values of conditions and the expression for
pages, cannot change the shape of a composed query: whatever they are, they stand in the query as
literals that denote them, and all else is the same. -/

namespace SplitTest

open Scan

/-! ### Arguments that agree when the given values are erased -/

namespace Composition

theorem names_withoutValues (c : Composition) : c.withoutValues.names = c.names := by
  cases c <;> simp [withoutValues, names, Analysis.names, Analysis.withoutValues,
    UsersQueryParams.names, UsersQueryParams.withoutPages, MetricValueParams.withoutValues,
    MetricDefinition.withoutValues, Option.toList_map, Function.comp_def]

theorem texts_withoutValues (c : Composition) : c.withoutValues.texts = c.texts := by
  have hmetric (m : MetricDefinition) : m.withoutValues.texts = m.texts := by
    simp [MetricDefinition.texts, MetricDefinition.withoutValues, MetricCondition.withoutValue]
  cases c <;> simp [withoutValues, texts, Analysis.texts, Analysis.withoutValues,
    UsersQueryParams.texts, UsersQueryParams.withoutPages, MetricValueParams.withoutValues,
    Option.toList_map, List.flatMap_map, hmetric]

theorem columns_withoutValues (c : Composition) : c.withoutValues.columns = c.columns := by
  cases c <;> simp [withoutValues, columns, Analysis.columns, Analysis.withoutValues,
    MetricValueParams.withoutValues, MetricDefinition.withoutValues, Option.toList_map,
    List.flatMap_map]

theorem isOverridden_withoutValues (c : Composition) :
    c.withoutValues.isOverridden = c.isOverridden := by
  cases c <;> rfl

/-- Names and given values are erased in either order. -/
theorem withoutNames_withoutValues (c : Composition) :
    c.withoutNames.withoutValues = c.withoutValues.withoutNames := by
  cases c with
  | users p => rfl
  | metricValue p => rfl
  | experimentUsers a =>
    simp only [withoutNames, withoutValues, Analysis.withoutNames, Analysis.withoutValues,
      Option.map_map]
    rfl
  | experimentMetric a m =>
    simp only [withoutNames, withoutValues, Analysis.withoutNames, Analysis.withoutValues,
      Option.map_map]
    rfl

end Composition

/-- Whatever the given values of a composed query are, its shape is the same, and the literals in
their places denote exactly these values, or Snowflake's expressions around them. -/
theorem Source.skeleton_of_given_values (s : Source) {c c' : Composition}
    (h : c.withoutValues = c'.withoutValues) (hown : c.isOverridden = false)
    (htexts : ∀ t ∈ s.texts ++ c.texts ++ c.columns, Plain t.toList)
    (hnames : ∀ name ∈ c.names, OneLine name) :
    Except.Related (fun q q' : Sql =>
        skeleton q.text.toList = skeleton q'.text.toList ∧
          Refilled (parts q.text.toList) (parts q'.text.toList) (c.given s.dialect)
            (c'.given s.dialect))
      (s.compose c) (s.compose c') := by
  have herased : c.withoutNames.withoutValues = c'.withoutNames.withoutValues := by
    rw [c.withoutNames_withoutValues, h, c'.withoutNames_withoutValues]
  have hown' : c'.isOverridden = false := by
    rw [← c'.isOverridden_withoutValues, ← h, c.isOverridden_withoutValues, hown]
  have hnames' : ∀ name ∈ c'.names, OneLine name := by
    rwa [← c'.names_withoutValues, ← h, c.names_withoutValues]
  obtain ⟨hrest, hcolumns⟩ := List.forall_mem_append.mp htexts
  obtain ⟨hsource, hctexts⟩ := List.forall_mem_append.mp hrest
  have hctexts' : ∀ t ∈ c'.texts, Plain t.toList := by
    rwa [← c'.texts_withoutValues, ← h, c.texts_withoutValues]
  have hcolumns' : ∀ column ∈ c'.columns, Plain column.toList := by
    rwa [← c'.columns_withoutValues, ← h, c.columns_withoutValues]
  have hclosed (ts : List String) (hts : ∀ t ∈ ts, Plain t.toList) : ∀ t ∈ ts, Closed t.toList :=
    fun t ht => (hts t ht).closed
  have hvaries := s.compose_varies herased hown hnames hnames'
  have hreadable (q : Sql) : s.compose c = .ok q → q.Readable :=
    compose_readable (hclosed _ hsource) hown (hclosed _ hctexts) hcolumns hnames
  have hreadable' (q' : Sql) : s.compose c' = .ok q' → q'.Readable :=
    compose_readable (hclosed _ hsource) hown' (hclosed _ hctexts') hcolumns' hnames'
  refine hvaries.imp fun q q' hq hq' hqq' => ?_
  have hrefilled := hqq'.refilled (hreadable q hq) (hreadable' q' hq')
  exact ⟨hrefilled.map_mark_eq, hrefilled⟩

/-- Keys and expressions made of quotes, hyphens and line breaks, in Snowflake's dialect. -/
theorem Source.skeleton_of_given_values_quoted :
    let s : Source := { settings := .builtin, dialect := ⟨.snowflake, none, none⟩ }
    let midnight : DateTime := ⟨⟨738000, by decide⟩, ⟨0, by decide⟩, ⟨0, by decide⟩, none⟩
    let c (key pattern : String) : Composition := .experimentMetric
      { experiment := .minimal "exp" key ["control", "treatment"], phase := ⟨midnight, none⟩
        activation := none, dimension := none, now := midnight }
      { MetricDefinition.minimal "m" "Orders" .count "orders" with
        conditions := [⟨"path", .isMatch, pattern⟩] }
    ∃ q q', s.compose (c "it\x27s" "a -- b") = .ok q ∧
      s.compose (c "--\n" "\x27) OR (\x27") = .ok q' ∧
      skeleton q.text.toList = skeleton q'.text.toList ∧
      Refilled (parts q.text.toList) (parts q'.text.toList) ["it\x27s", ".*(a -- b).*"]
        ["--\n", ".*(\x27) OR (\x27).*"] := by
  intro s midnight c
  have htexts : ∀ t ∈ s.texts ++ (c "it\x27s" "a -- b").texts ++ (c "it\x27s" "a -- b").columns,
      Plain t.toList := by
    unfold Plain
    decide +kernel
  have hnames : ∀ name ∈ (c "it\x27s" "a -- b").names, OneLine name :=
    OneLine.forall_mem (by decide +kernel)
  have h := s.skeleton_of_given_values
    (show (c "it\x27s" "a -- b").withoutValues = (c "--\n" "\x27) OR (\x27").withoutValues from rfl)
    rfl htexts hnames
  exact ⟨_, _, rfl, rfl, h⟩

end SplitTest
