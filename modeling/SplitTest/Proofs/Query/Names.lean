import SplitTest.Proofs.Query.Readable
import SplitTest.Proofs.Query.Varies
import SplitTest.Proofs.Schema.Minimal

/-! Names of metrics, segments, dimensions and parameters label a query in comments.  A name of one
line stays in its comment, so that two queries whose arguments differ in such names only are the
same to a reader who drops the comments.  A line break ends the comment, and what follows it in the
name is code. -/

namespace SplitTest

open Scan

namespace Composition

theorem given_withoutNames (c : Composition) (d : Dialect) :
    c.withoutNames.given d = c.given d := by
  have hmetric (m : MetricDefinition) : m.withoutName.given d = m.given d := rfl
  cases c <;> simp [withoutNames, given, Analysis.given, Analysis.withoutNames,
    UsersQueryParams.given, UsersQueryParams.withoutNames, UsersQueryParams.pageFilter?,
    MetricValueParams.withoutNames, Option.toList_map, List.flatMap_map, hmetric]

theorem texts_withoutNames (c : Composition) : c.withoutNames.texts = c.texts := by
  have hmetric (m : MetricDefinition) : m.withoutName.texts = m.texts := rfl
  cases c <;> simp [withoutNames, texts, Analysis.texts, Analysis.withoutNames,
    UsersQueryParams.texts, UsersQueryParams.withoutNames, MetricValueParams.withoutNames,
    SegmentDefinition.withoutName, DimensionDefinition.withoutName, Option.toList_map,
    List.flatMap_map, Function.comp_def, hmetric]

theorem columns_withoutNames (c : Composition) : c.withoutNames.columns = c.columns := by
  cases c <;> simp [withoutNames, columns, Analysis.columns, Analysis.withoutNames,
    MetricValueParams.withoutNames, MetricDefinition.withoutName, Option.toList_map,
    List.flatMap_map]

theorem isOverridden_withoutNames (c : Composition) :
    c.withoutNames.isOverridden = c.isOverridden := by
  cases c <;> rfl

end Composition

namespace Query

/-- A title is followed by a line break. -/
theorem exists_chars (q : Query) :
    ∃ rest, q.sql.text.toList = '-' :: '-' :: ' ' :: (q.title.toList ++ '\n' :: ' ' :: rest) := by
  obtain ⟨body, hbody⟩ : ∃ body, "\n    WITH\n      ".toList = '\n' :: ' ' :: body :=
    ⟨_, String.toList_ofList⟩
  let tables := Sql.concat [.join q.separator (q.tables.map DerivedTable.sql), "\n    ", q.body]
  refine ⟨body ++ tables.chars, ?_⟩
  have hsql : q.sql = .comment q.title ++ (.code "\n    WITH\n      " ++ tables) := rfl
  have hchars := congrArg Sql.chars hsql
  rwa [Sql.chars_append, Sql.chars_append, Sql.chars_comment, Sql.chars_code, hbody] at hchars

/-- A title is dropped up to the first line break in it or after it. -/
theorem uncommented_of_title (q : Query) (line rest : List Char)
    (hline : ∀ c ∈ line, isLineEnd c = false)
    (htitle : q.title.toList ++ ['\n'] = line ++ '\n' :: rest) :
    ∃ after, uncommented .code q.sql.text.toList =
      '\n' :: uncommented .code (rest ++ ' ' :: after) := by
  obtain ⟨after, hafter⟩ := q.exists_chars
  have hspace : ∀ c ∈ ' ' :: line, isLineEnd c = false := List.forall_mem_cons.mpr ⟨rfl, hline⟩
  refine ⟨after, ?_⟩
  rw [hafter, List.append_cons, htitle, List.append_assoc]
  exact uncommented_hyphens hspace rfl _ .code

end Query

namespace Source

variable (s : Source)

/-- A text of the experiment's own has no names in it. -/
theorem compose_withoutNames_of_overridden {c : Composition} (h : c.isOverridden = true) :
    s.compose c.withoutNames = s.compose c := by
  cases c with
  | users p => simp [Composition.isOverridden] at h
  | metricValue p => simp [Composition.isOverridden] at h
  | experimentUsers a =>
    obtain ⟨sql, hsql⟩ := Option.isSome_iff_exists.mp h
    simp only [compose, Composition.withoutNames, Analysis.withoutNames, experimentUsersQuery,
      ExperimentDefinition.override, hsql]
    cases a.experiment.placeholders s.dialect a.phase a.now <;> rfl
  | experimentMetric a m =>
    obtain ⟨sql, hsql⟩ := Option.isSome_iff_exists.mp h
    simp only [compose, Composition.withoutNames, Analysis.withoutNames,
      MetricDefinition.withoutName, experimentMetricQuery, ExperimentDefinition.override, hsql]
    cases a.experiment.placeholders s.dialect a.phase a.now <;> rfl

/-- Names of one line never reach the code of a query: without the comments, the queries for
arguments that differ in names only are the same text, and where the texts that stand in the query
as they are leave no literal open, a scanner sees the same parts in both. -/
theorem uncommented_of_names {c c' : Composition} (h : c.withoutNames = c'.withoutNames)
    (hnames : ∀ name ∈ c.names ++ c'.names, OneLine name) :
    Except.Related (fun q q' : Sql =>
        uncommented .code q.text.toList = uncommented .code q'.text.toList ∧
          ((∀ t ∈ s.texts ++ c.texts, Closed t.toList) →
            (∀ column ∈ c.columns, Plain column.toList) →
            parts q.text.toList = parts q'.text.toList))
      (s.compose c) (s.compose c') := by
  cases hown : c.isOverridden with
  | true =>
    -- Neither query depends on the names.
    have hown' : c'.isOverridden = true := by
      rw [← c'.isOverridden_withoutNames, ← h, c.isOverridden_withoutNames, hown]
    rw [← s.compose_withoutNames_of_overridden hown, h,
      s.compose_withoutNames_of_overridden hown']
    exact .refl (fun q => ⟨rfl, fun _ _ => rfl⟩) _
  | false =>
    have hown' : c'.isOverridden = false := by
      rw [← c'.isOverridden_withoutNames, ← h, c.isOverridden_withoutNames, hown]
    have hgiven : c.given s.dialect = c'.given s.dialect := by
      rw [← c.given_withoutNames, h, c'.given_withoutNames]
    obtain ⟨hname, hname'⟩ := List.forall_mem_append.mp hnames
    -- The given values are the same in both, so that the literals that may vary do not.
    have hvaries := s.compose_varies (congrArg Composition.withoutValues h) hown hname hname'
    refine hvaries.imp fun q q' hq hq' hqq' => ⟨hqq'.uncommented_eq hgiven .code, ?_⟩
    intro htexts hcolumns
    obtain ⟨hsource, hctexts⟩ := List.forall_mem_append.mp htexts
    have hctexts' : ∀ t ∈ c'.texts, Closed t.toList := by
      rwa [← c'.texts_withoutNames, ← h, c.texts_withoutNames]
    have hcolumns' : ∀ column ∈ c'.columns, Plain column.toList := by
      rwa [← c'.columns_withoutNames, ← h, c.columns_withoutNames]
    have hrefilled := hqq'.refilled (compose_readable hsource hown hctexts hcolumns hname hq)
      (compose_readable hsource hown' hctexts' hcolumns' hname' hq')
    exact hrefilled.eq_of_values_eq hgiven

/-- A metric and a segment whose names hold quotes and hyphens. -/
theorem uncommented_of_names_quoted :
    let s : Source := { settings := .builtin, dialect := ⟨.bigquery, none, none⟩ }
    let midnight : DateTime := ⟨⟨738000, by decide⟩, ⟨0, by decide⟩, ⟨0, by decide⟩, none⟩
    let c (name : String) : Composition := .metricValue
      { name, dateFrom := midnight, dateTo := midnight, urlRegex := some "^/shop"
        segment := some ⟨name, "SELECT user_id, date FROM vips WHERE kind = \x27--\x27", .user⟩
        userIdType := .user, conversionWindowHours := 72, includeByDate := true
        metric := .minimal "m" name .count "orders", includePercentiles := true }
    ∃ q q', s.compose (c "it\x27s") = .ok q ∧ s.compose (c "-- \x27\x27\x27") = .ok q' ∧
      uncommented .code q.text.toList = uncommented .code q'.text.toList ∧
      parts q.text.toList = parts q'.text.toList := by
  intro s midnight c
  have hnames : ∀ name ∈ (c "it\x27s").names ++ (c "-- \x27\x27\x27").names, OneLine name :=
    OneLine.forall_mem (by decide +kernel)
  have h := s.uncommented_of_names
    (show (c "it\x27s").withoutNames = (c "-- \x27\x27\x27").withoutNames from rfl) hnames
  -- The literal that the segment's text ends with is closed.
  have hsegment : Closed "SELECT user_id, date FROM vips WHERE kind = \x27--\x27".toList := by
    let sql := Sql.concat ["SELECT user_id, date FROM vips WHERE kind = ", .literal "--"]
    have hsql : sql.Readable := .slot (.of rfl) (.literal "--") .nil
    have htext : sql.text = "SELECT user_id, date FROM vips WHERE kind = \x27--\x27" := by
      decide +kernel
    exact htext ▸ hsql.closed
  have htexts : ∀ t ∈ s.texts ++ (c "it\x27s").texts, Closed t.toList := by
    have hcases : ∀ t ∈ s.texts ++ (c "it\x27s").texts,
        Plain t.toList ∨ t = "SELECT user_id, date FROM vips WHERE kind = \x27--\x27" := by
      unfold Plain
      decide +kernel
    intro t ht
    rcases hcases t ht with hplain | rfl
    · exact hplain.closed
    · exact hsegment
  have hcolumns : ∀ column ∈ (c "it\x27s").columns, Plain column.toList := List.forall_mem_nil _
  exact ⟨_, _, rfl, rfl, h.1, h.2 htexts hcolumns⟩

/-- A name that holds a line break reaches the code. -/
theorem name_with_line_break_reaches_code :
    let s : Source := { settings := .builtin, dialect := ⟨.postgres, none, none⟩ }
    let midnight : DateTime := ⟨⟨738000, by decide⟩, ⟨0, by decide⟩, ⟨0, by decide⟩, none⟩
    let c (name : String) : Composition := .users
      { name, dateFrom := midnight, dateTo := midnight, urlRegex := none, segment := none
        userIdType := .user, conversionWindowHours := 72, includeByDate := false }
    (c "a\nb").withoutNames = (c "a").withoutNames ∧
      ∃ q q', s.compose (c "a\nb") = .ok q ∧ s.compose (c "a") = .ok q' ∧
        uncommented .code q.text.toList ≠ uncommented .code q'.text.toList := by
  intro s midnight c
  have hquery (name : String) : ∃ query : Query, s.compose (c name) = .ok query.sql ∧
      query.title = name ++ " - Number of Users" := ⟨_, rfl, rfl⟩
  obtain ⟨query, hq, htitle⟩ := hquery "a\nb"
  obtain ⟨query', hq', htitle'⟩ := hquery "a"
  have hline : OneLine "a" := .of rfl
  have hline' : OneLine "a - Number of Users" := .of rfl
  obtain ⟨after, hafter⟩ := query.uncommented_of_title _ ('b' :: " - Number of Users\n".toList)
    hline (htitle ▸ by decide +kernel)
  obtain ⟨after', hafter'⟩ := query'.uncommented_of_title _ [] hline' (htitle' ▸ by decide +kernel)
  refine ⟨rfl, _, _, hq, hq', fun h => ?_⟩
  rw [hafter, hafter'] at h
  simp [uncommented] at h

end Source
end SplitTest
