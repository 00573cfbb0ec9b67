import SplitTest.Proofs.Settings.Resolve

/-! Which names of the settings can be empty.  A column that is looked up in several places never
has an empty name, as the built-in name comes last.  The columns of the variation and of the
experiment have one place only: their names are as the document has them, and the empty ones are
left out only where a document is resolved. -/

namespace SplitTest

namespace SourceSettings

open Value Reader Checked

/-- How settings come from a document: it is resolved, or it is read as it stands. -/
inductive Origin
  | resolved
  | asItStands

/-- The settings that a document stands for. -/
def Origin.settings : Origin → Value → Except Fault SourceSettings
  | .resolved, raw => resolve raw
  | .asItStands, raw => accepted (read raw)

/-- The fields of a section that are read. -/
def Origin.sectionFields (origin : Origin) (raw : Value) (sect : String) :
    List (String × Value) :=
  match origin with
  | .resolved => onlySet (raw.sectionFields sect)
  | .asItStands => raw.sectionFields sect

theorem readSection_object_eq_ok {α : Type} {name : String}
    {read : List (String × Value) → Checked α} {fields : List (String × Value)} {a : α}
    (h : readSection name (Reader.object read) fields = .ok a) :
    read ((Value.object fields).sectionFields name) = .ok a := by
  rw [Value.sectionFields, Value.fields]
  unfold readSection at h
  cases hfield : field? name fields with
  | none =>
    rw [hfield] at h
    exact under_eq_ok.mp h
  | some v =>
    rw [hfield] at h
    cases v <;> first | exact under_eq_ok.mp h | cases h

theorem read_eq_ok {raw : Value} {s : SourceSettings} (h : read raw = .ok s) :
    ReadsSections raw.sectionFields s := by
  cases raw with
  | object fields =>
    obtain ⟨hd, he, hu, hp, hi⟩ := read_object_eq_ok.mp h
    exact ⟨readSection_object_eq_ok hd, readSection_object_eq_ok he, readSection_object_eq_ok hu,
      readSection_object_eq_ok hp, readSection_object_eq_ok hi⟩
  | _ => cases h

theorem Origin.readsSections {origin : Origin} {raw : Value} {s : SourceSettings}
    (h : origin.settings raw = .ok s) : ReadsSections (origin.sectionFields raw) s := by
  cases origin with
  | resolved => exact (resolve_eq_ok.mp h).2
  | asItStands => exact read_eq_ok (accepted_eq_ok.mp h)

/-- A text that is read is empty only where its field is. -/
theorem text_eq_empty_iff {key builtin t : String} {fields : List (String × Value)}
    (hbuiltin : builtin ≠ "") (h : withDefault key builtin text fields = .ok t) :
    t = "" ↔ field? key fields = some (.text "") := by
  unfold withDefault at h
  cases hfield : field? key fields with
  | none =>
    rw [hfield] at h
    cases h
    simpa using hbuiltin
  | some v =>
    rw [hfield, under_eq_ok, text_eq_ok] at h
    simp [h]

theorem field?_onlySet_ne_empty (key : String) (fields : List (String × Value)) :
    field? key (onlySet fields) ≠ some (.text "") := by
  intro h
  have hmem := List.mem_filter.mp (mem_of_lookup h)
  simp [isUnset] at hmem

theorem Origin.field?_eq_empty_iff {origin : Origin} {raw : Value} {sect key : String} :
    field? key (origin.sectionFields raw sect) = some (.text "") ↔
      origin = .asItStands ∧ raw.given? sect key = some (.text "") := by
  cases origin with
  | resolved => exact iff_of_false (field?_onlySet_ne_empty _ _) nofun
  | asItStands => exact (and_iff_right rfl).symm

theorem firstNonEmpty_ne_empty {last : String} (hlast : last ≠ "") (names : List (Option String)) :
    firstNonEmpty last names ≠ "" := by
  have h := isUnset_of_firstSet (firstSet_names hlast names)
  rwa [isUnset, ← Bool.not_eq_true, String.isEmpty_iff] at h

theorem column_ne_empty (s : SourceSettings) (role : ColumnRole) (sect : Section)
    (metric : Option MetricDefinition) : s.column role sect metric ≠ "" :=
  firstNonEmpty_ne_empty (builtin_ne_empty role) _

/-- No column that is looked up has an empty name; the columns of the variation and of the
experiment have one exactly if a document that gives them one is read as it stands. -/
theorem empty_names_of_settings {origin : Origin} {raw : Value} {s : SourceSettings}
    (h : origin.settings raw = .ok s) :
    (∀ sect ∈ Section.names, ∀ role metric,
      ∃ name, s.columnIn? role sect.1 metric = .ok name ∧ name ≠ "") ∧
    (∀ idType sect metric, s.idColumn idType sect metric ≠ "") ∧
    (∀ sect metric, s.timestampColumn sect metric ≠ "") ∧
    (s.variationColumn = "" ↔ origin = .asItStands ∧
      raw.given? "experiments" "variation_column" = some (.text "")) ∧
    (s.experimentIdColumn = "" ↔ origin = .asItStands ∧
      raw.given? "experiments" "experiment_id_column" = some (.text "")) := by
  obtain ⟨-, -, hid, hvariation, -⟩ :=
    readExperiments_object_eq_ok.mp (Origin.readsSections h).experiments
  refine ⟨fun sect hsect role metric => ?_, fun idType sect metric => ?_, fun sect metric => ?_,
    ?_, ?_⟩
  · exact ⟨_, columnIn?_eq_column hsect, column_ne_empty s role sect.2 metric⟩
  · exact column_ne_empty s idType.role sect metric
  · exact column_ne_empty s .timestamp sect metric
  · exact (text_eq_empty_iff (by decide) hvariation).trans Origin.field?_eq_empty_iff
  · exact (text_eq_empty_iff (by decide) hid).trans Origin.field?_eq_empty_iff

theorem empty_names_of_settings_blank :
    let raw : Value := .object [("default", .object [("timestamp_column", .text "")]),
      ("experiments", .object [("variation_column", .text "")])]
    ∃ s, Origin.settings .asItStands raw = .ok s ∧
      s.timestampColumn .experiments none ≠ "" ∧ s.variationColumn = "" := by
  intro raw
  obtain ⟨s, hread⟩ : ∃ s, Origin.settings .asItStands raw = .ok s := ⟨_, rfl⟩
  have hnames := empty_names_of_settings hread
  exact ⟨s, hread, hnames.2.2.1 .experiments none, hnames.2.2.2.1.mpr ⟨rfl, rfl⟩⟩

/-- An empty variation column reaches the queries if the document is read as it stands. -/
theorem empty_variationColumn_asItStands :
    ∃ s, Origin.settings .asItStands
        (.object [("experiments", .object [("variation_column", .text "")])]) = .ok s ∧
      s.variationColumn = "" :=
  ⟨_, rfl, rfl⟩

end SourceSettings

end SplitTest
