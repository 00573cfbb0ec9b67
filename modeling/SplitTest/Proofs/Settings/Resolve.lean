import SplitTest.Proofs.Except
import SplitTest.Proofs.Settings.Fields

/-! Settings resolved from a document.  Each name of the settings is the first set value among the
places of the document that are asked for it and the built-in name, so that fields that are not set
may as well be absent, and a section depends on no other one but the default section. -/

namespace SplitTest

namespace SourceSettings

open Value Reader Checked

/-! ### Documents -/

theorem documentFields_eq_ok {raw : Value} {given : List (String × Value)} :
    documentFields raw = .ok given ↔ raw.IsRecord ∧ raw.fields = given := by
  unfold documentFields IsRecord
  by_cases hempty : raw.isEmpty = true
  · simp [hempty, fields_of_isEmpty hempty]
  · cases raw <;> simp [hempty, Value.fields]

theorem setFields_eq_ok {fields set : List (String × Value)} {sect : String} :
    setFields fields sect = .ok set ↔
      ((field? sect fields).getD .null).IsRecord ∧
        onlySet ((field? sect fields).getD .null).fields = set := by
  unfold setFields IsRecord
  cases field? sect fields with
  | none => simp [isEmpty, Value.fields, onlySet]
  | some v =>
    by_cases hempty : v.isEmpty = true
    · simp [hempty, fields_of_isEmpty hempty, onlySet]
    · cases v <;> simp [hempty, Value.fields, onlySet]

/-- A document is a record, and so is each of its sections. -/
def HasRecords (raw : Value) : Prop :=
  raw.IsRecord ∧ ∀ sect ∈ Section.names, ((field? sect.1 raw.fields).getD .null).IsRecord

/-- A document with every section, each with the fields that are set. -/
def setDocument (raw : Value) : Value :=
  .object (Section.names.map fun sect => (sect.1, .object (onlySet (raw.sectionFields sect.1))))

theorem merged_eq_ok {raw document : Value} :
    merged raw = .ok document ↔ HasRecords raw ∧ setDocument raw = document := by
  have hsection (sect : String × Section) (given : String × Value) :
      (do let set ← setFields raw.fields sect.1; pure (sect.1, Value.object set)) =
          (Except.ok given : Except Fault (String × Value)) ↔
        ((field? sect.1 raw.fields).getD .null).IsRecord ∧
          (sect.1, .object (onlySet (raw.sectionFields sect.1))) = given := by
    simp only [Except.bind_eq_ok, setFields_eq_ok, Except.pure_eq_ok, sectionFields]
    constructor
    · rintro ⟨_, ⟨hrecord, rfl⟩, rfl⟩
      exact ⟨hrecord, rfl⟩
    · rintro ⟨hrecord, rfl⟩
      exact ⟨_, ⟨hrecord, rfl⟩, rfl⟩
  rw [merged, Except.bind_eq_ok]
  constructor
  · rintro ⟨_, hraw, h⟩
    obtain ⟨hrecord, rfl⟩ := documentFields_eq_ok.mp hraw
    obtain ⟨_, hsections, h⟩ := Except.bind_eq_ok.mp h
    obtain ⟨hrecords, rfl⟩ := (Except.mapM_eq_ok_map hsection).mp hsections
    exact ⟨⟨hrecord, hrecords⟩, Except.pure_eq_ok.mp h⟩
  · rintro ⟨⟨hrecord, hrecords⟩, rfl⟩
    exact ⟨_, documentFields_eq_ok.mpr ⟨hrecord, rfl⟩, Except.bind_eq_ok.mpr
      ⟨_, (Except.mapM_eq_ok_map hsection).mpr ⟨hrecords, rfl⟩, rfl⟩⟩

/-- The settings that the sections of a document are read as. -/
structure ReadsSections (fields : String → List (String × Value)) (s : SourceSettings) : Prop where
  default : Columns.readDefault (fields "default") = .ok s.default
  experiments : ExperimentsSection.read (.object (fields "experiments")) = .ok s.experiments
  users : TableSection.read "users" (.object (fields "users")) = .ok s.users
  pageviews : PageviewsSection.read (.object (fields "pageviews")) = .ok s.pageviews
  identifies : TableSection.read "identifies" (.object (fields "identifies")) = .ok s.identifies

theorem accepted_eq_ok {α : Type} {x : Checked α} {a : α} : accepted x = .ok a ↔ x = .ok a := by
  cases x <;> simp [accepted]

theorem read_object_eq_ok {fields : List (String × Value)} {s : SourceSettings} :
    read (.object fields) = .ok s ↔
      readSection "default" (Reader.object Columns.readDefault) fields = .ok s.default ∧
        readSection "experiments" ExperimentsSection.read fields = .ok s.experiments ∧
        readSection "users" (TableSection.read "users") fields = .ok s.users ∧
        readSection "pageviews" PageviewsSection.read fields = .ok s.pageviews ∧
        readSection "identifies" (TableSection.read "identifies") fields = .ok s.identifies := by
  simp only [read, Reader.object, seq_eq_ok, map_eq_ok]
  constructor
  · rintro ⟨_, ⟨_, ⟨_, ⟨_, ⟨_, hdefault, rfl⟩, _, hexperiments, rfl⟩, _, husers, rfl⟩, _,
      hpageviews, rfl⟩, _, hidentifies, rfl⟩
    exact ⟨hdefault, hexperiments, husers, hpageviews, hidentifies⟩
  · rintro ⟨hdefault, hexperiments, husers, hpageviews, hidentifies⟩
    exact ⟨_, ⟨_, ⟨_, ⟨_, ⟨_, hdefault, rfl⟩, _, hexperiments, rfl⟩, _, husers, rfl⟩, _,
      hpageviews, rfl⟩, _, hidentifies, rfl⟩

theorem resolve_eq_ok {raw : Value} {s : SourceSettings} :
    resolve raw = .ok s ↔
      HasRecords raw ∧ ReadsSections (fun sect => onlySet (raw.sectionFields sect)) s := by
  have hread : read (setDocument raw) = .ok s ↔
      ReadsSections (fun sect => onlySet (raw.sectionFields sect)) s := by
    simp only [setDocument, Section.names, List.map_cons, List.map_nil, read_object_eq_ok,
      readSection, field?, List.lookup_cons, String.reduceBEq, under_eq_ok]
    exact ⟨fun ⟨hd, he, hu, hp, hi⟩ => ⟨hd, he, hu, hp, hi⟩,
      fun ⟨hd, he, hu, hp, hi⟩ => ⟨hd, he, hu, hp, hi⟩⟩
  rw [resolve, Except.bind_eq_ok, ← hread]
  constructor
  · rintro ⟨_, hmerged, h⟩
    obtain ⟨hrecords, rfl⟩ := merged_eq_ok.mp hmerged
    exact ⟨hrecords, accepted_eq_ok.mp h⟩
  · rintro ⟨hrecords, h⟩
    exact ⟨_, merged_eq_ok.mpr ⟨hrecords, rfl⟩, accepted_eq_ok.mpr h⟩

/-! ### Names -/

/-- A text of the settings that one field of one section stands for. -/
structure OwnText where
  sect : String
  key : String
  builtin : String
  get : SourceSettings → String

/-- The tables, the columns that only one section has, and the format of variations. -/
def ownTexts : List OwnText :=
  [⟨"experiments", "table", "experiment_viewed", (·.experiments.table)⟩,
    ⟨"experiments", "experiment_id_column", "experiment_id", experimentIdColumn⟩,
    ⟨"experiments", "variation_column", "variation_id", variationColumn⟩,
    ⟨"experiments", "variation_format", "index", (·.experiments.variationFormat.name)⟩,
    ⟨"users", "table", "users", (·.users.table)⟩,
    ⟨"pageviews", "table", "pages", (·.pageviews.table)⟩,
    ⟨"pageviews", "url_column", "path", (·.pageviews.urlColumn)⟩,
    ⟨"identifies", "table", "identifies", (·.identifies.table)⟩]

/-- Each name of the settings stands in the section it belongs to, or is the built-in one. -/
structure Reflects (raw : Value) (s : SourceSettings) : Prop where
  own : ∀ t ∈ ownTexts, HasText (raw.sectionFields t.sect) t.key t.builtin (t.get s)
  default : ∀ role, ∃ t, s.default.get role = some t ∧
    HasText (raw.sectionFields "default") (columnKey role) role.builtin t
  columns : ∀ sect ∈ Section.names, sect.2 ≠ .default →
    NamesColumns (raw.sectionFields sect.1) (s.columnsOf sect.2)

theorem resolve_eq_ok_iff_reflects {raw : Value} (hkeys : raw.HasDistinctKeys)
    {s : SourceSettings} : resolve raw = .ok s ↔ HasRecords raw ∧ Reflects raw s := by
  rw [resolve_eq_ok]
  refine and_congr_right fun _ => ⟨fun ⟨hd, he, hu, hp, hi⟩ => ?_, fun ⟨hown, hd, hcolumns⟩ => ?_⟩
  · rw [readDefault_eq_ok (hkeys.sectionFields _)] at hd
    rw [readExperiments_eq_ok (hkeys.sectionFields _)] at he
    rw [readTable_eq_ok (hkeys.sectionFields _) (by decide)] at hu hi
    rw [readPageviews_eq_ok (hkeys.sectionFields _)] at hp
    refine ⟨?_, hd, ?_⟩
    · simp only [ownTexts, List.forall_mem_cons]
      exact ⟨he.2.1, he.2.2.1, he.2.2.2.1, he.2.2.2.2, hu.2, hp.2.1, hp.2.2, hi.2,
        List.forall_mem_nil _⟩
    · simp only [Section.names, List.forall_mem_cons]
      exact ⟨fun h => absurd rfl h, fun _ => he.1, fun _ => hu.1, fun _ => hp.1, fun _ => hi.1,
        List.forall_mem_nil _⟩
  · simp only [ownTexts, List.forall_mem_cons] at hown
    simp only [Section.names, List.forall_mem_cons] at hcolumns
    obtain ⟨table, experimentId, variation, format, users, pages, url, identifies, -⟩ := hown
    obtain ⟨-, he, hu, hp, hi, -⟩ := hcolumns
    exact ⟨(readDefault_eq_ok (hkeys.sectionFields _)).mpr hd,
      (readExperiments_eq_ok (hkeys.sectionFields _)).mpr
        ⟨he nofun, table, experimentId, variation, format⟩,
      (readTable_eq_ok (hkeys.sectionFields _) (by decide)).mpr ⟨hu nofun, users⟩,
      (readPageviews_eq_ok (hkeys.sectionFields _)).mpr ⟨hp nofun, pages, url⟩,
      (readTable_eq_ok (hkeys.sectionFields _) (by decide)).mpr ⟨hi nofun, identifies⟩⟩

/-- The first name that is not empty is the first set value. -/
theorem firstSet_names {last : String} (hlast : last ≠ "") (names : List (Option String)) :
    firstSet (names.map (·.map Value.text) ++ [some (.text last)]) =
      some (.text (firstNonEmpty last names)) := by
  induction names with
  | nil => simp [firstSet_some, isUnset, hlast, firstNonEmpty]
  | cons name rest ih =>
    cases name with
    | none => simpa [firstNonEmpty] using ih
    | some t =>
      by_cases ht : t = ""
      · simpa [firstSet_some, isUnset, ht, firstNonEmpty] using ih
      · simp [firstSet_some, isUnset, ht, firstNonEmpty]

theorem firstSet_cons (v : Option Value) (rest : List (Option Value)) :
    firstSet (v :: rest) = (firstSet [v]).or (firstSet rest) := by
  cases v with
  | none => rfl
  | some v =>
    rw [firstSet_some, firstSet_some]
    cases isUnset v <;> rfl

theorem firstSet_twice (v : Option Value) (rest : List (Option Value)) :
    firstSet (v :: v :: rest) = firstSet (v :: rest) := by
  cases v with
  | none => rfl
  | some v =>
    rw [firstSet_some, firstSet_some]
    cases isUnset v <;> rfl

theorem firstSet_firstSet (candidates : List (Option Value)) :
    firstSet [firstSet candidates] = firstSet candidates := by
  cases h : firstSet candidates with
  | none => rfl
  | some v => simp [firstSet_some, isUnset_of_firstSet h]

theorem builtin_ne_empty (role : ColumnRole) : role.builtin ≠ "" := by
  cases role <;> decide

/-- What a section and the default section say of a column, in the document and in the settings. -/
theorem Reflects.firstSet_sections {raw : Value} {s : SourceSettings} (h : Reflects raw s)
    {sect : String × Section} (hsect : sect ∈ Section.names) (role : ColumnRole) :
    firstSet [raw.given? sect.1 (columnKey role), raw.given? "default" (columnKey role),
        some (.text role.builtin)] =
      firstSet [((s.columnsOf sect.2).get role).map .text, (s.default.get role).map .text,
        some (.text role.builtin)] := by
  obtain ⟨t, hget, ht⟩ := h.default role
  -- the default section with the built-in name behind it comes down to one text on both sides
  have hdefault : firstSet [raw.given? "default" (columnKey role), some (.text role.builtin)] =
      firstSet [(s.default.get role).map .text, some (.text role.builtin)] := by
    rw [hget, Option.map_some, firstSet_some, isUnset_of_firstSet ht]
    exact ht
  by_cases hname : sect.2 = .default
  · obtain rfl : sect = ("default", .default) := by
      simp only [Section.names, List.mem_cons, List.not_mem_nil, or_false] at hsect
      rcases hsect with rfl | rfl | rfl | rfl | rfl <;> first | rfl | cases hname
    simp only [columnsOf, firstSet_twice]
    exact hdefault
  · have hcolumn := h.columns sect hsect hname role
    rw [firstSet_cons, hdefault, firstSet_cons (((s.columnsOf sect.2).get role).map .text),
      ← hcolumn, firstSet_firstSet]
    rfl

theorem Reflects.column {raw : Value} {s : SourceSettings} (h : Reflects raw s)
    {sect : String × Section} (hsect : sect ∈ Section.names) (role : ColumnRole)
    (metric : Option MetricDefinition) :
    firstSet [(metricColumn? metric role).map .text, raw.given? sect.1 (columnKey role),
        raw.given? "default" (columnKey role), some (.text role.builtin)] =
      some (.text (s.column role sect.2 metric)) := by
  rw [firstSet_cons, h.firstSet_sections hsect role, ← firstSet_cons]
  exact firstSet_names (builtin_ne_empty role)
    [metricColumn? metric role, (s.columnsOf sect.2).get role, s.default.get role]

theorem columnIn?_eq_column {s : SourceSettings} {sect : String × Section}
    (hsect : sect ∈ Section.names) {role : ColumnRole} {metric : Option MetricDefinition} :
    s.columnIn? role sect.1 metric = .ok (s.column role sect.2 metric) := by
  have hlookup : Section.names.lookup sect.1 = some sect.2 := by
    revert sect
    decide
  rw [columnIn?, hlookup]

/-! ### Fields that are not set -/

/-- A value without those of its fields that are not set. -/
def onlySetOf : Value → Value
  | .object fields => .object (onlySet fields)
  | v => v

/-- A document without the fields, its own and those of its sections, that are not set. -/
def withoutUnset : Value → Value
  | .object fields => .object ((onlySet fields).map (Prod.map id onlySetOf))
  | v => v

theorem fields_onlySetOf (v : Value) : (onlySetOf v).fields = onlySet v.fields := by
  cases v <;> rfl

theorem isRecord_onlySetOf {v : Value} : (onlySetOf v).IsRecord ↔ v.IsRecord := by
  cases v with
  | object fields => exact iff_of_true (.inr ⟨_, rfl⟩) (.inr ⟨_, rfl⟩)
  | _ => exact Iff.rfl

theorem isRecord_withoutUnset {raw : Value} : (withoutUnset raw).IsRecord ↔ raw.IsRecord := by
  cases raw with
  | object fields => exact iff_of_true (.inr ⟨_, rfl⟩) (.inr ⟨_, rfl⟩)
  | _ => exact Iff.rfl

theorem isEmpty_of_isUnset {v : Value} (h : isUnset v = true) : v.isEmpty = true := by
  cases v <;> first | exact h | rfl | simp [isUnset] at h

theorem onlySet_onlySet (fields : List (String × Value)) :
    onlySet (onlySet fields) = onlySet fields := by
  simp [onlySet]

theorem section_withoutUnset {raw : Value} (hkeys : raw.HasDistinctKeys) (sect : String) :
    field? sect (withoutUnset raw).fields =
      ((field? sect raw.fields).filter (!isUnset ·)).map onlySetOf := by
  cases raw with
  | object fields =>
    rw [← field?_onlySet hkeys.document]
    exact lookup_map onlySetOf sect (onlySet fields)
  | _ => rfl

theorem sectionFields_withoutUnset {raw : Value} (hkeys : raw.HasDistinctKeys) (sect : String) :
    (withoutUnset raw).sectionFields sect = onlySet (raw.sectionFields sect) := by
  rw [sectionFields, sectionFields, section_withoutUnset hkeys]
  cases field? sect raw.fields with
  | none => rfl
  | some v =>
    cases hset : isUnset v with
    | false => simpa [Option.filter_some, hset] using fields_onlySetOf v
    | true =>
      have hfields : v.fields = [] := fields_of_isEmpty (isEmpty_of_isUnset hset)
      simp only [Option.filter_some, hset, Option.getD_some, hfields]
      rfl

theorem hasRecords_withoutUnset {raw : Value} (hkeys : raw.HasDistinctKeys) :
    HasRecords (withoutUnset raw) ↔ HasRecords raw := by
  refine and_congr isRecord_withoutUnset (forall₂_congr fun sect _ => ?_)
  rw [section_withoutUnset hkeys]
  cases field? sect.1 raw.fields with
  | none => rfl
  | some v =>
    cases hset : isUnset v with
    | false => simpa [Option.filter_some, hset] using isRecord_onlySetOf
    | true =>
      simp only [Option.filter_some, hset]
      exact iff_of_true (.inl rfl) (.inl (isEmpty_of_isUnset hset))

/-- Fields that are not set may be deleted. -/
theorem resolve_withoutUnset {raw : Value} (hkeys : raw.HasDistinctKeys) (s : SourceSettings) :
    resolve (withoutUnset raw) = .ok s ↔ resolve raw = .ok s := by
  simp only [resolve_eq_ok, hasRecords_withoutUnset hkeys, sectionFields_withoutUnset hkeys,
    onlySet_onlySet]

/-! ### Settings as a document -/

theorem hasDistinctKeys_toValue (s : SourceSettings) : s.toValue.HasDistinctKeys := by
  constructor
  · simp [toValue, Value.fields]
  · simp [toValue, Value.fields, Columns.toFields]

theorem hasRecords_toValue (s : SourceSettings) : HasRecords s.toValue := by
  refine ⟨.inr ⟨_, rfl⟩, ?_⟩
  simp only [Section.names, List.forall_mem_cons]
  exact ⟨.inr ⟨_, rfl⟩, .inr ⟨_, rfl⟩, .inr ⟨_, rfl⟩, .inr ⟨_, rfl⟩, .inr ⟨_, rfl⟩,
    List.forall_mem_nil _⟩

theorem given?_toValue_own (s : SourceSettings) :
    ∀ t ∈ ownTexts, s.toValue.given? t.sect t.key = some (.text (t.get s)) := by
  simp only [ownTexts, List.forall_mem_cons]
  exact ⟨rfl, rfl, rfl, rfl, rfl, rfl, rfl, rfl, List.forall_mem_nil _⟩

theorem given?_toValue_column (s : SourceSettings) (role : ColumnRole) :
    ∀ sect ∈ Section.names, s.toValue.given? sect.1 (columnKey role) =
      some (MetricDefinition.optionalText ((s.columnsOf sect.2).get role)) := by
  simp only [Section.names, List.forall_mem_cons]
  cases role <;> exact ⟨rfl, rfl, rfl, rfl, rfl, List.forall_mem_nil _⟩

theorem HasText.again {fields fields' : List (String × Value)} {key builtin t : String}
    (h : HasText fields key builtin t) {key' : String}
    (hgiven : field? key' fields' = some (.text t)) : HasText fields' key' builtin t := by
  rw [HasText, hgiven, firstSet_some, isUnset_of_firstSet h]
  rfl

/-- Settings resolved from a document are what their own document resolves to. -/
theorem resolve_toValue {raw : Value} {s : SourceSettings} (h : Reflects raw s) :
    resolve s.toValue = .ok s := by
  rw [resolve_eq_ok_iff_reflects (hasDistinctKeys_toValue s)]
  refine ⟨hasRecords_toValue s, fun t ht => ?_, fun role => ?_, fun sect hsect hname role => ?_⟩
  · exact (h.own t ht).again (given?_toValue_own s t ht)
  · obtain ⟨t, hget, ht⟩ := h.default role
    refine ⟨t, hget, ht.again ?_⟩
    have hgiven := given?_toValue_column s role ("default", .default) (by decide)
    rwa [columnsOf, hget] at hgiven
  · have hcolumn := h.columns sect hsect hname role
    have hgiven : field? (columnKey role) (s.toValue.sectionFields sect.1) = _ :=
      given?_toValue_column s role sect hsect
    rw [hgiven]
    cases hget : (s.columnsOf sect.2).get role with
    | none => rfl
    | some t =>
      rw [hget] at hcolumn
      exact (congrArg (firstSet [·]) hcolumn).symm.trans
        ((firstSet_firstSet _).trans hcolumn)

/-! ### The law of resolution -/

/-- Two settings have the same section. -/
def SameSection (s s' : SourceSettings) : Section → Prop
  | .default => s.default = s'.default
  | .experiments => s.experiments = s'.experiments
  | .users => s.users = s'.users
  | .pageviews => s.pageviews = s'.pageviews
  | .identifies => s.identifies = s'.identifies

theorem SameSection.columnsOf {s s' : SourceSettings} {sect : Section} (h : SameSection s s' sect) :
    s.columnsOf sect = s'.columnsOf sect := by
  cases sect <;> simp_all [SameSection, SourceSettings.columnsOf]

theorem ReadsSections.same {fields fields' : String → List (String × Value)}
    {s s' : SourceSettings} (h : ReadsSections fields s) (h' : ReadsSections fields' s')
    {sect : String × Section} (hsect : sect ∈ Section.names)
    (hfields : fields sect.1 = fields' sect.1) : SameSection s s' sect.2 := by
  have hread {α : Type} (read : List (String × Value) → Checked α) {a b : α}
      (ha : read (fields sect.1) = .ok a) (hb : read (fields' sect.1) = .ok b) : a = b :=
    Checked.ok.inj (ha.symm.trans (hfields ▸ hb))
  simp only [Section.names, List.mem_cons, List.not_mem_nil, or_false] at hsect
  rcases hsect with rfl | rfl | rfl | rfl | rfl
  · exact hread Columns.readDefault h.default h'.default
  · exact hread (fun given => ExperimentsSection.read (.object given)) h.experiments h'.experiments
  · exact hread (fun given => TableSection.read "users" (.object given)) h.users h'.users
  · exact hread (fun given => PageviewsSection.read (.object given)) h.pageviews h'.pageviews
  · exact hread (fun given => TableSection.read "identifies" (.object given)) h.identifies
      h'.identifies

/-- What settings say of names agrees with the document that they are resolved from. -/
structure AgreesWith (s : SourceSettings) (raw : Value) : Prop where
  /-- A column is named by the metric, its section, the default section or the built-in name, by the
  first of them that has a name. -/
  column : ∀ sect ∈ Section.names, ∀ role metric,
    s.columnIn? role sect.1 metric = .ok (s.column role sect.2 metric) ∧
      firstSet [(metricColumn? metric role).map .text, raw.given? sect.1 (columnKey role),
          raw.given? "default" (columnKey role), some (.text role.builtin)] =
        some (.text (s.column role sect.2 metric))
  /-- Every other text is named by its own section or the built-in name. -/
  own : ∀ t ∈ ownTexts,
    firstSet [raw.given? t.sect t.key, some (.text t.builtin)] = some (.text (t.get s))
  /-- A document with the same section resolves to the same section, and to the same columns of it
  if the default sections are the same too. -/
  apart : ∀ raw' s', resolve raw' = .ok s' → ∀ sect ∈ Section.names,
    field? sect.1 raw.fields = field? sect.1 raw'.fields → SameSection s s' sect.2 ∧
      (field? "default" raw.fields = field? "default" raw'.fields →
        ∀ role metric, s.column role sect.2 metric = s'.column role sect.2 metric)
  unset : resolve (withoutUnset raw) = .ok s
  again : resolve s.toValue = .ok s

/-- Settings agree with the document that they are resolved from. -/
theorem agreesWith_of_resolve {raw : Value} {s : SourceSettings} (hkeys : raw.HasDistinctKeys)
    (h : resolve raw = .ok s) : s.AgreesWith raw := by
  have hreflects : Reflects raw s := ((resolve_eq_ok_iff_reflects hkeys).mp h).2
  have hsame (raw' : Value) (s' : SourceSettings) (h' : resolve raw' = .ok s') :
      ∀ sect ∈ Section.names, field? sect.1 raw.fields = field? sect.1 raw'.fields →
        SameSection s s' sect.2 := by
    intro sect hsect hfield
    refine (resolve_eq_ok.mp h).2.same (resolve_eq_ok.mp h').2 hsect ?_
    simp only [sectionFields, hfield]
  constructor
  · intro sect hsect role metric
    exact ⟨columnIn?_eq_column hsect, hreflects.column hsect role metric⟩
  · exact hreflects.own
  · intro raw' s' h' sect hsect hfield
    have hsection := hsame raw' s' h' sect hsect hfield
    refine ⟨hsection, fun hdefault role metric => ?_⟩
    have hdefaults : s.default = s'.default :=
      hsame raw' s' h' ("default", .default) (by decide) hdefault
    rw [SourceSettings.column, SourceSettings.column, hsection.columnsOf, hdefaults]
  · exact (resolve_withoutUnset hkeys s).mpr h
  · exact resolve_toValue hreflects

theorem agreesWith_of_resolve_partial :
    let raw : Value := .object [
      ("default", .object [("user_id_column", .text "uid"), ("timestamp_column", .text "")]),
      ("pageviews", .object [("user_id_column", .text "visitor"), ("url_column", .null),
        ("surplus", .int 1)])]
    ∃ s, resolve raw = .ok s ∧ s.AgreesWith raw :=
  ⟨_, rfl, agreesWith_of_resolve ⟨by decide, by decide⟩ rfl⟩

end SourceSettings

end SplitTest
