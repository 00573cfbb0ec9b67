import SplitTest.Proofs.Assignments
import SplitTest.Proofs.Schema.Checked
import SplitTest.SourceSettings

/-! The fields of a settings document that are set, and what sections are read from them: a text is
the first set value among its field and the built-in text, and the name of a column is the field for
it if that is set. -/

namespace SplitTest

namespace Value

/-- The fields of an object; another value has none. -/
def fields : Value → List (String × Value)
  | .object fields => fields
  | _ => []

def sectionFields (raw : Value) (sect : String) : List (String × Value) :=
  ((field? sect raw.fields).getD .null).fields

/-- The value that a document gives for a field of a section. -/
def given? (raw : Value) (sect key : String) : Option Value :=
  field? key (raw.sectionFields sect)

/-- An object, or a value that counts as absent. -/
def IsRecord (v : Value) : Prop :=
  v.isEmpty = true ∨ ∃ fields, v = .object fields

/-- A document and each of its sections name a field once. -/
structure HasDistinctKeys (raw : Value) : Prop where
  document : (raw.fields.map Prod.fst).Nodup
  inSections : ∀ f ∈ raw.fields, (f.2.fields.map Prod.fst).Nodup

theorem fields_of_isEmpty {v : Value} (h : v.isEmpty = true) : v.fields = [] := by
  cases v with
  | object fs => exact List.isEmpty_iff.mp h
  | _ => rfl

theorem HasDistinctKeys.sectionFields {raw : Value} (h : raw.HasDistinctKeys) (sect : String) :
    ((raw.sectionFields sect).map Prod.fst).Nodup := by
  rw [Value.sectionFields]
  cases hsect : field? sect raw.fields with
  | none => exact List.nodup_nil
  | some v => exact h.inSections _ (mem_of_lookup hsect)

end Value

namespace SourceSettings

open Value Reader Checked

/-! ### Set values -/

/-- The first of the values that is there and set. -/
def firstSet (candidates : List (Option Value)) : Option Value :=
  candidates.findSome? fun v => v.filter (!isUnset ·)

theorem isUnset_of_firstSet {candidates : List (Option Value)} {v : Value}
    (h : firstSet candidates = some v) : isUnset v = false := by
  obtain ⟨w, -, hw⟩ := List.exists_of_findSome?_eq_some h
  simpa using (Option.filter_eq_some_iff.mp hw).2

@[simp] theorem firstSet_nil : firstSet [] = none := rfl

@[simp] theorem firstSet_none (rest : List (Option Value)) :
    firstSet (none :: rest) = firstSet rest := rfl

theorem firstSet_some (v : Value) (rest : List (Option Value)) :
    firstSet (some v :: rest) = if isUnset v then firstSet rest else some v := by
  rw [firstSet, List.findSome?_cons, firstSet, Option.filter_some]
  cases isUnset v <;> rfl

/-- The fields that are set. -/
def onlySet (fields : List (String × Value)) : List (String × Value) :=
  fields.filter fun f => !isUnset f.2

/-- Where keys are distinct, a field is among the set ones if its value is set. -/
theorem field?_onlySet {fields : List (String × Value)} (h : (fields.map Prod.fst).Nodup)
    (key : String) :
    field? key (onlySet fields) = (field? key fields).filter (!isUnset ·) := by
  have hset : ((onlySet fields).map Prod.fst).Nodup :=
    h.sublist (List.filter_sublist.map Prod.fst)
  ext v
  rw [Option.filter_eq_some_iff, field?, field?, lookup_eq_some_iff_mem hset,
    lookup_eq_some_iff_mem h, onlySet, List.mem_filter]

section

variable {α : Type} {fields : List (String × Value)} {key : String} {read : Value → Checked α}
  (shape : α → Value)

theorem withDefault_onlySet_eq_ok {default a : α} (hkeys : (fields.map Prod.fst).Nodup)
    (hread : ∀ v a, read v = .ok a ↔ v = shape a) (hdefault : isUnset (shape default) = false)
    (hshape : ∀ a b, shape a = shape b → a = b) :
    withDefault key default read (onlySet fields) = .ok a ↔
      firstSet [field? key fields, some (shape default)] = some (shape a) := by
  have hlast : default = a ↔ firstSet [some (shape default)] = some (shape a) := by
    rw [firstSet_some, hdefault]
    simp only [Bool.false_eq_true, if_false, Option.some.injEq]
    exact ⟨congrArg shape, hshape _ _⟩
  rw [withDefault, field?_onlySet hkeys]
  cases field? key fields with
  | none => simpa using hlast
  | some v =>
    rw [firstSet_some, Option.filter_some]
    cases hset : isUnset v with
    | false => simp [hread]
    | true => simpa [hset] using hlast

theorem withDefault_optional_onlySet_eq_ok {o : Option α} (hkeys : (fields.map Prod.fst).Nodup)
    (hread : ∀ v a, read v = .ok a ↔ v = shape a) :
    withDefault key none (Reader.optional read) (onlySet fields) = .ok o ↔
      firstSet [field? key fields] = o.map shape := by
  rw [withDefault, field?_onlySet hkeys]
  cases field? key fields with
  | none => cases o <;> simp
  | some v =>
    rw [firstSet_some, Option.filter_some]
    cases hset : isUnset v with
    | false =>
      have hoptional : Reader.optional read v = some <$> read v := by
        cases v with
        | null => simp [isUnset] at hset
        | _ => rfl
      cases o with
      | none => simp [hoptional, map_eq_ok]
      | some a => simp [hoptional, map_eq_ok, hread]
    | true => cases o <;> simp

end

/-! ### Sections -/

/-- The key of the field that names the column with a role. -/
def columnKey : ColumnRole → String
  | .timestamp => "timestamp_column"
  | .userId => "user_id_column"
  | .anonymousId => "anonymous_id_column"

theorem forall_role {p : ColumnRole → Prop} :
    (∀ role, p role) ↔ p .timestamp ∧ p .userId ∧ p .anonymousId :=
  ⟨fun h => ⟨h _, h _, h _⟩, fun h role => by cases role <;> simp [h]⟩

/-- The fields of a section name these columns and no others. -/
def NamesColumns (fields : List (String × Value)) (c : Columns) : Prop :=
  ∀ role, firstSet [field? (columnKey role) fields] = (c.get role).map .text

/-- The fields of a section have this text under a key, or have none and it is the built-in one. -/
def HasText (fields : List (String × Value)) (key builtin t : String) : Prop :=
  firstSet [field? key fields, some (.text builtin)] = some (.text t)

theorem readExperiments_object_eq_ok {fields : List (String × Value)} {e : ExperimentsSection} :
    ExperimentsSection.read (.object fields) = .ok e ↔
      Columns.read fields = .ok e.toColumns ∧
        withDefault "table" "experiment_viewed" text fields = .ok e.table ∧
        withDefault "experiment_id_column" "experiment_id" text fields =
          .ok e.experimentIdColumn ∧
        withDefault "variation_column" "variation_id" text fields = .ok e.variationColumn ∧
        withDefault "variation_format" .index (word .literalValue VariationFormat.words) fields =
          .ok e.variationFormat := by
  simp only [ExperimentsSection.read, Reader.object, seq_eq_ok, map_eq_ok]
  constructor
  · rintro ⟨_, ⟨_, ⟨_, ⟨_, ⟨_, hcolumns, rfl⟩, _, htable, rfl⟩, _, hid, rfl⟩, _, hvariation, rfl⟩,
      _, hformat, rfl⟩
    exact ⟨hcolumns, htable, hid, hvariation, hformat⟩
  · rintro ⟨hcolumns, htable, hid, hvariation, hformat⟩
    exact ⟨_, ⟨_, ⟨_, ⟨_, ⟨_, hcolumns, rfl⟩, _, htable, rfl⟩, _, hid, rfl⟩, _, hvariation, rfl⟩,
      _, hformat, rfl⟩

section

variable {fields : List (String × Value)} (hkeys : (fields.map Prod.fst).Nodup)
include hkeys

theorem text_onlySet_eq_ok {key builtin t : String} (hbuiltin : builtin ≠ "") :
    withDefault key builtin text (onlySet fields) = .ok t ↔ HasText fields key builtin t :=
  withDefault_onlySet_eq_ok Value.text hkeys (fun _ _ => text_eq_ok)
    (by simpa [isUnset] using hbuiltin) fun _ _ => Value.text.inj

theorem format_onlySet_eq_ok {key : String} {f : VariationFormat} :
    withDefault key .index (word .literalValue VariationFormat.words) (onlySet fields) = .ok f ↔
      HasText fields key "index" f.name := by
  refine withDefault_onlySet_eq_ok (fun f : VariationFormat => Value.text f.name) hkeys
    (fun v f => ?_) (by decide) fun f g h => ?_
  · rw [word_eq_ok]
    constructor
    · rintro ⟨s, rfl, hs⟩
      simp only [VariationFormat.words, List.lookup_cons] at hs
      grind [VariationFormat.name]
    · rintro rfl
      exact ⟨f.name, rfl, by cases f <;> rfl⟩
  · cases f <;> cases g <;> simp_all [VariationFormat.name]

theorem readColumns_eq_ok {c : Columns} :
    Columns.read (onlySet fields) = .ok c ↔ NamesColumns fields c := by
  simp only [Columns.read, seq_eq_ok, map_eq_ok, NamesColumns, forall_role, columnKey, Columns.get,
    withDefault_optional_onlySet_eq_ok Value.text hkeys fun _ _ => text_eq_ok]
  constructor
  · rintro ⟨_, ⟨_, ⟨_, htime, rfl⟩, _, huser, rfl⟩, _, hanonymous, rfl⟩
    exact ⟨htime, huser, hanonymous⟩
  · rintro ⟨htime, huser, hanonymous⟩
    exact ⟨_, ⟨_, ⟨_, htime, rfl⟩, _, huser, rfl⟩, _, hanonymous, rfl⟩

theorem readDefault_eq_ok {c : Columns} :
    Columns.readDefault (onlySet fields) = .ok c ↔
      ∀ role, ∃ t, c.get role = some t ∧ HasText fields (columnKey role) role.builtin t := by
  have hcolumn (key : String) (role : ColumnRole) (o : Option String) :
      (withDefault key role.builtin text (onlySet fields)).map some = .ok o ↔
        ∃ t, o = some t ∧ HasText fields key role.builtin t := by
    have hbuiltin : role.builtin ≠ "" := by cases role <;> decide
    simp only [← text_onlySet_eq_ok hkeys hbuiltin]
    exact map_eq_ok.trans (exists_congr fun t => and_comm.trans (and_congr_left' eq_comm))
  obtain ⟨timestamp, userId, anonymousId⟩ := c
  simp only [Columns.readDefault, seq_eq_ok, map_eq_ok, hcolumn, forall_role, columnKey,
    Columns.get]
  constructor
  · rintro ⟨_, ⟨_, ⟨_, htime, rfl⟩, _, huser, rfl⟩, _, hanonymous, hcolumns⟩
    cases hcolumns
    exact ⟨htime, huser, hanonymous⟩
  · rintro ⟨htime, huser, hanonymous⟩
    exact ⟨_, ⟨_, ⟨_, htime, rfl⟩, _, huser, rfl⟩, _, hanonymous, rfl⟩

theorem readExperiments_eq_ok {e : ExperimentsSection} :
    ExperimentsSection.read (.object (onlySet fields)) = .ok e ↔
      NamesColumns fields e.toColumns ∧ HasText fields "table" "experiment_viewed" e.table ∧
        HasText fields "experiment_id_column" "experiment_id" e.experimentIdColumn ∧
        HasText fields "variation_column" "variation_id" e.variationColumn ∧
        HasText fields "variation_format" "index" e.variationFormat.name := by
  rw [readExperiments_object_eq_ok, readColumns_eq_ok hkeys, text_onlySet_eq_ok hkeys (by decide),
    text_onlySet_eq_ok hkeys (by decide), text_onlySet_eq_ok hkeys (by decide),
    format_onlySet_eq_ok hkeys]

theorem readTable_eq_ok {builtin : String} (hbuiltin : builtin ≠ "") {t : TableSection} :
    (TableSection.read builtin (.object (onlySet fields)) = .ok t ↔
      NamesColumns fields t.toColumns ∧ HasText fields "table" builtin t.table) := by
  rw [← readColumns_eq_ok hkeys, ← text_onlySet_eq_ok hkeys hbuiltin]
  simp only [TableSection.read, Reader.object, seq_eq_ok, map_eq_ok]
  constructor
  · rintro ⟨_, ⟨_, hcolumns, rfl⟩, _, htable, rfl⟩
    exact ⟨hcolumns, htable⟩
  · rintro ⟨hcolumns, htable⟩
    exact ⟨_, ⟨_, hcolumns, rfl⟩, _, htable, rfl⟩

theorem readPageviews_eq_ok {p : PageviewsSection} :
    PageviewsSection.read (.object (onlySet fields)) = .ok p ↔
      NamesColumns fields p.toColumns ∧ HasText fields "table" "pages" p.table ∧
        HasText fields "url_column" "path" p.urlColumn := by
  rw [← readColumns_eq_ok hkeys, ← text_onlySet_eq_ok hkeys (by decide),
    ← text_onlySet_eq_ok hkeys (by decide)]
  simp only [PageviewsSection.read, Reader.object, seq_eq_ok, map_eq_ok]
  constructor
  · rintro ⟨_, ⟨_, ⟨_, hcolumns, rfl⟩, _, htable, rfl⟩, _, hurl, rfl⟩
    exact ⟨hcolumns, htable, hurl⟩
  · rintro ⟨hcolumns, htable, hurl⟩
    exact ⟨_, ⟨_, ⟨_, hcolumns, rfl⟩, _, htable, rfl⟩, _, hurl, rfl⟩

end

end SourceSettings

end SplitTest
