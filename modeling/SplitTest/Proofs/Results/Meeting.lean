import SplitTest.Proofs.Results.TextRows

/-! Rows that meet in a cell.  A query groups its rows by variation and dimension as they stand, so
no two of them have both in common.  They still meet where a null stands against an empty dimension,
or where two texts name the same variation; by key, a variation is named by one text only. -/

namespace SplitTest

/-! ### Positions by key -/

theorem ExperimentDefinition.lookup_keyMapFrom {acc : List (String × Int)} {index : Nat}
    {variations : List Variation} {k : String} {i : Int}
    (h : (keyMapFrom acc index variations).lookup k = some i) :
    acc.lookup k = some i ∨
      ∃ j, i = ((index + j : Nat) : Int) ∧ (variations[j]?).map (·.key) = some k := by
  induction variations generalizing acc index with
  | nil => exact .inl h
  | cons v rest ih =>
    rcases ih h with hput | ⟨j, hi, hj⟩
    · rw [lookup_assign] at hput
      split at hput
      · rename_i hk
        exact .inr ⟨0, by simpa using hput.symm, by simp [hk]⟩
      · exact .inl hput
    · exact .inr ⟨j + 1, by omega, by simpa using hj⟩

/-- The position that a key has is that of a variation with the key. -/
theorem ExperimentDefinition.key_of_lookup {e : ExperimentDefinition} {k : String} {i : Nat}
    (h : e.variationKeyMap.lookup k = some (i : Int)) :
    (e.variations[i]?).map (·.key) = some k := by
  rcases lookup_keyMapFrom h with hnil | ⟨j, hi, hj⟩
  · simp at hnil
  · obtain rfl : i = j := by omega
    exact hj

/-- The position that a text gives to a variation. -/
def VariationFormat.position? (format : VariationFormat) (keys : List (String × Int)) (s : String) :
    Option Int :=
  match format with
  | .key => keys.lookup s
  | .index => intOfText? (Text.trim s)

theorem resolveVariation_eq_some {format : VariationFormat} {keys : List (String × Int)} {n : Nat}
    {v : Value} {i : Fin n} (h : resolveVariation format keys n v = some i) :
    v ≠ .null ∧ format.position? keys v.display = some (i.val : Int) := by
  have hnull : v ≠ .null := by
    rintro rfl
    simp [resolveVariation] at h
  refine ⟨hnull, ?_⟩
  unfold resolveVariation at h
  split at h
  · exact absurd rfl hnull
  · obtain ⟨p, hp, hi⟩ := Option.bind_eq_some_iff.mp h
    split at hi
    · rename_i hrange
      have hposition : format.position? keys v.display = some p := hp
      rw [hposition, ← Option.some.inj hi]
      exact congrArg some (Int.toNat_of_nonneg hrange.1).symm
    · simp at hi

namespace Merge

/-! ### Groups and cells -/

/-- The variation and the dimension of a row as they stand. -/
def group (row : Row) : Value × Value :=
  (row.get "variation", row.get "dimension")

/-- Rows of which no two are of the same group. -/
def Grouped (rows : List Row) : Prop :=
  rows.Pairwise fun a b => group a ≠ group b

/-- Two rows meet if they belong to the same cell. -/
def Context.Meet (c : Context) (a b : Row) : Prop :=
  c.cell? a ≠ none ∧ c.cell? a = c.cell? b

/-- One of two values is null and the other the empty text. -/
def NullAndEmpty (v w : Value) : Prop :=
  v = .null ∧ w = .text "" ∨ v = .text "" ∧ w = .null

/-- Two rows name the same variation, and either a null stands against an empty dimension or they
spell the variation differently. -/
def Context.Confused (c : Context) (a b : Row) : Prop :=
  c.place a ≠ none ∧ c.place a = c.place b ∧
    (NullAndEmpty (a.get "dimension") (b.get "dimension") ∨
      a.get "dimension" = b.get "dimension" ∧ a.get "variation" ≠ b.get "variation")

theorem dimensionKey_eq_iff {a b : Row} (ha : a.isText = true) (hb : b.isText = true) :
    dimensionKey a = dimensionKey b ↔
      a.get "dimension" = b.get "dimension" ∨
        NullAndEmpty (a.get "dimension") (b.get "dimension") := by
  have ha := Row.isTextCell_get ha "dimension"
  have hb := Row.isTextCell_get hb "dimension"
  unfold dimensionKey NullAndEmpty
  cases hav : a.get "dimension" <;> simp [hav, Value.isTextCell] at ha <;>
    cases hbv : b.get "dimension" <;> simp [hbv, Value.isTextCell] at hb <;>
    simp [Value.display, eq_comm]

theorem Context.meet_iff (c : Context) (a b : Row) :
    c.Meet a b ↔
      c.place a ≠ none ∧ c.place a = c.place b ∧ dimensionKey a = dimensionKey b := by
  unfold Context.Meet Context.cell?
  cases hpa : c.place a with
  | none => simp
  | some i =>
    cases hpb : c.place b with
    | none => simp
    | some j => simp [Fin.ext_iff, and_comm]

/-- Text rows of different groups meet exactly where they are confused. -/
theorem Context.meet_iff_confused (c : Context) {a b : Row} (ha : a.isText = true)
    (hb : b.isText = true) (h : group a ≠ group b) : c.Meet a b ↔ c.Confused a b := by
  rw [c.meet_iff, dimensionKey_eq_iff ha hb]
  constructor
  · rintro ⟨hp, heq, hdimension | hnull⟩
    · refine ⟨hp, heq, .inr ⟨hdimension, fun hvariation => h ?_⟩⟩
      simp [group, hdimension, hvariation]
    · exact ⟨hp, heq, .inl hnull⟩
  · rintro ⟨hp, heq, hnull | ⟨hdimension, -⟩⟩
    · exact ⟨hp, heq, .inr hnull⟩
    · exact ⟨hp, heq, .inl hdimension⟩

/-- By key, text rows that name the same variation spell it in the same way. -/
theorem variation_eq_of_key {settings : SourceSettings} {e : ExperimentDefinition}
    (hformat : settings.experiments.variationFormat = .key) {a b : Row} (ha : a.isText = true)
    (hb : b.isText = true) (hp : (Context.ofExperiment settings e).place a ≠ none)
    (heq : (Context.ofExperiment settings e).place a = (Context.ofExperiment settings e).place b) :
    a.get "variation" = b.get "variation" := by
  obtain ⟨i, hi⟩ := Option.ne_none_iff_exists'.mp hp
  have hj := heq ▸ hi
  have ha := Row.isTextCell_get ha "variation"
  have hb := Row.isTextCell_get hb "variation"
  obtain ⟨hanull, hakey⟩ := resolveVariation_eq_some hi
  obtain ⟨hbnull, hbkey⟩ := resolveVariation_eq_some hj
  simp only [Context.ofExperiment, hformat, VariationFormat.position?] at hakey hbkey
  have hkeys := (ExperimentDefinition.key_of_lookup hakey).symm.trans
    (ExperimentDefinition.key_of_lookup hbkey)
  cases hav : a.get "variation" <;> simp [hav, Value.isTextCell] at ha hanull
  cases hbv : b.get "variation" <;> simp [hbv, Value.isTextCell] at hb hbnull
  simpa [hav, hbv, Value.display] using hkeys

/-- By key, rows are confused only where a null stands against an empty dimension. -/
theorem nullAndEmpty_of_confused {settings : SourceSettings} {e : ExperimentDefinition}
    (hformat : settings.experiments.variationFormat = .key) {a b : Row} (ha : a.isText = true)
    (hb : b.isText = true) (h : (Context.ofExperiment settings e).Confused a b) :
    a.get "variation" = b.get "variation" ∧
      NullAndEmpty (a.get "dimension") (b.get "dimension") := by
  obtain ⟨hp, heq, hcase⟩ := h
  have hvariation := variation_eq_of_key hformat ha hb hp heq
  rcases hcase with hnull | ⟨-, hne⟩
  · exact ⟨hvariation, hnull⟩
  · exact absurd hvariation hne

end Merge

end SplitTest
