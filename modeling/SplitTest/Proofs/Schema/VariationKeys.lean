import SplitTest.Proofs.Results.Meeting
import SplitTest.Proofs.Schema.Minimal

/-! Variations found by their keys.  A key names the last variation that has it.  So a variation of
an experiment is found by its own key exactly if no later one repeats the key; a document in which
keys are repeated is accepted all the same. -/

namespace SplitTest

/-- The position is that of the last variation with the key. -/
def Variation.IsLast (variations : List Variation) (key : String) (i : Nat) : Prop :=
  (variations[i]?).map (·.key) = some key ∧
    ∀ j, i < j → (variations[j]?).map (·.key) ≠ some key

namespace Variation.IsLast

variable {variations : List Variation} {key : String} {i j : Nat}

theorem concat_iff (v : Variation) :
    IsLast (variations ++ [v]) key i ↔
      if key = v.key then i = variations.length else IsLast variations key i := by
  have hbeyond (j : Nat) (hj : variations.length < j) : (variations ++ [v])[j]? = none :=
    List.getElem?_eq_none (by simp; omega)
  split
  · rename_i hkey
    subst hkey
    have hend : ((variations ++ [v])[variations.length]?).map (·.key) = some v.key := by simp
    constructor
    · rintro ⟨hi, hlater⟩
      have hle : ¬variations.length < i := fun hlt => by simp [hbeyond i hlt] at hi
      have hge : ¬i < variations.length := fun hlt => hlater _ hlt hend
      omega
    · rintro rfl
      exact ⟨hend, fun j hj => by simp [hbeyond j hj]⟩
  · rename_i hkey
    have hsame (j : Nat) : ((variations ++ [v])[j]?).map (·.key) = some key ↔
        (variations[j]?).map (·.key) = some key := by
      rcases Nat.lt_trichotomy j variations.length with hj | rfl | hj
      · rw [List.getElem?_append_left hj]
      · simpa using Ne.symm hkey
      · rw [hbeyond j hj, List.getElem?_eq_none (by omega)]
    simp only [IsLast, ne_eq, hsame]

theorem lt_length (h : IsLast variations key i) : i < variations.length := by
  by_contra hle
  have hi := h.1
  simp [List.getElem?_eq_none (l := variations) (i := i) (by omega)] at hi

end Variation.IsLast

/-- From any variation with a key on there is a last one. -/
theorem Variation.exists_isLast {variations : List Variation} {key : String} (i : Nat)
    (h : (variations[i]?).map (·.key) = some key) : ∃ j, i ≤ j ∧ IsLast variations key j := by
  by_cases hlater : ∃ k, i < k ∧ (variations[k]?).map (·.key) = some key
  · obtain ⟨k, hik, hk⟩ := hlater
    have hlength : k < variations.length := by
      by_contra hle
      simp [List.getElem?_eq_none (l := variations) (i := k) (by omega)] at hk
    obtain ⟨j, hkj, hj⟩ := exists_isLast k hk
    exact ⟨j, by omega, hj⟩
  · exact ⟨i, Nat.le_refl i, h, fun j hij hj => hlater ⟨j, hij, hj⟩⟩
termination_by variations.length - i

namespace ExperimentDefinition

theorem keyMapFrom_concat (acc : List (String × Int)) (index : Nat) (variations : List Variation)
    (v : Variation) :
    keyMapFrom acc index (variations ++ [v]) =
      assign v.key ((index + variations.length : Nat) : Int)
        (keyMapFrom acc index variations) := by
  induction variations generalizing acc index with
  | nil => rfl
  | cons w rest ih =>
    rw [List.cons_append, keyMapFrom, ih, keyMapFrom, List.length_cons]
    congr 2
    omega

/-- A key is looked up as the position of the last variation that has it. -/
theorem lookup_variationKeyMap_iff (e : ExperimentDefinition) (key : String) (i : Nat) :
    e.variationKeyMap.lookup key = some (i : Int) ↔ Variation.IsLast e.variations key i := by
  unfold variationKeyMap
  -- From the right: one more variation at the end is one more key put into the map.
  induction e.variations using List.reverseRecOn with
  | nil => simp [keyMapFrom, Variation.IsLast]
  | append_singleton variations v ih =>
    rw [keyMapFrom_concat, lookup_assign, Variation.IsLast.concat_iff]
    split
    · simp only [Nat.zero_add, Option.some.injEq]
      omega
    · exact ih

/-- A text is resolved by key to the last variation whose key it is. -/
theorem resolveVariation_key_iff (e : ExperimentDefinition) (key : String)
    (i : Fin e.variations.length) :
    resolveVariation .key e.variationKeyMap e.variations.length (.text key) = some i ↔
      Variation.IsLast e.variations key i := by
  constructor
  · intro h
    obtain ⟨-, hlookup⟩ := resolveVariation_eq_some h
    exact (e.lookup_variationKeyMap_iff key i).mp hlookup
  · intro h
    have hlookup := (e.lookup_variationKeyMap_iff key i).mpr h
    simp [resolveVariation, Value.display, hlookup]

end ExperimentDefinition

/-- Each variation's own key is resolved, to the last variation that has it.  This is the variation
itself exactly if no later one repeats the key. -/
theorem ExperimentDefinition.resolveVariation_own_key (e : ExperimentDefinition)
    (i : Fin e.variations.length) :
    ∃ j, resolveVariation .key e.variationKeyMap e.variations.length
        (.text e.variations[i].key) = some j ∧
      e.variations[j].key = e.variations[i].key ∧
      (∀ k, j < k → e.variations[k].key ≠ e.variations[i].key) ∧
      (j = i ↔ ∀ k, i < k → e.variations[k].key ≠ e.variations[i].key) := by
  have hown : (e.variations[i.val]?).map (·.key) = some e.variations[i].key := by simp
  obtain ⟨j, hij, hlast⟩ := Variation.exists_isLast i.val hown
  have hj := hlast.lt_length
  have hkey : e.variations[j].key = e.variations[i].key := by
    simpa [List.getElem?_eq_getElem hj] using hlast.1
  have hlater (k : Fin e.variations.length) (hk : j < k.val) :
      e.variations[k].key ≠ e.variations[i].key := by
    simpa using hlast.2 k.val hk
  refine ⟨⟨j, hj⟩, (e.resolveVariation_key_iff _ ⟨j, hj⟩).mpr hlast, hkey, hlater, ?_⟩
  constructor
  · rintro rfl
    exact hlater
  · intro hfirst
    rcases Nat.eq_or_lt_of_le hij with heq | hlt
    · exact Fin.ext heq.symm
    · exact absurd hkey (hfirst ⟨j, hj⟩ hlt)

/-- The bare keys `1` and `"1"` both become the text of the number, so that the key of the first
variation is resolved to the second. -/
theorem ExperimentDefinition.own_key_resolves_to_other :
    ∃ e i j, ExperimentDefinition.read (.object [("id", .text "e"), ("tracking_key", .text "exp"),
        ("variations", .list [.int 1, .text "1"])]) = .ok e ∧
      resolveVariation .key e.variationKeyMap e.variations.length
        (.text e.variations[i].key) = some j ∧ j ≠ i :=
  ⟨.minimal "e" "exp" ["1", "1"], ⟨0, by decide⟩, ⟨1, by decide⟩, rfl, by decide +kernel, by decide⟩

end SplitTest
