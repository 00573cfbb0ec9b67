import Mathlib.Data.List.Nodup
import SplitTest.Assignments

/-! Lookups among the values assigned to keys.  An assignment changes what its own key has and
leaves every other key as it is; keys that are distinct stay distinct, and then a key has exactly
the value that stands beside it. -/

namespace SplitTest

section

variable {α β : Type} [DecidableEq α]

theorem lookup_cons_ite (name : α) (v : β) (rest : List (α × β)) (k : α) :
    ((name, v) :: rest).lookup k = if k = name then some v else rest.lookup k := by
  by_cases hk : k = name
  · simp [hk]
  · rw [List.lookup_cons, beq_false_of_ne hk, if_neg hk]

theorem lookup_map {γ : Type} (f : β → γ) (k : α) (l : List (α × β)) :
    (l.map (Prod.map id f)).lookup k = (l.lookup k).map f := by
  induction l with
  | nil => rfl
  | cons entry rest ih =>
    rw [List.map_cons, Prod.map, id, lookup_cons_ite, lookup_cons_ite, ih]
    split <;> rfl

theorem mem_of_lookup {k : α} {v : β} {l : List (α × β)} (h : l.lookup k = some v) :
    (k, v) ∈ l := by
  obtain ⟨before, after, rfl, -⟩ := List.lookup_eq_some_iff.mp h
  exact List.mem_append_cons_self

/-- Where keys are distinct, a key has the value that stands beside it. -/
theorem lookup_eq_some_iff_mem {k : α} {v : β} {l : List (α × β)}
    (hkeys : (l.map Prod.fst).Nodup) : l.lookup k = some v ↔ (k, v) ∈ l := by
  refine ⟨mem_of_lookup, fun hmem => ?_⟩
  obtain ⟨before, after, rfl⟩ := List.append_of_mem hmem
  refine List.lookup_eq_some_iff.mpr ⟨before, after, rfl, fun p hp => ?_⟩
  rw [List.map_append, List.nodup_append] at hkeys
  simpa using (hkeys.2.2 p.1 (List.mem_map_of_mem hp) k (by simp)).symm

/-! ### Assignments -/

variable (key : α) (v : β) (l : List (α × β))

theorem lookup_assign (k : α) :
    (assign key v l).lookup k = if k = key then some v else l.lookup k := by
  induction l with
  | nil => exact lookup_cons_ite key v [] k
  | cons entry rest ih =>
    obtain ⟨name, w⟩ := entry
    rw [assign, lookup_cons_ite]
    split
    · subst name
      rw [lookup_cons_ite]
      split <;> rfl
    · rename_i hname
      rw [lookup_cons_ite, ih]
      by_cases hk : k = name
      · simp [hk, hname]
      · simp [hk]

theorem map_fst_assign : (assign key v l).map Prod.fst =
    if key ∈ l.map Prod.fst then l.map Prod.fst else l.map Prod.fst ++ [key] := by
  induction l with
  | nil => rfl
  | cons entry rest ih =>
    obtain ⟨name, w⟩ := entry
    rw [assign]
    split
    · subst name
      simp
    · rename_i hname
      rw [List.map_cons, ih, List.map_cons]
      by_cases hmem : key ∈ rest.map Prod.fst
      · rw [if_pos hmem, if_pos (List.mem_cons_of_mem _ hmem)]
      · rw [if_neg hmem, if_neg (by simpa [Ne.symm hname] using hmem)]
        rfl

theorem mem_keys_assign {k : α} :
    k ∈ (assign key v l).map Prod.fst ↔ k = key ∨ k ∈ l.map Prod.fst := by
  rw [map_fst_assign]
  split
  · rename_i hmem
    exact ⟨.inr, fun h => h.elim (· ▸ hmem) id⟩
  · rw [List.mem_append, List.mem_singleton, or_comm]

variable {l}

theorem nodup_assign (hkeys : (l.map Prod.fst).Nodup) :
    ((assign key v l).map Prod.fst).Nodup := by
  rw [map_fst_assign]
  split
  · exact hkeys
  · rename_i hnot
    simpa using hkeys.concat hnot

theorem mem_assign (hkeys : (l.map Prod.fst).Nodup) {k : α} {w : β} :
    (k, w) ∈ assign key v l ↔ k = key ∧ w = v ∨ k ≠ key ∧ (k, w) ∈ l := by
  rw [← lookup_eq_some_iff_mem (nodup_assign key v hkeys), lookup_assign,
    ← lookup_eq_some_iff_mem hkeys]
  split
  · simp [*, eq_comm]
  · simp [*]

/-- To assign the value that a key has changes nothing. -/
theorem assign_of_lookup {key : α} {v : β} (h : l.lookup key = some v) : assign key v l = l := by
  induction l with
  | nil => cases h
  | cons entry rest ih =>
    obtain ⟨name, w⟩ := entry
    rw [lookup_cons_ite] at h
    rw [assign]
    split
    · subst name
      rw [if_pos rfl] at h
      rw [Option.some.inj h]
    · rename_i hname
      rw [if_neg (Ne.symm hname)] at h
      rw [ih h]

theorem assign_of_notMem {key : α} (h : key ∉ l.map Prod.fst) :
    assign key v l = l ++ [(key, v)] := by
  induction l with
  | nil => rfl
  | cons entry rest ih =>
    obtain ⟨hname, hrest⟩ := not_or.mp (mt List.mem_cons.mpr h)
    rw [assign, if_neg (Ne.symm hname), ih hrest, List.cons_append]

theorem assign_map {γ : Type} (f : β → γ) (l : List (α × β)) :
    assign key (f v) (l.map (Prod.map id f)) = (assign key v l).map (Prod.map id f) := by
  induction l with
  | nil => rfl
  | cons entry rest ih =>
    obtain ⟨name, w⟩ := entry
    by_cases hname : name = key
    · simp [assign, hname]
    · simp [assign, hname, ih]

end

end SplitTest
