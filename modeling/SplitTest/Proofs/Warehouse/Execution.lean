import SplitTest.Proofs.Warehouse.Life

/-! Calls of a connection.  A batch opens a cursor for each of its queries; then all calls that are
on their way, of whatever batch, take their steps in any order.  A call is cancelled only after
another one of its batch has failed. -/

namespace SplitTest.Warehouse

open Relation (ReflTransGen)

/-- A call whose caller has ended with a fault. -/
def Life.HasFailed (l : Life) : Prop := ∃ ending f, l.caller = .ended ending (.fault f)

/-- A call of the same batch has failed. -/
def SiblingFailed (lives : List Life) (l : Life) : Prop :=
  ∃ other ∈ lives, other.batch = l.batch ∧ other.HasFailed

/-- The calls of a batch that has just begun. -/
def opened (t : Timeout) (first : Nat) (queries : List Query) : List Life :=
  queries.zipIdx.map fun (q, i) => Life.begin t first q i

/-- The calls of a connection at some time. -/
inductive Execution : List Life → Prop
  | nothing : Execution []
  | run {lives : List Life} (h : Execution lives) (t : Timeout) (queries : List Query) :
      Execution (lives ++ opened t lives.length queries)
  | step {lives : List Life} {i : Nat} {l l' : Life} (h : Execution lives)
      (hl : lives[i]? = some l) (hstep : l.Step (SiblingFailed lives l) l') :
      Execution (lives.set i l')

theorem getElem?_opened {t : Timeout} {first i : Nat} {queries : List Query} {l : Life}
    (h : (opened t first queries)[i]? = some l) : ∃ q, l = Life.begin t first q i := by
  simp only [opened, List.getElem?_map, List.getElem?_zipIdx, Option.map_eq_some_iff] at h
  obtain ⟨_, ⟨q, -, rfl⟩, rfl⟩ := h
  exact ⟨q, by simp⟩

/-- At any time each call has a cursor of its own, and is sound. -/
theorem Execution.sound {lives : List Life} (h : Execution lives) :
    ∀ (i : Nat) (l : Life), lives[i]? = some l → l.cursor = i ∧ l.Sound := by
  induction h with
  | nothing => exact fun i l hl => by simp at hl
  | @run lives _ t queries ih =>
    intro i l hl
    rw [List.getElem?_append] at hl
    split at hl
    · exact ih i l hl
    · obtain ⟨q, rfl⟩ := getElem?_opened hl
      refine ⟨?_, .begin t _ q _⟩
      show lives.length + (i - lives.length) = i
      omega
  | @step lives j l l' _ hl hstep ih =>
    intro i l'' hl''
    obtain ⟨hcursor, hsound⟩ := ih j l hl
    rw [List.getElem?_set] at hl''
    split at hl''
    · rename_i hij
      subst hij
      split at hl''
      · obtain rfl := Option.some.inj hl''
        exact ⟨hstep.kept.1.trans hcursor, hsound.step hstep⟩
      · cases hl''
    · exact ih i l'' hl''

theorem Life.HasFailed.step {p : Prop} {l l' : Life} (h : l.HasFailed) (hstep : l.Step p l') :
    l'.HasFailed := by
  obtain ⟨ending, f, hcaller⟩ := h
  exact ⟨ending, f, hstep.caller_of_ended hcaller⟩

/-- A sibling that has failed stays one when a call takes a step. -/
theorem SiblingFailed.set {lives : List Life} {x l l' : Life} {p : Prop} {i : Nat}
    (h : SiblingFailed lives x) (hl : lives[i]? = some l) (hstep : l.Step p l') :
    SiblingFailed (lives.set i l') x := by
  obtain ⟨other, hother, hbatch, hfailed⟩ := h
  obtain ⟨j, hj⟩ := List.mem_iff_getElem?.mp hother
  by_cases hij : i = j
  · subst hij
    obtain rfl := Option.some.inj (hl.symm.trans hj)
    have hi : i < lives.length := (List.getElem?_eq_some_iff.mp hl).1
    exact ⟨l', List.mem_set hi l', hstep.kept.2.trans hbatch, hfailed.step hstep⟩
  · refine ⟨other, List.mem_iff_getElem?.mpr ⟨j, ?_⟩, hbatch, hfailed⟩
    rw [List.getElem?_set_ne hij]
    exact hj

theorem Life.Step.siblingFailed {p : Prop} {l l' : Life} (h : l.Step p l')
    (hcancelled : l'.ending = .cancelled) : l.ending = .cancelled ∨ p := by
  cases h with
  | start => exact .inl hcancelled
  | stop => exact .inl hcancelled
  | answer => cases hcancelled
  | expire => cases hcancelled
  | cancel hfailed => exact .inr hfailed

/-- A call is cancelled only if another one of its batch has failed. -/
theorem Execution.siblingFailed {lives : List Life} (h : Execution lives) :
    ∀ l ∈ lives, l.ending = .cancelled → SiblingFailed lives l := by
  induction h with
  | nothing => exact List.forall_mem_nil _
  | @run lives _ t queries ih =>
    intro l hl hcancelled
    rcases List.mem_append.mp hl with hl | hl
    · obtain ⟨other, hother, hfailed⟩ := ih l hl hcancelled
      exact ⟨other, List.mem_append_left _ hother, hfailed⟩
    · obtain ⟨i, hi⟩ := List.mem_iff_getElem?.mp hl
      obtain ⟨q, rfl⟩ := getElem?_opened hi
      cases hcancelled
  | @step lives i l l' h hl hstep ih =>
    intro x hx hcancelled
    rcases List.mem_or_eq_of_mem_set hx with hx | rfl
    · exact (ih x hx hcancelled).set hl hstep
    · have hfailed : SiblingFailed lives l :=
        (hstep.siblingFailed hcancelled).elim (ih l (List.mem_of_getElem? hl)) id
      obtain ⟨other, hother, hbatch, hfailed⟩ := hfailed.set hl hstep
      exact ⟨other, hother, hbatch.trans hstep.kept.2.symm, hfailed⟩

/-! ### Steps of the calls of a batch -/

theorem Life.Step.imp {p q : Prop} (hpq : p → q) {l l' : Life} (h : l.Step p l') :
    l.Step q l' := by
  cases h with
  | start hworker hwaits htime => exact .start hworker hwaits htime
  | stop hworker hends => exact .stop hworker hends
  | answer hworker hwaits hanswer => exact .answer hworker hwaits hanswer
  | expire hwaits htime hreply => exact .expire hwaits htime hreply
  | cancel hfailed hwaits hreply => exact .cancel (hpq hfailed) hwaits hreply

/-- A call among others takes several steps. -/
theorem Execution.steps_at {before rest : List Life} {p : Prop} {l l' : Life}
    (h : Execution (before ++ l :: rest)) (hsteps : ReflTransGen (Life.Step p) l l')
    (hp : p → ∃ other ∈ before ++ rest, other.batch = l.batch ∧ other.HasFailed) :
    Execution (before ++ l' :: rest) ∧ l'.batch = l.batch := by
  induction hsteps with
  | refl => exact ⟨h, rfl⟩
  | @tail x y _ hstep ih =>
    obtain ⟨hx, hbatch⟩ := ih
    have hsibling : p → SiblingFailed (before ++ x :: rest) x := by
      intro hfailed
      obtain ⟨other, hother, hsame, hfailed⟩ := hp hfailed
      refine ⟨other, ?_, hsame.trans hbatch.symm, hfailed⟩
      exact (List.mem_append.mp hother).elim (List.mem_append_left _) fun hrest =>
        List.mem_append_right _ (List.mem_cons_of_mem x hrest)
    have hnext := hx.step (i := before.length) (by simp) (hstep.imp hsibling)
    rw [List.set_append_right _ _ (Nat.le_refl _), Nat.sub_self, List.set_cons_zero] at hnext
    exact ⟨hnext, hstep.kept.2.trans hbatch⟩

/-- Calls take several steps one after the other, next to one that has failed if they need it. -/
theorem Execution.map_steps {α : Type} {p : Prop} {f g : α → Life} {xs : List α}
    {before : List Life} (h : Execution (before ++ xs.map f))
    (hsteps : ∀ x ∈ xs, ReflTransGen (Life.Step p) (f x) (g x))
    (hp : p → ∃ other : Life, other.HasFailed ∧ (∀ x ∈ xs, (f x).batch = other.batch) ∧
      (other ∈ before ∨ ∃ x ∈ xs, f x = other ∧ g x = other)) :
    Execution (before ++ xs.map g) := by
  induction xs generalizing before with
  | nil => exact h
  | cons x rest ih =>
    obtain ⟨hx, hrest⟩ := List.forall_mem_cons.mp hsteps
    rw [List.map_cons] at h
    have hnext : Execution (before ++ g x :: rest.map f) := by
      by_cases hsame : f x = g x
      · rwa [← hsame]
      · refine (h.steps_at hx fun hfailed => ?_).1
        obtain ⟨other, hother, hbatch, hmem⟩ := hp hfailed
        refine ⟨other, ?_, (hbatch x List.mem_cons_self).symm, hother⟩
        rcases hmem with hmem | ⟨y, hy, hfy, hgy⟩
        · exact List.mem_append_left _ hmem
        · rcases List.mem_cons.mp hy with rfl | hy
          · exact absurd (hfy.trans hgy.symm) hsame
          · exact List.mem_append_right _ (hfy ▸ List.mem_map_of_mem hy)
    rw [List.append_cons] at hnext
    rw [List.map_cons, List.append_cons]
    refine ih hnext hrest fun hfailed => ?_
    obtain ⟨other, hother, hbatch, hmem⟩ := hp hfailed
    refine ⟨other, hother, fun y hy => hbatch y (List.mem_cons_of_mem x hy), ?_⟩
    rcases hmem with hmem | ⟨y, hy, hfy, hgy⟩
    · exact .inl (List.mem_append_left _ hmem)
    · rcases List.mem_cons.mp hy with rfl | hy
      · exact .inl (List.mem_append_right _ (List.mem_singleton.mpr hgy.symm))
      · exact .inr ⟨y, hy, hfy, hgy⟩

end SplitTest.Warehouse
