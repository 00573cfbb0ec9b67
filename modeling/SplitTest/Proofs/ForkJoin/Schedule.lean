import Mathlib.Algebra.GroupWithZero.Nat
import Mathlib.Algebra.Order.BigOperators.Group.List
import Mathlib.Algebra.Order.Group.Nat
import Mathlib.Data.Nat.Find
import Mathlib.Logic.Relation
import SplitTest.ForkJoin

/-! The steps of a batch of branches.  While its caller awaits them, the first branch that is due
ends, and the clock moves on when none is due.  A failure wakes the caller once nothing more is due
at its time; the caller then cancels what still waits, in whatever order, and has its result only
when nothing waits any more.  Every execution comes to an end. -/

namespace SplitTest

namespace Branch

variable {α : Type}

/-- The failure of a branch that fails. -/
def error? (t : Branch α) : Option Fault :=
  match t.outcome with
  | .ok _ => none
  | .error f => some f

theorem error?_eq_some {t : Branch α} {f : Fault} : t.error? = some f ↔ t.outcome = .error f := by
  cases h : t.outcome <;> simp [error?, h]

theorem error?_eq_none {t : Branch α} : t.error? = none ↔ t.fails = false := by
  cases h : t.outcome <;> simp [error?, fails, h]

theorem fails_of_outcome {t : Branch α} {f : Fault} (h : t.outcome = .error f) :
    t.fails = true := by
  simp [fails, h]

end Branch

namespace ForkJoin

variable {α : Type}

/-- What happens to a batch. -/
inductive Event (α : Type)
  /-- A branch ends on its own. -/
  | ended (branch : BranchEnd)
  /-- A branch stops because it is cancelled. -/
  | cancelled (index : Nat)
  /-- The caller has its result. -/
  | answered (result : Except Fault (List α))

/-- What the caller of a batch does. -/
inductive Caller (α : Type)
  | awaiting
  /-- The caller has met a failure and cancels what still waits. -/
  | cancelling (failure : Fault)
  | done (result : Except Fault (List α))

/-- A batch in the course of time. -/
structure Course (α : Type) where
  now : Nat
  slots : List (Slot α)
  /-- The first failure so far. -/
  failure : Option Fault
  caller : Caller α
  /-- What has happened so far, in order. -/
  trace : List (Event α)

theorem Slot.isDue_iff {s : Slot α} {time : Nat} :
    s.isDue time = true ↔ s.state = .waiting ∧ s.branch.ticks ≤ time := by
  simp [Slot.isDue]

/-- A slot when the branch at a position has come to a state. -/
def Slot.put (index : Nat) (state : BranchState) (s : Slot α) : Slot α :=
  if s.index = index then { s with state } else s

@[simp] theorem Slot.put_branch (index : Nat) (state : BranchState) (s : Slot α) :
    (s.put index state).branch = s.branch := by
  unfold Slot.put
  split <;> rfl

@[simp] theorem Slot.put_index (index : Nat) (state : BranchState) (s : Slot α) :
    (s.put index state).index = s.index := by
  unfold Slot.put
  split <;> rfl

theorem Slot.put_same {index : Nat} {state : BranchState} {s : Slot α} (h : s.index = index) :
    (s.put index state).state = state := by
  simp [Slot.put, h]

theorem Slot.put_other {index : Nat} {state : BranchState} {s : Slot α} (h : s.index ≠ index) :
    s.put index state = s := by
  simp [Slot.put, h]

namespace Course

/-- The beginning of a batch. -/
def start (branches : List (Branch α)) : Course α :=
  { now := 0, slots := (ForkJoin.start branches).slots, failure := none, caller := .awaiting
    trace := [] }

/-- A branch ends; its failure counts if it is the first. -/
def finish (c : Course α) (s : Slot α) : Course α :=
  { c with
    slots := c.slots.map (Slot.put s.index .ended)
    failure := c.failure.or s.branch.error?
    trace := c.trace ++ [.ended ⟨s.index, s.branch.fails⟩] }

/-- A branch stops because it is cancelled. -/
def cancel (c : Course α) (s : Slot α) : Course α :=
  { c with
    slots := c.slots.map (Slot.put s.index .cancelled)
    trace := c.trace ++ [.cancelled s.index] }

/-- The caller has its result. -/
def answer (c : Course α) (result : Except Fault (List α)) : Course α :=
  { c with caller := .done result, trace := c.trace ++ [.answered result] }

end Course

inductive Step : Course α → Course α → Prop
  | finish {c : Course α} {s : Slot α} (hcaller : c.caller = .awaiting) (hs : s ∈ c.slots)
      (hdue : s.isDue c.now = true)
      (hfirst : ∀ x ∈ c.slots, x.isDue c.now = true → s.index ≤ x.index) :
      Step c (c.finish s)
  | pass {c : Course α} {s : Slot α} (hcaller : c.caller = .awaiting) (hwell : c.failure = none)
      (hs : s ∈ c.slots) (hwaits : s.state = .waiting)
      (hidle : ∀ x ∈ c.slots, x.isDue c.now = false) :
      Step c { c with now := c.now + 1 }
  | wake {c : Course α} {f : Fault} (hcaller : c.caller = .awaiting) (hfailure : c.failure = some f)
      (hidle : ∀ x ∈ c.slots, x.isDue c.now = false) :
      Step c { c with caller := .cancelling f }
  | cancel {c : Course α} {f : Fault} {s : Slot α} (hcaller : c.caller = .cancelling f)
      (hs : s ∈ c.slots) (hwaits : s.state = .waiting) :
      Step c (c.cancel s)
  | raise {c : Course α} {f : Fault} (hcaller : c.caller = .cancelling f)
      (hstopped : ∀ x ∈ c.slots, x.state ≠ .waiting) :
      Step c (c.answer (.error f))
  | give {c : Course α} (hcaller : c.caller = .awaiting) (hwell : c.failure = none)
      (hstopped : ∀ x ∈ c.slots, x.state ≠ .waiting) :
      Step c (c.answer (.ok (values c.slots)))

/-- The reflexive and transitive closure of the steps. -/
abbrev Steps : Course α → Course α → Prop := Relation.ReflTransGen Step

/-- Among the slots that satisfy a condition one is the first. -/
theorem exists_first {slots : List (Slot α)} {p : Slot α → Bool} (h : ∃ s ∈ slots, p s = true) :
    ∃ s ∈ slots, p s = true ∧ ∀ x ∈ slots, p x = true → s.index ≤ x.index := by
  classical
  have hindex : ∃ i, ∃ s ∈ slots, p s = true ∧ s.index = i := by
    obtain ⟨s, hs, hp⟩ := h
    exact ⟨s.index, s, hs, hp, rfl⟩
  obtain ⟨s, hs, hp, hi⟩ := Nat.find_spec hindex
  refine ⟨s, hs, hp, fun x hx hpx => ?_⟩
  rw [hi]
  exact Nat.find_min' hindex ⟨x, hx, hpx, rfl⟩

/-- A batch whose caller has no result yet has a next step. -/
theorem exists_step (c : Course α) (h : ∀ r, c.caller ≠ .done r) : ∃ later, Step c later := by
  cases hcaller : c.caller with
  | done r => exact absurd hcaller (h r)
  | cancelling f =>
    by_cases hwaits : ∃ s ∈ c.slots, s.state = .waiting
    · obtain ⟨s, hs, hwaits⟩ := hwaits
      exact ⟨_, .cancel hcaller hs hwaits⟩
    · exact ⟨_, .raise hcaller fun x hx hx' => hwaits ⟨x, hx, hx'⟩⟩
  | awaiting =>
    by_cases hdue : ∃ s ∈ c.slots, s.isDue c.now = true
    · obtain ⟨s, hs, hdue, hfirst⟩ := exists_first hdue
      exact ⟨_, .finish hcaller hs hdue hfirst⟩
    have hidle : ∀ x ∈ c.slots, x.isDue c.now = false := by
      intro x hx
      exact Bool.eq_false_iff.mpr fun hx' => hdue ⟨x, hx, hx'⟩
    cases hfailure : c.failure with
    | some f => exact ⟨_, .wake hcaller hfailure hidle⟩
    | none =>
      by_cases hwaits : ∃ s ∈ c.slots, s.state = .waiting
      · obtain ⟨s, hs, hwaits⟩ := hwaits
        exact ⟨_, .pass hcaller hfailure hs hwaits hidle⟩
      · exact ⟨_, .give hcaller hfailure fun x hx hx' => hwaits ⟨x, hx, hx'⟩⟩

/-! ### Executions end -/

/-- The number of slots that wait. -/
def waitingCount (slots : List (Slot α)) : Nat :=
  slots.countP (·.state = .waiting)

/-- A time by which every branch is due. -/
def horizon (slots : List (Slot α)) : Nat :=
  (slots.map (·.branch.ticks)).sum

theorem le_horizon {slots : List (Slot α)} {s : Slot α} (h : s ∈ slots) :
    s.branch.ticks ≤ horizon slots :=
  List.single_le_sum (fun _ _ => Nat.zero_le _) _ (List.mem_map_of_mem h)

@[simp] theorem horizon_put (index : Nat) (state : BranchState) (slots : List (Slot α)) :
    horizon (slots.map (Slot.put index state)) = horizon slots := by
  simp [horizon, Function.comp_def]

/-- When a branch that waits stops and none begins to wait, fewer wait. -/
theorem waitingCount_map_lt {slots : List (Slot α)} {g : Slot α → Slot α} {s : Slot α}
    (hg : ∀ x : Slot α, (g x).state = .waiting → x.state = .waiting) (hs : s ∈ slots)
    (hwaits : s.state = .waiting) (hstops : (g s).state ≠ .waiting) :
    waitingCount (slots.map g) < waitingCount slots := by
  have hle : ∀ rest : List (Slot α), waitingCount (rest.map g) ≤ waitingCount rest := by
    intro rest
    rw [waitingCount, waitingCount, List.countP_map]
    exact List.countP_mono_left fun x _ hx => by simpa using hg x (by simpa using hx)
  obtain ⟨before, after, rfl⟩ := List.append_of_mem hs
  have hbefore := hle before
  have hafter := hle after
  simp only [waitingCount, List.map_append, List.map_cons, List.countP_append, List.countP_cons,
    decide_eq_true_eq, hstops, hwaits, if_true, if_false] at hbefore hafter ⊢
  omega

theorem waitingCount_put_lt {slots : List (Slot α)} {s : Slot α} (hs : s ∈ slots)
    (hwaits : s.state = .waiting) {state : BranchState} (hstate : state ≠ .waiting) :
    waitingCount (slots.map (Slot.put s.index state)) < waitingCount slots := by
  refine waitingCount_map_lt (fun x hx => ?_) hs hwaits (by simpa [Slot.put_same] using hstate)
  by_cases hi : x.index = s.index
  · exact absurd ((Slot.put_same hi).symm.trans hx) hstate
  · rwa [Slot.put_other hi] at hx

/-- How far the caller is from its result. -/
def Caller.distance : Caller α → Nat
  | .awaiting => 2
  | .cancelling _ => 1
  | .done _ => 0

/-- A bound on the steps to come. -/
def Course.remaining (c : Course α) : Nat :=
  (horizon c.slots - c.now) + waitingCount c.slots + c.caller.distance

theorem Step.remaining_lt {c later : Course α} (h : Step c later) :
    later.remaining < c.remaining := by
  cases h with
  | @finish s _ hs hdue _ =>
    have hended : BranchState.ended ≠ .waiting := by decide
    have := waitingCount_put_lt hs (Slot.isDue_iff.mp hdue).1 hended
    simp only [Course.remaining, Course.finish, horizon_put]
    omega
  | @pass s hcaller hwell hs hwaits hidle =>
    have hlate : ¬ s.branch.ticks ≤ c.now := by
      intro hle
      have := Slot.isDue_iff.mpr ⟨hwaits, hle⟩
      simp [hidle s hs] at this
    have := le_horizon hs
    simp only [Course.remaining]
    omega
  | wake hcaller _ _ => simp [Course.remaining, hcaller, Caller.distance]
  | @cancel _ s _ hs hwaits =>
    have hcancelled : BranchState.cancelled ≠ .waiting := by decide
    have := waitingCount_put_lt hs hwaits hcancelled
    simp only [Course.remaining, Course.cancel, horizon_put]
    omega
  | raise hcaller _ => simp [Course.remaining, Course.answer, hcaller, Caller.distance]
  | give hcaller _ _ => simp [Course.remaining, Course.answer, hcaller, Caller.distance]

/-- No execution goes on for ever. -/
theorem acc_step (c : Course α) : Acc (fun later c => Step c later) c :=
  (Subrelation.wf Step.remaining_lt (measure Course.remaining).wf).apply c

/-- Every execution can be carried on until the caller has its result. -/
theorem exists_done (c : Course α) : ∃ later r, Steps c later ∧ later.caller = .done r := by
  induction acc_step c with
  | intro c _ ih =>
    by_cases hdone : ∃ r, c.caller = .done r
    · obtain ⟨r, hr⟩ := hdone
      exact ⟨c, r, .refl, hr⟩
    · obtain ⟨next, hstep⟩ := exists_step c fun r hr => hdone ⟨r, hr⟩
      obtain ⟨later, r, hsteps, hr⟩ := ih next hstep
      exact ⟨later, r, .head hstep hsteps, hr⟩

end ForkJoin

end SplitTest
