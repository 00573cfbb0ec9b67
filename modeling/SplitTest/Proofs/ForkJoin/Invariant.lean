import Mathlib.Data.List.Nodup
import SplitTest.Proofs.ForkJoin.Schedule

/-! What holds of a batch at every step: the branches that have ended are due before all others, the
failure met is that of the first branch that fails, and time stands still from then on. -/

namespace SplitTest.ForkJoin

variable {α : Type}

/-- A branch is due before another: at an earlier time, or at the same time and started earlier. -/
def Slot.before (s x : Slot α) : Prop :=
  s.branch.ticks < x.branch.ticks ∨ s.branch.ticks = x.branch.ticks ∧ s.index < x.index

/-- What holds of the slots, depending on what the caller does. -/
def Course.CallerSound (c : Course α) : Prop :=
  match c.caller with
  | .awaiting => ∀ s ∈ c.slots, s.state ≠ .cancelled
  | .cancelling f =>
    c.failure = some f ∧ ∀ s ∈ c.slots, s.state ≠ .ended → c.now < s.branch.ticks
  | .done (.error f) =>
    c.failure = some f ∧ (∀ s ∈ c.slots, s.state ≠ .ended → c.now < s.branch.ticks) ∧
      ∀ s ∈ c.slots, s.state ≠ .waiting
  | .done (.ok vs) =>
    c.failure = none ∧ vs = values c.slots ∧ ∀ s ∈ c.slots, s.state = .ended

/-- A branch has failed at a time, and all others that fail are due later. -/
def FirstFailed (slots : List (Slot α)) (time : Nat) (f : Fault) : Prop :=
  ∃ s ∈ slots, s.state = .ended ∧ s.branch.outcome = .error f ∧ s.branch.ticks = time ∧
    ∀ x ∈ slots, x.branch.fails = true → x.index ≠ s.index → s.before x

/-- What holds of the slots and of the failure of a batch. -/
structure Sound (branches : List (Branch α)) (c : Course α) : Prop where
  slots : c.slots.map (fun s => (s.branch, s.index)) = branches.zipIdx
  past : ∀ s ∈ c.slots, s.state = .ended → s.branch.ticks ≤ c.now
  ahead : ∀ s ∈ c.slots, s.state ≠ .ended → c.now ≤ s.branch.ticks
  order : ∀ s ∈ c.slots, ∀ x ∈ c.slots, s.state = .ended → x.state ≠ .ended → s.before x
  well : c.failure = none → ∀ s ∈ c.slots, s.state = .ended → s.branch.fails = false
  failed : ∀ f, c.failure = some f → FirstFailed c.slots c.now f
  caller : c.CallerSound

namespace Sound

variable {branches : List (Branch α)} {c : Course α}

theorem indices (h : Sound branches c) : c.slots.map (·.index) = List.range branches.length := by
  have := congrArg (List.map Prod.snd) h.slots
  simpa [Function.comp_def, List.range_eq_range'] using this

/-- The slots are told apart by their positions. -/
theorem eq_of_index (h : Sound branches c) {s x : Slot α} (hs : s ∈ c.slots) (hx : x ∈ c.slots)
    (hi : s.index = x.index) : s = x := by
  have hnodup : (c.slots.map (·.index)).Nodup := h.indices ▸ List.nodup_range
  exact List.inj_on_of_nodup_map hnodup hs hx hi

theorem getElem? (h : Sound branches c) {s : Slot α} (hs : s ∈ c.slots) :
    branches[s.index]? = some s.branch := by
  have hmem : (s.branch, s.index) ∈ branches.zipIdx :=
    h.slots ▸ List.mem_map_of_mem (f := fun s : Slot α => (s.branch, s.index)) hs
  exact List.mem_zipIdx_iff_getElem?.mp hmem

theorem exists_slot (h : Sound branches c) {i : Nat} {b : Branch α} (hb : branches[i]? = some b) :
    ∃ s ∈ c.slots, s.branch = b ∧ s.index = i := by
  have hmem : (b, i) ∈ branches.zipIdx := List.mem_zipIdx_iff_getElem?.mpr hb
  rw [← h.slots] at hmem
  obtain ⟨s, hs, heq⟩ := List.mem_map.mp hmem
  exact ⟨s, hs, congrArg Prod.fst heq, congrArg Prod.snd heq⟩

/-- A slot after another has come to a state is that one or as it was. -/
theorem mem_put (h : Sound branches c) {s x : Slot α} {state : BranchState} (hs : s ∈ c.slots)
    (hx : x ∈ c.slots.map (Slot.put s.index state)) :
    x = { s with state } ∨ x ∈ c.slots ∧ x.index ≠ s.index := by
  obtain ⟨y, hy, rfl⟩ := List.mem_map.mp hx
  by_cases hi : y.index = s.index
  · obtain rfl := h.eq_of_index hy hs hi
    exact .inl (by simp [Slot.put])
  · rw [Slot.put_other hi]
    exact .inr ⟨hy, hi⟩

theorem start (branches : List (Branch α)) : Sound branches (Course.start branches) := by
  have hwaiting : ∀ s ∈ (Course.start branches).slots, s.state = .waiting := by
    intro s hs
    obtain ⟨⟨b, i⟩, _, rfl⟩ := List.mem_map.mp hs
    rfl
  constructor
  case slots => simp [Course.start, ForkJoin.start, Function.comp_def]
  case past => exact fun s hs hended => by simp [hwaiting s hs] at hended
  case ahead => exact fun s _ _ => Nat.zero_le _
  case order => exact fun s hs x _ hended _ => by simp [hwaiting s hs] at hended
  case well => exact fun _ s hs hended => by simp [hwaiting s hs] at hended
  case failed => exact fun f hf => by simp [Course.start] at hf
  case caller =>
    intro s hs hcancelled
    simp [hwaiting s hs] at hcancelled

theorem waiting_of_awaiting (h : Sound branches c) (hcaller : c.caller = .awaiting) {s : Slot α}
    (hs : s ∈ c.slots) (hstate : s.state ≠ .ended) : s.state = .waiting := by
  have hcancelled := h.caller
  simp only [Course.CallerSound, hcaller] at hcancelled
  cases hstate' : s.state with
  | waiting => rfl
  | ended => exact absurd hstate' hstate
  | cancelled => exact absurd hstate' (hcancelled s hs)

/-- When no branch is due, those that have not ended are due later. -/
theorem late_of_idle (h : Sound branches c) (hcaller : c.caller = .awaiting)
    (hidle : ∀ x ∈ c.slots, x.isDue c.now = false) {s : Slot α} (hs : s ∈ c.slots)
    (hstate : s.state ≠ .ended) : c.now < s.branch.ticks := by
  by_contra hle
  have hdue := Slot.isDue_iff.mpr ⟨h.waiting_of_awaiting hcaller hs hstate, Nat.le_of_not_lt hle⟩
  simp [hidle s hs] at hdue

/-- The first branch that is due is due before all that have not ended. -/
theorem before_of_first (h : Sound branches c) (hcaller : c.caller = .awaiting) {s x : Slot α}
    (hdue : s.isDue c.now = true)
    (hfirst : ∀ x ∈ c.slots, x.isDue c.now = true → s.index ≤ x.index) (hx : x ∈ c.slots)
    (hstate : x.state ≠ .ended) (hne : x.index ≠ s.index) : s.before x := by
  have hsticks := (Slot.isDue_iff.mp hdue).2
  have hxticks := h.ahead x hx hstate
  by_cases hlt : s.branch.ticks < x.branch.ticks
  · exact .inl hlt
  · -- Both are due now, so the first is the one that was started earlier.
    have hxdue : x.isDue c.now = true :=
      Slot.isDue_iff.mpr ⟨h.waiting_of_awaiting hcaller hx hstate, by omega⟩
    have := hfirst x hx hxdue
    exact .inr ⟨by omega, by omega⟩

/-- The first failure stays the first when another branch stops. -/
theorem failed_put (h : Sound branches c) {s : Slot α} {state : BranchState} (hs : s ∈ c.slots)
    (hstate : s.state ≠ .ended) {f : Fault} (hf : c.failure = some f) :
    FirstFailed (c.slots.map (Slot.put s.index state)) c.now f := by
  obtain ⟨t, ht, hended, hout, hnow, hmin⟩ := h.failed f hf
  have hti : t.index ≠ s.index := by
    intro hi
    rw [h.eq_of_index ht hs hi] at hended
    exact hstate hended
  refine ⟨t, ?_, hended, hout, hnow, fun x hx hfails hxi => ?_⟩
  · exact List.mem_map.mpr ⟨t, ht, Slot.put_other hti⟩
  · rcases h.mem_put hs hx with rfl | ⟨hx, _⟩
    · exact hmin s hs hfails hxi
    · exact hmin x hx hfails hxi

/-- A branch that is the first to end with a failure is the first of all that fail. -/
theorem failed_finish (h : Sound branches c) (hcaller : c.caller = .awaiting) {s : Slot α}
    (hs : s ∈ c.slots) (hdue : s.isDue c.now = true)
    (hfirst : ∀ x ∈ c.slots, x.isDue c.now = true → s.index ≤ x.index)
    (hwell : c.failure = none) {f : Fault} (hout : s.branch.outcome = .error f) :
    FirstFailed (c.slots.map (Slot.put s.index .ended)) c.now f := by
  obtain ⟨hwaits, hticks⟩ := Slot.isDue_iff.mp hdue
  have hahead := h.ahead s hs (by simp [hwaits])
  refine ⟨s.put s.index .ended, List.mem_map_of_mem hs, Slot.put_same rfl, by simpa using hout,
    ?_, fun x hx hfails hxi => ?_⟩
  · rw [Slot.put_branch]
    omega
  · rcases h.mem_put hs hx with rfl | ⟨hx, hxi⟩
    · simp at hxi
    · have hstate : x.state ≠ .ended := by
        intro hended
        simp [h.well hwell x hx hended] at hfails
      simpa [Slot.before] using h.before_of_first hcaller hdue hfirst hx hstate hxi

theorem finish (h : Sound branches c) (hcaller : c.caller = .awaiting) {s : Slot α}
    (hs : s ∈ c.slots) (hdue : s.isDue c.now = true)
    (hfirst : ∀ x ∈ c.slots, x.isDue c.now = true → s.index ≤ x.index) :
    Sound branches (c.finish s) := by
  obtain ⟨hwaits, hticks⟩ := Slot.isDue_iff.mp hdue
  have hnotEnded : s.state ≠ .ended := by simp [hwaits]
  constructor
  case slots => simpa [Course.finish, Function.comp_def] using h.slots
  case past =>
    intro x hx hended
    rcases h.mem_put hs hx with rfl | ⟨hx, _⟩
    · exact hticks
    · exact h.past x hx hended
  case ahead =>
    intro x hx hstate
    rcases h.mem_put hs hx with rfl | ⟨hx, _⟩
    · exact absurd rfl hstate
    · exact h.ahead x hx hstate
  case order =>
    intro x hx y hy hended hstate
    rcases h.mem_put hs hy with rfl | ⟨hy, hyi⟩
    · exact absurd rfl hstate
    rcases h.mem_put hs hx with rfl | ⟨hx, _⟩
    · show s.before y
      exact h.before_of_first hcaller hdue hfirst hy hstate hyi
    · exact h.order x hx y hy hended hstate
  case well =>
    intro hwell x hx hended
    obtain ⟨hwell, hsWell⟩ := Option.or_eq_none_iff.mp hwell
    rcases h.mem_put hs hx with rfl | ⟨hx, _⟩
    · exact Branch.error?_eq_none.mp hsWell
    · exact h.well hwell x hx hended
  case failed =>
    intro f hf
    cases hfailure : c.failure with
    | some g =>
      obtain rfl : g = f := by simpa [Course.finish, hfailure] using hf
      exact h.failed_put hs hnotEnded hfailure
    | none =>
      refine h.failed_finish hcaller hs hdue hfirst hfailure ?_
      rw [← Branch.error?_eq_some]
      simpa [Course.finish, hfailure] using hf
  case caller =>
    have hcancelled := h.caller
    simp only [Course.CallerSound, hcaller] at hcancelled
    simp only [Course.CallerSound, Course.finish, hcaller]
    intro x hx
    rcases h.mem_put hs hx with rfl | ⟨hx, _⟩
    · simp
    · exact hcancelled x hx

theorem cancel (h : Sound branches c) {f : Fault} (hcaller : c.caller = .cancelling f)
    {s : Slot α} (hs : s ∈ c.slots) (hwaits : s.state = .waiting) :
    Sound branches (c.cancel s) := by
  have hnotEnded : s.state ≠ .ended := by simp [hwaits]
  constructor
  case slots => simpa [Course.cancel, Function.comp_def] using h.slots
  case past =>
    intro x hx hended
    rcases h.mem_put hs hx with rfl | ⟨hx, _⟩
    · cases hended
    · exact h.past x hx hended
  case ahead =>
    intro x hx hstate
    rcases h.mem_put hs hx with rfl | ⟨hx, _⟩
    · exact h.ahead s hs hnotEnded
    · exact h.ahead x hx hstate
  case order =>
    intro x hx y hy hended hstate
    rcases h.mem_put hs hx with rfl | ⟨hx, _⟩
    · cases hended
    rcases h.mem_put hs hy with rfl | ⟨hy, _⟩
    · exact h.order x hx s hs hended hnotEnded
    · exact h.order x hx y hy hended hstate
  case well =>
    intro hwell x hx hended
    rcases h.mem_put hs hx with rfl | ⟨hx, _⟩
    · cases hended
    · exact h.well hwell x hx hended
  case failed => exact fun g hg => h.failed_put hs hnotEnded hg
  case caller =>
    have hcalled := h.caller
    simp only [Course.CallerSound, hcaller] at hcalled
    simp only [Course.CallerSound, Course.cancel, hcaller]
    refine ⟨hcalled.1, fun x hx hstate => ?_⟩
    rcases h.mem_put hs hx with rfl | ⟨hx, _⟩
    · exact hcalled.2 s hs hnotEnded
    · exact hcalled.2 x hx hstate

theorem step {later : Course α} (h : Sound branches c) (hstep : Step c later) :
    Sound branches later := by
  have hcalled := h.caller
  cases hstep with
  | finish hcaller hs hdue hfirst => exact h.finish hcaller hs hdue hfirst
  | pass hcaller hwell _ _ hidle =>
    exact {
      slots := h.slots
      past := fun s hs hended => Nat.le_succ_of_le (h.past s hs hended)
      ahead := fun s hs hstate => h.late_of_idle hcaller hidle hs hstate
      order := h.order
      well := h.well
      failed := fun f hf => by simp [hwell] at hf
      caller := by simpa [Course.CallerSound, hcaller] using hcalled }
  | wake hcaller hfailure hidle =>
    exact { h with
      caller := ⟨hfailure, fun s hs hstate => h.late_of_idle hcaller hidle hs hstate⟩ }
  | cancel hcaller hs hwaits => exact h.cancel hcaller hs hwaits
  | raise hcaller hstopped =>
    simp only [Course.CallerSound, hcaller] at hcalled
    exact { h with caller := ⟨hcalled.1, hcalled.2, hstopped⟩ }
  | give hcaller hwell hstopped =>
    refine { h with caller := ⟨hwell, rfl, fun s hs => ?_⟩ }
    by_contra hstate
    exact hstopped s hs (h.waiting_of_awaiting hcaller hs hstate)

theorem steps {later : Course α} (h : Sound branches c) (hsteps : Steps c later) :
    Sound branches later := by
  induction hsteps with
  | refl => exact h
  | tail _ hstep ih => exact ih.step hstep

end Sound

end SplitTest.ForkJoin
