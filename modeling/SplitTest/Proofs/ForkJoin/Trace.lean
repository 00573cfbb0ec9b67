import SplitTest.Proofs.ForkJoin.Invariant

/-! What the trace of a batch shows.  It has one event for each branch that has stopped and none for
the others, the ends of branches stand in the order in which they are due, and the caller's result
comes last. -/

namespace SplitTest.ForkJoin

variable {α : Type}

def Event.about? : Event α → Option Nat
  | .ended e => some e.index
  | .cancelled i => some i
  | .answered _ => none

/-- The end of a branch, where the event is one. -/
def Event.ended? : Event α → Option BranchEnd
  | .ended e => some e
  | _ => none

/-- The events about a branch. -/
def eventsOf (trace : List (Event α)) (i : Nat) : List (Event α) :=
  trace.filter (·.about? = some i)

/-- The branches that end on their own, in order. -/
def endsOf (trace : List (Event α)) : List BranchEnd :=
  trace.filterMap Event.ended?

/-- What has happened to the branch of a slot. -/
def Slot.events (s : Slot α) : List (Event α) :=
  match s.state with
  | .waiting => []
  | .ended => [.ended ⟨s.index, s.branch.fails⟩]
  | .cancelled => [.cancelled s.index]

/-- The branch at a position is due before the one at another. -/
def DueBefore (branches : List (Branch α)) (i j : Nat) : Prop :=
  ∃ b b', branches[i]? = some b ∧ branches[j]? = some b' ∧
    (b.ticks < b'.ticks ∨ b.ticks = b'.ticks ∧ i < j)

/-- The events of a caller that has its result. -/
def Caller.answers : Caller α → List (Event α)
  | .done r => [.answered r]
  | _ => []

/-- What holds of the trace of a batch. -/
structure Recorded (branches : List (Branch α)) (c : Course α) : Prop where
  events : ∀ s ∈ c.slots, eventsOf c.trace s.index = s.events
  known : ∀ e ∈ c.trace, ∀ i, e.about? = some i → i < branches.length
  sorted : (endsOf c.trace).Pairwise fun e e' =>
    DueBefore branches e.index e'.index
  last : ∃ before, (∀ e ∈ before, e.about?.isSome = true) ∧ c.trace = before ++ c.caller.answers

theorem eventsOf_concat_same {trace : List (Event α)} {e : Event α} {i : Nat}
    (h : e.about? = some i) : eventsOf (trace ++ [e]) i = eventsOf trace i ++ [e] := by
  simp [eventsOf, h]

theorem eventsOf_concat_other {trace : List (Event α)} {e : Event α} {i : Nat}
    (h : e.about? ≠ some i) : eventsOf (trace ++ [e]) i = eventsOf trace i := by
  simp [eventsOf, h]

theorem endsOf_concat_ended (trace : List (Event α)) (b : BranchEnd) :
    endsOf (trace ++ [.ended b]) = endsOf trace ++ [b] := by
  simp [endsOf, Event.ended?]

theorem endsOf_concat_other {trace : List (Event α)} {e : Event α} (h : e.ended? = none) :
    endsOf (trace ++ [e]) = endsOf trace := by
  simp [endsOf, h]

theorem Event.about?_of_ended? {e : Event α} {b : BranchEnd} (h : e.ended? = some b) :
    e = .ended b ∧ e.about? = some b.index := by
  cases e with
  | ended b' =>
    obtain rfl : b' = b := by simpa [Event.ended?] using h
    exact ⟨rfl, rfl⟩
  | cancelled i => simp [Event.ended?] at h
  | answered r => simp [Event.ended?] at h

theorem DueBefore.irrefl {branches : List (Branch α)} {i : Nat} : ¬ DueBefore branches i i := by
  rintro ⟨b, b', hb, hb', hlt⟩
  obtain rfl : b = b' := Option.some.inj (hb.symm.trans hb')
  omega

theorem DueBefore.asymm {branches : List (Branch α)} {i j : Nat} (h : DueBefore branches i j) :
    ¬ DueBefore branches j i := by
  obtain ⟨b, b', hb, hb', hlt⟩ := h
  rintro ⟨c', c, hc', hc, hlt'⟩
  obtain rfl : b = c := Option.some.inj (hb.symm.trans hc)
  obtain rfl : b' = c' := Option.some.inj (hb'.symm.trans hc')
  omega

namespace Recorded

variable {branches : List (Branch α)} {c : Course α}

theorem start (branches : List (Branch α)) : Recorded branches (Course.start branches) where
  events := by
    intro s hs
    obtain ⟨⟨b, i⟩, _, rfl⟩ := List.mem_map.mp hs
    rfl
  known := fun e he => by simp [Course.start] at he
  sorted := .nil
  last := ⟨[], by simp, rfl⟩

/-- An end in the trace is that of a branch that has ended. -/
theorem ended_of_mem (h : Recorded branches c) (hc : Sound branches c) {b : BranchEnd}
    (hb : b ∈ endsOf c.trace) :
    ∃ s ∈ c.slots, s.state = .ended ∧ b = ⟨s.index, s.branch.fails⟩ := by
  obtain ⟨e, he, hended⟩ := List.mem_filterMap.mp hb
  obtain ⟨rfl, habout⟩ := Event.about?_of_ended? hended
  obtain ⟨s, hs, _, hi⟩ :=
    hc.exists_slot (List.getElem?_eq_getElem (h.known _ he b.index habout))
  have hmem : Event.ended b ∈ s.events := by
    rw [← h.events s hs, hi]
    exact List.mem_filter.mpr ⟨he, by simp [habout]⟩
  refine ⟨s, hs, ?_⟩
  cases hstate : s.state <;> simp [Slot.events, hstate] at hmem
  exact ⟨rfl, hmem⟩

/-- A branch that waits comes to a state, and an event tells so. -/
theorem put (h : Recorded branches c) (hc : Sound branches c) {s : Slot α} {state : BranchState}
    {failure : Option Fault} {e : Event α} (hs : s ∈ c.slots) (hwaits : s.state = .waiting)
    (hcaller : c.caller.answers = []) (habout : e.about? = some s.index)
    (he : ({ s with state } : Slot α).events = [e])
    (hsorted : (endsOf (c.trace ++ [e])).Pairwise fun e e' =>
      DueBefore branches e.index e'.index) :
    Recorded branches { c with
      slots := c.slots.map (Slot.put s.index state), failure, trace := c.trace ++ [e] } where
  events := by
    intro x hx
    rcases hc.mem_put hs hx with rfl | ⟨hx, hi⟩
    · rw [eventsOf_concat_same habout, h.events s hs, he]
      simp [Slot.events, hwaits]
    · rw [eventsOf_concat_other (by rw [habout]; simpa using Ne.symm hi)]
      exact h.events x hx
  known := by
    intro e' he' i hi
    rcases List.mem_append.mp he' with he' | he'
    · exact h.known e' he' i hi
    · obtain rfl := List.mem_singleton.mp he'
      obtain rfl : s.index = i := by simpa [habout] using hi
      exact (List.getElem?_eq_some_iff.mp (hc.getElem? hs)).1
  sorted := hsorted
  last := by
    obtain ⟨before, hbefore, htrace⟩ := h.last
    rw [hcaller, List.append_nil] at htrace
    refine ⟨before ++ [e], fun e' he' => ?_, by simp [hcaller, htrace]⟩
    rcases List.mem_append.mp he' with he' | he'
    · exact hbefore e' he'
    · simp [List.mem_singleton.mp he', habout]

theorem answer (h : Recorded branches c) (hcaller : c.caller.answers = [])
    (r : Except Fault (List α)) : Recorded branches (c.answer r) where
  events := fun s hs => by
    rw [Course.answer, eventsOf_concat_other (by simp [Event.about?])]
    exact h.events s hs
  known := by
    intro e he i hi
    rcases List.mem_append.mp he with he | he
    · exact h.known e he i hi
    · simp [List.mem_singleton.mp he, Event.about?] at hi
  sorted := by
    rw [Course.answer, endsOf_concat_other rfl]
    exact h.sorted
  last := by
    obtain ⟨before, hbefore, htrace⟩ := h.last
    rw [hcaller, List.append_nil] at htrace
    exact ⟨before, hbefore, by simp [Course.answer, Caller.answers, htrace]⟩

theorem finish (h : Recorded branches c) (hc : Sound branches c) (hcaller : c.caller = .awaiting)
    {s : Slot α} (hs : s ∈ c.slots) (hdue : s.isDue c.now = true) :
    Recorded branches (c.finish s) := by
  have hwaits := (Slot.isDue_iff.mp hdue).1
  refine h.put hc hs hwaits (by simp [hcaller, Caller.answers]) rfl rfl ?_
  rw [endsOf_concat_ended, List.pairwise_append]
  refine ⟨h.sorted, List.pairwise_singleton _ _, fun b hb b' hb' => ?_⟩
  obtain ⟨x, hx, hended, rfl⟩ := h.ended_of_mem hc hb
  obtain rfl := List.mem_singleton.mp hb'
  exact ⟨x.branch, s.branch, hc.getElem? hx, hc.getElem? hs,
    hc.order x hx s hs hended (by simp [hwaits])⟩

theorem step {later : Course α} (h : Recorded branches c) (hc : Sound branches c)
    (hstep : Step c later) : Recorded branches later := by
  cases hstep with
  | finish hcaller hs hdue _ => exact h.finish hc hcaller hs hdue
  | pass hcaller _ _ _ _ => exact { h with }
  | wake hcaller _ _ =>
    exact { h with last := by simpa [Caller.answers, hcaller] using h.last }
  | cancel hcaller hs hwaits =>
    refine h.put hc hs hwaits (by simp [hcaller, Caller.answers]) rfl rfl ?_
    rw [endsOf_concat_other rfl]
    exact h.sorted
  | raise hcaller _ => exact h.answer (by simp [hcaller, Caller.answers]) _
  | give hcaller _ _ => exact h.answer (by simp [hcaller, Caller.answers]) _

theorem steps {later : Course α} (h : Recorded branches c) (hc : Sound branches c)
    (hsteps : Steps c later) : Recorded branches later := by
  induction hsteps with
  | refl => exact h
  | tail hsteps hstep ih => exact ih.step (hc.steps hsteps) hstep

end Recorded

end SplitTest.ForkJoin
