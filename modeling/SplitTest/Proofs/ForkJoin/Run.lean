import SplitTest.Proofs.ForkJoin.Law

/-! The run of a batch is one of its executions.  From one time at which branches are due to the
next it takes as many steps as it needs; as many times as there are branches are enough. -/

namespace SplitTest.ForkJoin

variable {α : Type}

/-- A slot of which a condition holds comes to a state. -/
def Slot.settle (p : Slot α → Bool) (state : BranchState) (s : Slot α) : Slot α :=
  if p s then { s with state } else s

theorem Slot.pass_eq (time : Nat) :
    (Slot.pass time : Slot α → Slot α) = Slot.settle (·.isDue time) .ended := rfl

theorem Slot.cancel_eq :
    (Slot.cancel : Slot α → Slot α) =
      Slot.settle (fun s => decide (s.state = .waiting)) .cancelled := by
  funext s
  simp [Slot.cancel, Slot.settle]

theorem Slot.state_cancel (s : Slot α) : s.cancel.state ≠ .waiting := by
  unfold Slot.cancel
  split <;> simp_all

theorem Slot.waiting_of_pass {time : Nat} {s : Slot α} (h : (s.pass time).state = .waiting) :
    s.state = .waiting ∧ ¬ s.isDue time = true := by
  unfold Slot.pass at h
  split at h
  · simp at h
  · exact ⟨h, ‹_›⟩

theorem Sound.pairwise_index {branches : List (Branch α)} {c : Course α} (h : Sound branches c) :
    c.slots.Pairwise fun s x => s.index < x.index :=
  List.pairwise_map.mp (h.indices ▸ List.pairwise_lt_range)

section Settle

variable {slots rest : List (Slot α)} {s : Slot α} {p : Slot α → Bool} {state : BranchState}

theorem map_settle_of_none (h : slots.filter p = []) :
    slots.map (Slot.settle p state) = slots := by
  have hnone : ∀ x ∈ slots, Slot.settle p state x = id x := by
    intro x hx
    simp [Slot.settle, List.filter_eq_nil_iff.mp h x hx]
  rw [List.map_congr_left hnone, List.map_id]

theorem mem_of_filter_eq_cons (h : slots.filter p = s :: rest) : s ∈ slots ∧ p s = true :=
  List.mem_filter.mp (h ▸ List.mem_cons_self)

theorem map_put_of_lt (h : ∀ x ∈ slots, s.index < x.index) :
    slots.map (Slot.put s.index state) = slots := by
  have hother : ∀ x ∈ slots, Slot.put s.index state x = id x := by
    intro x hx
    exact Slot.put_other (Nat.ne_of_gt (h x hx))
  rw [List.map_congr_left hother, List.map_id]

/-- After the first slot of which a condition holds has come to a state, the others are left. -/
theorem filter_put (hsorted : slots.Pairwise fun s x => s.index < x.index)
    (hfilter : slots.filter p = s :: rest) (hstate : p { s with state } = false) :
    (slots.map (Slot.put s.index state)).filter p = rest := by
  induction slots with
  | nil => simp at hfilter
  | cons x slots ih =>
    obtain ⟨hlt, hsorted⟩ := List.pairwise_cons.mp hsorted
    by_cases hx : p x = true
    · rw [List.filter_cons_of_pos hx] at hfilter
      obtain ⟨rfl, rfl⟩ := List.cons.inj hfilter
      have hput : x.put x.index state = { x with state } := by simp [Slot.put]
      rw [List.map_cons, map_put_of_lt hlt, hput, List.filter_cons_of_neg (by simp [hstate])]
    · rw [List.filter_cons_of_neg hx] at hfilter
      have hi : x.index ≠ s.index := Nat.ne_of_lt (hlt s (mem_of_filter_eq_cons hfilter).1)
      rw [List.map_cons, Slot.put_other hi, List.filter_cons_of_neg hx, ih hsorted hfilter]

theorem map_settle_put (hsorted : slots.Pairwise fun s x => s.index < x.index) (hs : s ∈ slots)
    (hp : p s = true) (hstate : p { s with state } = false) :
    (slots.map (Slot.put s.index state)).map (Slot.settle p state) =
      slots.map (Slot.settle p state) := by
  rw [List.map_map]
  refine List.map_congr_left fun x hx => ?_
  by_cases hi : x.index = s.index
  · have hnodup : (slots.map (·.index)).Nodup :=
      (List.pairwise_map.mpr hsorted).imp fun h => Nat.ne_of_lt h
    obtain rfl := List.inj_on_of_nodup_map hnodup hx hs hi
    simp [Slot.settle, Slot.put, hp, hstate]
  · simp [Slot.put_other hi]

end Settle

theorem firstFailure_cons (s : Slot α) (rest : List (Slot α)) :
    firstFailure (s :: rest) = s.branch.error?.or (firstFailure rest) := by
  cases h : s.branch.outcome <;> simp [firstFailure, Branch.error?, h]

section Executions

variable {branches : List (Branch α)} {c : Course α}

/-- Time goes on as long as no branch is due. -/
theorem steps_pass (hcaller : c.caller = .awaiting) (hwell : c.failure = none) {s : Slot α}
    (hs : s ∈ c.slots) (hwaits : s.state = .waiting) {time : Nat} (hle : c.now ≤ time)
    (hlate : ∀ x ∈ c.slots, x.state = .waiting → time ≤ x.branch.ticks) :
    Steps c { c with now := time } := by
  induction time, hle using Nat.le_induction with
  | base => exact .refl
  | succ time _ ih =>
    have hsteps := ih fun x hx hx' => Nat.le_of_succ_le (hlate x hx hx')
    refine hsteps.tail (.pass (c := { c with now := time }) hcaller hwell hs hwaits fun x hx => ?_)
    rw [Bool.eq_false_iff]
    intro hdue
    obtain ⟨hx', hticks⟩ := Slot.isDue_iff.mp hdue
    have := hlate x hx hx'
    simp only at hticks
    omega

/-- The branches that are due end one after another. -/
theorem steps_due (hc : Sound branches c) (hcaller : c.caller = .awaiting) :
    ∃ trace, endsOf trace = endsOf c.trace ++
        (c.slots.filter (·.isDue c.now)).map (fun s => ⟨s.index, s.branch.fails⟩) ∧
      Steps c { c with
        slots := c.slots.map (Slot.pass c.now)
        failure := c.failure.or (firstFailure (c.slots.filter (·.isDue c.now)))
        trace } := by
  -- On the branches that are due: when the first of them has ended, the others are left.
  induction hL : c.slots.filter (·.isDue c.now) generalizing c with
  | nil =>
    refine ⟨c.trace, by simp, ?_⟩
    rw [Slot.pass_eq, map_settle_of_none hL]
    simp only [firstFailure, List.findSome?_nil, Option.or_none]
    exact .refl
  | cons s rest ih =>
    obtain ⟨hs, hdue⟩ := mem_of_filter_eq_cons hL
    have hsorted := hc.pairwise_index
    have hfirst : ∀ x ∈ c.slots, x.isDue c.now = true → s.index ≤ x.index := by
      intro x hx hxdue
      have hmem : x ∈ s :: rest := hL ▸ List.mem_filter.mpr ⟨hx, hxdue⟩
      rcases List.mem_cons.mp hmem with rfl | hmem
      · exact Nat.le_refl _
      · have := hsorted.filter (·.isDue c.now)
        rw [hL] at this
        exact Nat.le_of_lt ((List.pairwise_cons.mp this).1 x hmem)
    have hstate : ({ s with state := .ended } : Slot α).isDue c.now = false := by
      simp [Slot.isDue]
    obtain ⟨trace, hends, hsteps⟩ := ih (hc.finish hcaller hs hdue hfirst) hcaller
      (filter_put hsorted hL hstate)
    refine ⟨trace, ?_, ?_⟩
    · rw [hends]
      simp [Course.finish, endsOf_concat_ended]
    · refine .head (.finish hcaller hs hdue hfirst) ?_
      rw [firstFailure_cons, ← Option.or_assoc, Slot.pass_eq,
        ← map_settle_put hsorted hs hdue hstate, ← Slot.pass_eq]
      exact hsteps

/-- What waits is cancelled, one after another. -/
theorem steps_cancel (hc : Sound branches c) {f : Fault} (hcaller : c.caller = .cancelling f) :
    ∃ trace, endsOf trace = endsOf c.trace ∧
      Steps c { c with slots := c.slots.map Slot.cancel, trace } := by
  induction hL : c.slots.filter (fun s => decide (s.state = .waiting)) generalizing c with
  | nil =>
    refine ⟨c.trace, rfl, ?_⟩
    rw [Slot.cancel_eq, map_settle_of_none hL]
  | cons s rest ih =>
    obtain ⟨hs, hwaits⟩ := mem_of_filter_eq_cons hL
    have hsorted := hc.pairwise_index
    have hwaiting : s.state = .waiting := by simpa using hwaits
    obtain ⟨trace, hends, hsteps⟩ := ih (hc.cancel hcaller hs hwaiting) hcaller
      (filter_put hsorted hL (by simp))
    refine ⟨trace, ?_, ?_⟩
    · rw [hends]
      exact endsOf_concat_other rfl
    · refine .head (.cancel hcaller hs hwaiting) ?_
      rw [Slot.cancel_eq, ← map_settle_put hsorted hs hwaits (by simp), ← Slot.cancel_eq]
      exact hsteps

/-- A batch as a run. -/
def Course.toRun (c : Course α) : Run α :=
  { slots := c.slots, log := endsOf c.trace, failure := c.failure }

theorem toRun_answer (c : Course α) (r : Except Fault (List α)) : (c.answer r).toRun = c.toRun := by
  rw [Course.toRun, Course.answer, endsOf_concat_other rfl]
  rfl

theorem nextTime?_eq_none {r : Run α} (h : r.nextTime? = none) :
    ∀ s ∈ r.slots, s.state ≠ .waiting := by
  intro s hs hwaits
  have hmem : s ∈ r.slots.filter (·.state = .waiting) := List.mem_filter.mpr ⟨hs, by simp [hwaits]⟩
  have hnil := List.map_eq_nil_iff.mp (List.min?_eq_none_iff.mp h)
  simp [hnil] at hmem

theorem nextTime?_eq_some {r : Run α} {time : Nat} (h : r.nextTime? = some time) :
    (∃ s ∈ r.slots, s.state = .waiting ∧ s.branch.ticks = time) ∧
      ∀ s ∈ r.slots, s.state = .waiting → time ≤ s.branch.ticks := by
  obtain ⟨hmem, hmin⟩ := List.min?_eq_some_iff.mp h
  refine ⟨?_, fun s hs hwaits => ?_⟩
  · obtain ⟨s, hs, hticks⟩ := List.mem_map.mp hmem
    obtain ⟨hs, hwaits⟩ := List.mem_filter.mp hs
    exact ⟨s, hs, by simpa using hwaits, hticks⟩
  · exact hmin _ (List.mem_map_of_mem (List.mem_filter.mpr ⟨hs, by simp [hwaits]⟩))

theorem finish_of_stopped {r : Run α} (h : ∀ s ∈ r.slots, s.state ≠ .waiting) (fuel : Nat) :
    r.finish fuel = r := by
  cases fuel with
  | zero => rfl
  | succ fuel =>
    cases hnext : r.nextTime? with
    | none => simp [Run.finish, hnext]
    | some time =>
      obtain ⟨⟨s, hs, hwaits, _⟩, _⟩ := nextTime?_eq_some hnext
      exact absurd hwaits (h s hs)

theorem finish_succ {r : Run α} {time fuel : Nat} (h : r.nextTime? = some time) :
    r.finish (fuel + 1) = (r.advance time).finish fuel := by
  simp [Run.finish, h]

theorem advance_of_none {r : Run α} {time : Nat}
    (h : firstFailure (r.slots.filter (·.isDue time)) = none) :
    r.advance time =
      { slots := r.slots.map (Slot.pass time)
        log := r.log ++ (r.slots.filter (·.isDue time)).map fun s => ⟨s.index, s.branch.fails⟩
        failure := r.failure } := by
  simp [Run.advance, h]

theorem advance_of_some {r : Run α} {time : Nat} {f : Fault}
    (h : firstFailure (r.slots.filter (·.isDue time)) = some f) :
    r.advance time =
      { slots := (r.slots.map (Slot.pass time)).map Slot.cancel
        log := r.log ++ (r.slots.filter (·.isDue time)).map fun s => ⟨s.index, s.branch.fails⟩
        failure := some f } := by
  simp [Run.advance, h]

/-- What the caller does when no branch is due any more. -/
def Caller.after : Option Fault → Caller α
  | none => .awaiting
  | some f => .cancelling f

/-- A run goes on to the next time at which branches are due by steps. -/
theorem steps_advance (hc : Sound branches c) (hcaller : c.caller = .awaiting)
    (hwell : c.failure = none) {time : Nat} (hnext : c.toRun.nextTime? = some time) :
    ∃ later, Steps c later ∧ later.toRun = c.toRun.advance time ∧
      later.caller = .after (firstFailure (c.slots.filter (·.isDue time))) := by
  obtain ⟨⟨s, hs, hwaits, hticks⟩, hlate⟩ := nextTime?_eq_some hnext
  have hle : c.now ≤ time := hticks ▸ hc.ahead s hs (by simp [hwaits])
  have hpass := steps_pass hcaller hwell hs hwaits hle hlate
  obtain ⟨trace, hends, hdue⟩ := steps_due (hc.steps hpass) hcaller
  have hsteps := hpass.trans hdue
  simp only [hwell, Option.none_or] at hends hsteps
  cases hfailure : firstFailure (c.slots.filter (·.isDue time)) with
  | none =>
    refine ⟨_, hsteps, ?_, hcaller⟩
    rw [advance_of_none hfailure]
    simp [Course.toRun, hfailure, hends, hwell]
  | some f =>
    have hidle : ∀ x ∈ c.slots.map (Slot.pass time), x.isDue time = false := by
      intro x hx
      obtain ⟨y, _, rfl⟩ := List.mem_map.mp hx
      rw [Bool.eq_false_iff]
      intro hxdue
      obtain ⟨hx', hticks⟩ := Slot.isDue_iff.mp hxdue
      have hy := Slot.waiting_of_pass hx'
      simp only [Slot.pass, hy.2] at hticks
      exact hy.2 (Slot.isDue_iff.mpr ⟨hy.1, hticks⟩)
    have hwake := hsteps.tail (.wake hcaller hfailure hidle)
    obtain ⟨trace', hends', hcancel⟩ := steps_cancel (hc.steps hwake) rfl
    refine ⟨_, hwake.trans hcancel, ?_, rfl⟩
    rw [advance_of_some hfailure]
    simp [Course.toRun, hfailure, hends, hends']

theorem waitingCount_pass_lt {r : Run α} {time : Nat} (hnext : r.nextTime? = some time) :
    waitingCount (r.slots.map (Slot.pass time)) < waitingCount r.slots := by
  obtain ⟨⟨s, hs, hwaits, hticks⟩, _⟩ := nextTime?_eq_some hnext
  have hdue : s.isDue time = true := Slot.isDue_iff.mpr ⟨hwaits, Nat.le_of_eq hticks⟩
  exact waitingCount_map_lt (fun x hx => (Slot.waiting_of_pass hx).1) hs hwaits
    (by simp [Slot.pass, hdue])

/-- When nothing waits the caller has its values. -/
theorem steps_give (hcaller : c.caller = .awaiting) (hwell : c.failure = none)
    (hstopped : ∀ s ∈ c.slots, s.state ≠ .waiting) (fuel : Nat) :
    ∃ later, Steps c later ∧ later.toRun = c.toRun.finish fuel ∧
      later.caller = .done (c.toRun.finish fuel).result := by
  rw [finish_of_stopped (r := c.toRun) hstopped]
  refine ⟨_, .single (.give hcaller hwell hstopped), toRun_answer _ _, ?_⟩
  simp [Course.toRun, Course.answer, Run.result, hwell]

/-- When nothing waits the caller that has cancelled has the failure. -/
theorem steps_raise {f : Fault} (hcaller : c.caller = .cancelling f) (hfailure : c.failure = some f)
    (hstopped : ∀ s ∈ c.slots, s.state ≠ .waiting) (fuel : Nat) :
    ∃ later, Steps c later ∧ later.toRun = c.toRun.finish fuel ∧
      later.caller = .done (c.toRun.finish fuel).result := by
  rw [finish_of_stopped (r := c.toRun) hstopped]
  refine ⟨_, .single (.raise hcaller hstopped), toRun_answer _ _, ?_⟩
  simp [Course.toRun, Course.answer, Run.result, hfailure]

/-- A run with as much fuel as branches wait is an execution to the end. -/
theorem steps_finish (hc : Sound branches c) (hcaller : c.caller = .awaiting)
    (hwell : c.failure = none) {fuel : Nat} (hfuel : waitingCount c.slots ≤ fuel) :
    ∃ later, Steps c later ∧ later.toRun = c.toRun.finish fuel ∧
      later.caller = .done (c.toRun.finish fuel).result := by
  induction fuel generalizing c with
  | zero =>
    refine steps_give hcaller hwell (fun s hs hwaits => ?_) 0
    have hpos : 0 < waitingCount c.slots := List.countP_pos_iff.mpr ⟨s, hs, by simp [hwaits]⟩
    omega
  | succ fuel ih =>
    cases hnext : c.toRun.nextTime? with
    | none => exact steps_give hcaller hwell (nextTime?_eq_none hnext) (fuel + 1)
    | some time =>
      obtain ⟨next, hsteps, hrun, hnextCaller⟩ := steps_advance hc hcaller hwell hnext
      rw [finish_succ hnext, ← hrun]
      cases hfailure : firstFailure (c.slots.filter (·.isDue time)) with
      | none =>
        rw [advance_of_none hfailure] at hrun
        have hslots : next.slots = c.slots.map (Slot.pass time) := congrArg Run.slots hrun
        have hless := waitingCount_pass_lt hnext
        have hawaiting : next.caller = .awaiting := by
          simp [hnextCaller, hfailure, Caller.after]
        have henough : waitingCount next.slots ≤ fuel := by
          rw [hslots]
          exact Nat.le_of_lt_succ (Nat.lt_of_lt_of_le hless hfuel)
        obtain ⟨later, hlater, hend⟩ :=
          ih (hc.steps hsteps) hawaiting ((congrArg Run.failure hrun).trans hwell) henough
        exact ⟨later, hsteps.trans hlater, hend⟩
      | some f =>
        rw [advance_of_some hfailure] at hrun
        have hstopped : ∀ s ∈ next.slots, s.state ≠ .waiting := by
          intro s hs
          rw [show next.slots = _ from congrArg Run.slots hrun] at hs
          obtain ⟨x, _, rfl⟩ := List.mem_map.mp hs
          exact Slot.state_cancel x
        have hcancelling : next.caller = .cancelling f := by
          simp [hnextCaller, hfailure, Caller.after]
        obtain ⟨later, hlater, hend⟩ :=
          steps_raise hcancelling (congrArg Run.failure hrun) hstopped fuel
        exact ⟨later, hsteps.trans hlater, hend⟩

end Executions

/-- The run of branches is an execution to the end. -/
theorem steps_run (branches : List (Branch α)) :
    ∃ c, Steps (Course.start branches) c ∧ c.toRun = run branches ∧
      c.caller = .done (run branches).result := by
  refine steps_finish (Sound.start branches) rfl rfl ?_
  have hlength : (Course.start branches).slots.length = branches.length := by
    simp [Course.start, ForkJoin.start]
  exact hlength ▸ List.countP_le_length

end SplitTest.ForkJoin
