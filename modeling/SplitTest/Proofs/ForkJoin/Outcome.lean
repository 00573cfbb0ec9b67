import SplitTest.Proofs.ForkJoin.Run

/-! What comes of a batch.  Whatever the order of its steps, an execution ends, its trace and its
result are those of the law, and the run of the batch has the same result, the same ends and the
same cancelled branches. -/

namespace SplitTest.ForkJoin

variable {α : Type}

theorem mem_cancelled {branches : List (Branch α)} {c : Course α} (h : Recorded branches c)
    (hc : Sound branches c) {i : Nat} : .cancelled i ∈ c.trace ↔ i ∈ c.toRun.cancelled := by
  constructor
  · intro hi
    obtain ⟨s, hs, _, rfl⟩ :=
      hc.exists_slot (List.getElem?_eq_getElem (h.known _ hi i rfl))
    have hmem : Event.cancelled s.index ∈ s.events := by
      rw [← h.events s hs]
      exact List.mem_filter.mpr ⟨hi, by simp [Event.about?]⟩
    refine List.mem_map_of_mem (List.mem_filter.mpr ⟨hs, ?_⟩)
    cases hstate : s.state <;> simp [Slot.events, hstate] at hmem
    rfl
  · intro hi
    obtain ⟨s, hs, rfl⟩ := List.mem_map.mp hi
    obtain ⟨hs, hstate⟩ := List.mem_filter.mp hs
    have hmem : Event.cancelled s.index ∈ eventsOf c.trace s.index := by
      rw [h.events s hs]
      simp [Slot.events, show s.state = .cancelled by simpa using hstate]
    exact (List.mem_filter.mp hmem).1

/-- The run of a batch has the result, the ends and the cancelled branches of a lawful trace. -/
theorem exists_lawful_run (branches : List (Branch α)) :
    ∃ trace, Lawful branches trace (run branches).result ∧ endsOf trace = (run branches).log ∧
      ∀ i, .cancelled i ∈ trace ↔ i ∈ (run branches).cancelled := by
  obtain ⟨c, hsteps, hrun, hdone⟩ := steps_run branches
  have hc := (Sound.start branches).steps hsteps
  have h := (Recorded.start branches).steps (Sound.start branches) hsteps
  refine ⟨c.trace, h.lawful hc hdone, ?_, fun i => ?_⟩
  · rw [← hrun]
    rfl
  · rw [← hrun]
    exact mem_cancelled h hc

/-- Without a failure a run has all values. -/
theorem run_of_well {branches : List (Branch α)} (h : ∀ b ∈ branches, b.fails = false) :
    (run branches).result = .ok (branches.filterMap (·.outcome.toOption)) := by
  obtain ⟨_, hlaw, _⟩ := exists_lawful_run branches
  exact hlaw.result_of_well h

/-- A slot whose failure is that of the whole run: no other one fails earlier, and none that ends on
its own ends later. -/
structure Slot.Decides (s : Slot α) (slots : List (Slot α)) (f : Fault) : Prop where
  mem : s ∈ slots
  ended : s.state = .ended
  outcome : s.branch.outcome = .error f
  first : ∀ x ∈ slots, x.branch.fails = true → s.branch.ticks ≤ x.branch.ticks
  last : ∀ x ∈ slots, x.state = .ended → x.branch.ticks ≤ s.branch.ticks

/-- What has become of the branches of a run that has stopped. -/
structure Settled (slots : List (Slot α)) (result : Except Fault (List α)) : Prop where
  stopped : ∀ s ∈ slots, s.state = .ended ∨ s.state = .cancelled
  well : ∀ vs, result = .ok vs →
    (∀ s ∈ slots, s.state = .ended) ∧ slots.map (·.branch.outcome) = vs.map .ok
  failed : ∀ f, result = .error f → ∃ s : Slot α, s.Decides slots f

theorem Sound.decides {branches : List (Branch α)} {c : Course α} (h : Sound branches c) {f : Fault}
    (hf : c.failure = some f) : ∃ s : Slot α, s.Decides c.slots f := by
  obtain ⟨s, hs, hended, hout, hnow, hmin⟩ := h.failed f hf
  refine ⟨s, hs, hended, hout, fun x hx hfails => ?_, fun x hx hx' => hnow ▸ h.past x hx hx'⟩
  by_cases hi : x.index = s.index
  · rw [h.eq_of_index hx hs hi]
  · rcases hmin x hx hfails hi with hlt | ⟨heq, -⟩
    · exact Nat.le_of_lt hlt
    · exact Nat.le_of_eq heq

theorem Sound.settled {branches : List (Branch α)} {c : Course α} (h : Sound branches c)
    {r : Except Fault (List α)} (hdone : c.caller = .done r) : Settled c.slots r := by
  have hcaller := h.caller
  simp only [Course.CallerSound, hdone] at hcaller
  cases r with
  | ok vs =>
    obtain ⟨hwell, rfl, hended⟩ := hcaller
    refine ⟨fun s hs => .inl (hended s hs), ?_, by simp⟩
    rintro _ ⟨⟩
    have hoks : ∀ b ∈ c.slots.map (·.branch), b.fails = false :=
      List.forall_mem_map.mpr fun s hs => h.well hwell s hs (hended s hs)
    have houtcomes := map_outcome_of_well hoks
    rw [List.map_map, List.filterMap_map] at houtcomes
    exact ⟨hended, houtcomes⟩
  | error f =>
    obtain ⟨hfailure, -, hnone⟩ := hcaller
    refine ⟨fun s hs => ?_, by simp, ?_⟩
    · cases hstate : s.state with
      | waiting => exact absurd hstate (hnone s hs)
      | ended => exact .inl rfl
      | cancelled => exact .inr rfl
    · rintro _ ⟨⟩
      exact h.decides hfailure

/-- A branch is cancelled only because another has failed. -/
theorem Settled.exists_failed {slots : List (Slot α)} {r : Except Fault (List α)}
    (h : Settled slots r) {s : Slot α} (hs : s ∈ slots) (hcancelled : s.state = .cancelled) :
    ∃ x ∈ slots, x.state = .ended ∧ ∃ f, x.branch.outcome = .error f := by
  cases r with
  | ok vs => simp [(h.well vs rfl).1 s hs] at hcancelled
  | error f =>
    obtain ⟨x, hx⟩ := h.failed f rfl
    exact ⟨x, hx.mem, hx.ended, f, hx.outcome⟩

/-- A run in which a branch fails has a slot that decides it. -/
theorem Settled.exists_decides {slots : List (Slot α)} {r : Except Fault (List α)}
    (h : Settled slots r) {s : Slot α} (hs : s ∈ slots) (hfails : s.branch.fails = true) :
    ∃ (x : Slot α) (f : Fault), x.Decides slots f := by
  cases r with
  | ok vs =>
    have hmem : s.branch.outcome ∈ vs.map .ok :=
      (h.well vs rfl).2 ▸ List.mem_map_of_mem (f := fun s : Slot α => s.branch.outcome) hs
    obtain ⟨v, -, hv⟩ := List.mem_map.mp hmem
    simp [Branch.fails, ← hv] at hfails
  | error f =>
    obtain ⟨x, hx⟩ := h.failed f rfl
    exact ⟨x, f, hx⟩

theorem run_settled (branches : List (Branch α)) :
    Settled (run branches).slots (run branches).result ∧
      (run branches).slots.map (fun s => (s.branch, s.index)) = branches.zipIdx := by
  obtain ⟨c, hsteps, hrun, hdone⟩ := steps_run branches
  have hc := (Sound.start branches).steps hsteps
  rw [← hrun] at hdone ⊢
  exact ⟨hc.settled hdone, hc.slots⟩

theorem mem_iff_run (branches : List (Branch α)) (b : Branch α) :
    b ∈ branches ↔ ∃ s ∈ (run branches).slots, s.branch = b := by
  have hslots := congrArg (List.map Prod.fst) (run_settled branches).2
  rw [List.map_map, List.zipIdx_map_fst] at hslots
  constructor
  · intro hb
    rw [← hslots] at hb
    exact List.mem_map.mp hb
  · rintro ⟨s, hs, rfl⟩
    rw [← hslots]
    exact List.mem_map_of_mem (f := fun s : Slot α => s.branch) hs

/-- Batches that end alike: they are the same, or no branch fails and they differ in times only. -/
def Alike (branches branches' : List (Branch α)) : Prop :=
  branches = branches' ∨
    (∀ b ∈ branches, b.fails = false) ∧ branches.map (·.outcome) = branches'.map (·.outcome)

theorem Alike.result_eq {branches branches' : List (Branch α)} (h : Alike branches branches') :
    (run branches).result = (run branches').result := by
  rcases h with rfl | ⟨hwell, houtcomes⟩
  · rfl
  · have hwell' : ∀ b ∈ branches', b.fails = false := by
      intro b hb
      have hmem : b.outcome ∈ branches.map (·.outcome) := by
        rw [houtcomes]
        exact List.mem_map_of_mem hb
      obtain ⟨b', hb', hout⟩ := List.mem_map.mp hmem
      have := hwell b' hb'
      unfold Branch.fails at this ⊢
      rwa [← hout]
    have hvalues := congrArg (List.filterMap Except.toOption) houtcomes
    rw [List.filterMap_map, List.filterMap_map] at hvalues
    rw [run_of_well hwell, run_of_well hwell']
    exact congrArg Except.ok hvalues

/-- No execution of a batch goes on for ever or stops before its caller has a result, and the trace
and the result at its end are lawful and those of the run. -/
theorem executions_lawful (branches : List (Branch α)) :
    Acc (fun later c => Step c later) (Course.start branches) ∧
    ∀ c, Steps (Course.start branches) c →
      ((∃ r, c.caller = .done r) ∨ ∃ later, Step c later) ∧
      ∀ r, c.caller = .done r → Lawful branches c.trace r ∧ (run branches).result = r ∧
        (run branches).log = endsOf c.trace ∧
        ∀ i, i ∈ (run branches).cancelled ↔ .cancelled i ∈ c.trace := by
  refine ⟨acc_step _, fun c hsteps => ⟨?_, fun r hr => ?_⟩⟩
  · by_cases hdone : ∃ r, c.caller = .done r
    · exact .inl hdone
    · exact .inr (exists_step c fun r hr => hdone ⟨r, hr⟩)
  · have hc := (Sound.start branches).steps hsteps
    have h := (Recorded.start branches).steps (Sound.start branches) hsteps
    have hlaw := h.lawful hc hr
    obtain ⟨trace, hrun, hlog, hcancelled⟩ := exists_lawful_run branches
    refine ⟨hlaw, hrun.result_eq hlaw, ?_, fun i => ?_⟩
    · rw [← hlog]
      exact hrun.endsOf_eq hlaw
    · rw [← hcancelled i]
      exact hrun.mem_iff hlaw rfl

/-- Two branches fail at once, one ends with them, and two are due later. -/
theorem executions_lawful_two_failures :
    let first : Fault := .warehouse "KeyError" "missing table"
    let branches : List (Branch Nat) :=
      [⟨3, .ok 0⟩, ⟨2, .error first⟩, ⟨2, .error (.warehouse "ValueError" "")⟩, ⟨2, .ok 3⟩,
        ⟨5, .error .timedOut⟩]
    ∃ c, Steps (Course.start branches) c ∧ c.caller = .done (.error first) ∧
      endsOf c.trace = [⟨1, true⟩, ⟨2, true⟩, ⟨3, false⟩] ∧
      .cancelled 0 ∈ c.trace ∧ .cancelled 4 ∈ c.trace := by
  intro first branches
  obtain ⟨c, r, hsteps, hr⟩ := exists_done (Course.start branches)
  obtain ⟨_, hresult, hlog, hcancelled⟩ := ((executions_lawful branches).2 c hsteps).2 r hr
  obtain rfl : Except.error first = r := hresult
  exact ⟨c, hsteps, hr, hlog.symm, (hcancelled 0).mp (by decide), (hcancelled 4).mp (by decide)⟩

end SplitTest.ForkJoin
