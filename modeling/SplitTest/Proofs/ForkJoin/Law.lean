import SplitTest.Proofs.ForkJoin.Trace

/-! How a batch ends.  Without a failure it ends with all values, in the order in which the branches
were started.  Otherwise the first failure, by time and then by position, decides: its time parts
the branches that have ended from those that are cancelled, and it is the batch's result. -/

namespace SplitTest.ForkJoin

variable {α : Type}

/-- The branch at a position fails at a time, and no other that fails is due before it. -/
structure FirstFailure (branches : List (Branch α)) (index time : Nat) (f : Fault) : Prop where
  here : branches[index]? = some ⟨time, .error f⟩
  first : ∀ j b, branches[j]? = some b → b.fails = true →
    time < b.ticks ∨ time = b.ticks ∧ index ≤ j

/-- The end of a batch in which no branch fails. -/
structure EndsWell (branches : List (Branch α)) (trace : List (Event α))
    (result : Except Fault (List α)) : Prop where
  well : ∀ b ∈ branches, b.fails = false
  result : ∃ values, result = .ok values ∧ branches.map (·.outcome) = values.map .ok
  ended : ∀ i < branches.length, eventsOf trace i = [.ended ⟨i, false⟩]

/-- The end of a batch whose first failure is at a position, at a time. -/
structure EndsWith (branches : List (Branch α)) (index time : Nat) (f : Fault)
    (trace : List (Event α)) (result : Except Fault (List α)) : Prop where
  first : FirstFailure branches index time f
  result : result = .error f
  ended : ∀ i b, branches[i]? = some b → b.ticks ≤ time →
    eventsOf trace i = [.ended ⟨i, b.fails⟩]
  cancelled : ∀ i b, branches[i]? = some b → time < b.ticks → eventsOf trace i = [.cancelled i]

/-- The trace and the result of a batch that has ended as it must. -/
structure Lawful (branches : List (Branch α)) (trace : List (Event α))
    (result : Except Fault (List α)) : Prop where
  ending : EndsWell branches trace result ∨
    ∃ index time f, EndsWith branches index time f trace result
  known : ∀ e ∈ trace, ∀ i, e.about? = some i → i < branches.length
  sorted : (endsOf trace).Pairwise fun e e' => DueBefore branches e.index e'.index
  last : ∃ before, (∀ e ∈ before, e.about?.isSome = true) ∧ trace = before ++ [.answered result]

theorem FirstFailure.fails {branches : List (Branch α)} {i t : Nat} {f : Fault}
    (h : FirstFailure branches i t f) : ∃ b ∈ branches, b.fails = true :=
  ⟨_, List.mem_of_getElem? h.here, Branch.fails_of_outcome rfl⟩

theorem FirstFailure.unique {branches : List (Branch α)} {i j t u : Nat} {f g : Fault}
    (h : FirstFailure branches i t f) (h' : FirstFailure branches j u g) : t = u ∧ f = g := by
  have hle := h.first j _ h'.here (Branch.fails_of_outcome rfl)
  have hge := h'.first i _ h.here (Branch.fails_of_outcome rfl)
  obtain rfl : i = j := by simp only at hle hge; omega
  simpa using h.here.symm.trans h'.here

/-- Where a branch fails one is the first. -/
theorem exists_firstFailure {branches : List (Branch α)} (h : ∃ b ∈ branches, b.fails = true) :
    ∃ i t f, FirstFailure branches i t f := by
  classical
  have htime : ∃ t, ∃ b ∈ branches, b.fails = true ∧ b.ticks = t := by
    obtain ⟨b, hb, hfails⟩ := h
    exact ⟨b.ticks, b, hb, hfails, rfl⟩
  have hindex : ∃ i : Nat, ∃ b,
      branches[i]? = some b ∧ b.fails = true ∧ b.ticks = Nat.find htime := by
    obtain ⟨b, hb, hfails, ht⟩ := Nat.find_spec htime
    obtain ⟨i, hi⟩ := List.mem_iff_getElem?.mp hb
    exact ⟨i, b, hi, hfails, ht⟩
  obtain ⟨⟨time, outcome⟩, hhere, hfails, rfl⟩ := Nat.find_spec hindex
  cases outcome with
  | ok v => simp [Branch.fails] at hfails
  | error f =>
    refine ⟨Nat.find hindex, _, f, ⟨hhere, fun j b hb hbfails => ?_⟩⟩
    have hle : Nat.find htime ≤ b.ticks :=
      Nat.find_min' htime ⟨b, List.mem_of_getElem? hb, hbfails, rfl⟩
    by_cases heq : b.ticks = Nat.find htime
    · exact .inr ⟨heq.symm, Nat.find_min' hindex ⟨b, hb, hbfails, heq⟩⟩
    · exact .inl (by omega)

/-- Either no branch fails or one is the first to do so. -/
theorem well_or_firstFailure (branches : List (Branch α)) :
    (∀ b ∈ branches, b.fails = false) ∨ ∃ i t f, FirstFailure branches i t f := by
  by_cases h : ∃ b ∈ branches, b.fails = true
  · exact .inr (exists_firstFailure h)
  · refine .inl fun b hb => ?_
    rw [Bool.eq_false_iff]
    exact fun hfails => h ⟨b, hb, hfails⟩

theorem outcome_of_not_fails {b : Branch α} (h : b.fails = false) : ∃ v, b.outcome = .ok v := by
  cases hout : b.outcome with
  | ok v => exact ⟨v, rfl⟩
  | error f => simp [Branch.fails, hout] at h

/-- The values of branches none of which fails. -/
theorem map_outcome_of_well {branches : List (Branch α)} (h : ∀ b ∈ branches, b.fails = false) :
    branches.map (·.outcome) = (branches.filterMap (·.outcome.toOption)).map .ok := by
  induction branches with
  | nil => rfl
  | cons b rest ih =>
    obtain ⟨v, hv⟩ := outcome_of_not_fails (h b List.mem_cons_self)
    have := ih fun x hx => h x (List.mem_cons_of_mem _ hx)
    simp [hv, Except.toOption, this]

theorem Sound.values_eq {branches : List (Branch α)} {c : Course α} (h : Sound branches c) :
    values c.slots = branches.filterMap (·.outcome.toOption) := by
  have hbranches : c.slots.map (·.branch) = branches := by
    have := congrArg (List.map Prod.fst) h.slots
    simpa [Function.comp_def] using this
  rw [← hbranches, List.filterMap_map]
  rfl

section Done

variable {branches : List (Branch α)} {c : Course α}

theorem Recorded.endsWell (h : Recorded branches c) (hc : Sound branches c) {vs : List α}
    (hr : c.caller = .done (.ok vs)) : EndsWell branches c.trace (.ok vs) := by
  have hcalled := hc.caller
  simp only [Course.CallerSound, hr] at hcalled
  obtain ⟨hnone, rfl, hended⟩ := hcalled
  have hwell : ∀ b ∈ branches, b.fails = false := by
    intro b hb
    obtain ⟨i, hi⟩ := List.mem_iff_getElem?.mp hb
    obtain ⟨s, hs, rfl, _⟩ := hc.exists_slot hi
    exact hc.well hnone s hs (hended s hs)
  refine ⟨hwell, ⟨_, rfl, ?_⟩, fun i hi => ?_⟩
  · rw [hc.values_eq, map_outcome_of_well hwell]
  · obtain ⟨s, hs, hb, rfl⟩ := hc.exists_slot (List.getElem?_eq_getElem hi)
    have hnot : s.branch.fails = false := hb ▸ hwell _ (List.getElem_mem hi)
    rw [h.events s hs]
    simp [Slot.events, hended s hs, hnot]

/-- The failure met is the first of all. -/
theorem Sound.firstFailure (hc : Sound branches c) {f : Fault} (hf : c.failure = some f) :
    ∃ i, FirstFailure branches i c.now f := by
  obtain ⟨t, ht, _, hout, hnow, hmin⟩ := hc.failed f hf
  refine ⟨t.index, ?_, fun j b hb hfails => ?_⟩
  · rw [hc.getElem? ht, ← hout, ← hnow]
  · obtain ⟨s, hs, rfl, rfl⟩ := hc.exists_slot hb
    rw [← hnow]
    by_cases hi : s.index = t.index
    · obtain rfl := hc.eq_of_index hs ht hi
      exact .inr ⟨rfl, Nat.le_refl _⟩
    · exact (hmin s hs hfails hi).imp_right fun h => ⟨h.1, Nat.le_of_lt h.2⟩

theorem Recorded.endsWith (h : Recorded branches c) (hc : Sound branches c) {f : Fault}
    (hr : c.caller = .done (.error f)) :
    ∃ i, EndsWith branches i c.now f c.trace (.error f) := by
  have hcalled := hc.caller
  simp only [Course.CallerSound, hr] at hcalled
  obtain ⟨hfailure, hlate, hstopped⟩ := hcalled
  obtain ⟨i, hfirst⟩ := hc.firstFailure hfailure
  refine ⟨i, hfirst, rfl, fun j b hb hle => ?_, fun j b hb hlt => ?_⟩
  · obtain ⟨s, hs, rfl, rfl⟩ := hc.exists_slot hb
    have hended : s.state = .ended := by
      by_contra hstate
      have := hlate s hs hstate
      omega
    rw [h.events s hs]
    simp [Slot.events, hended]
  · obtain ⟨s, hs, rfl, rfl⟩ := hc.exists_slot hb
    have hcancelled : s.state = .cancelled := by
      cases hstate : s.state with
      | waiting => exact absurd hstate (hstopped s hs)
      | ended =>
        have := hc.past s hs hstate
        omega
      | cancelled => rfl
    rw [h.events s hs]
    simp [Slot.events, hcancelled]

/-- A batch whose caller has its result has ended as it must. -/
theorem Recorded.lawful {r : Except Fault (List α)} (h : Recorded branches c)
    (hc : Sound branches c) (hr : c.caller = .done r) : Lawful branches c.trace r := by
  have hlast := h.last
  rw [hr] at hlast
  refine ⟨?_, h.known, h.sorted, hlast⟩
  cases r with
  | ok vs => exact .inl (h.endsWell hc hr)
  | error f =>
    obtain ⟨i, hend⟩ := h.endsWith hc hr
    exact .inr ⟨i, c.now, f, hend⟩

end Done

namespace Lawful

variable {branches : List (Branch α)} {trace trace' : List (Event α)}
  {r r' : Except Fault (List α)}

theorem result_of_well (h : Lawful branches trace r) (hwell : ∀ b ∈ branches, b.fails = false) :
    r = .ok (branches.filterMap (·.outcome.toOption)) := by
  rcases h.ending with hend | ⟨i, t, f, hend⟩
  · obtain ⟨values, rfl, hvalues⟩ := hend.result
    rw [map_outcome_of_well hwell] at hvalues
    have hinj : Function.Injective (Except.ok : α → Except Fault α) := fun _ _ => Except.ok.inj
    rw [List.map_injective_iff.mpr hinj hvalues]
  · obtain ⟨b, hb, hfails⟩ := hend.first.fails
    simp [hwell b hb] at hfails

theorem endsWith (h : Lawful branches trace r) {i t : Nat} {f : Fault}
    (hfirst : FirstFailure branches i t f) : ∃ j, EndsWith branches j t f trace r := by
  rcases h.ending with hend | ⟨j, u, g, hend⟩
  · obtain ⟨b, hb, hfails⟩ := hfirst.fails
    simp [hend.well b hb] at hfails
  · obtain ⟨rfl, rfl⟩ := hfirst.unique hend.first
    exact ⟨j, hend⟩

theorem eventsOf_eq_nil (h : Lawful branches trace r) {i : Nat} (hi : branches.length ≤ i) :
    eventsOf trace i = [] := by
  refine List.filter_eq_nil_iff.mpr fun e he habout => ?_
  have := h.known e he i (by simpa using habout)
  omega

/-- Two lawful traces tell the same of every branch. -/
theorem eventsOf_eq (h : Lawful branches trace r) (h' : Lawful branches trace' r') (i : Nat) :
    eventsOf trace i = eventsOf trace' i := by
  by_cases hi : branches.length ≤ i
  · rw [h.eventsOf_eq_nil hi, h'.eventsOf_eq_nil hi]
  have hb : branches[i]? = some branches[i] := List.getElem?_eq_getElem (by omega)
  rcases h.ending with hend | ⟨j, t, f, hend⟩
  · rcases h'.ending with hend' | ⟨j', t', f', hend'⟩
    · rw [hend.ended i (by omega), hend'.ended i (by omega)]
    · obtain ⟨b, hb, hfails⟩ := hend'.first.fails
      simp [hend.well b hb] at hfails
  · obtain ⟨j', hend'⟩ := h'.endsWith hend.first
    by_cases hle : branches[i].ticks ≤ t
    · rw [hend.ended i _ hb hle, hend'.ended i _ hb hle]
    · rw [hend.cancelled i _ hb (by omega), hend'.cancelled i _ hb (by omega)]

theorem result_eq (h : Lawful branches trace r) (h' : Lawful branches trace' r') : r = r' := by
  rcases well_or_firstFailure branches with hwell | ⟨i, t, f, hfirst⟩
  · rw [h.result_of_well hwell, h'.result_of_well hwell]
  · obtain ⟨_, hend⟩ := h.endsWith hfirst
    obtain ⟨_, hend'⟩ := h'.endsWith hfirst
    rw [hend.result, hend'.result]

theorem mem_iff (h : Lawful branches trace r) (h' : Lawful branches trace' r') {e : Event α}
    {i : Nat} (habout : e.about? = some i) : e ∈ trace ↔ e ∈ trace' := by
  have := congrArg (e ∈ ·) (h.eventsOf_eq h' i)
  simpa [eventsOf, habout] using this

theorem nodup_endsOf (h : Lawful branches trace r) : (endsOf trace).Nodup := by
  refine h.sorted.imp fun {e e'} hlt => ?_
  rintro rfl
  exact DueBefore.irrefl hlt

theorem mem_endsOf {b : BranchEnd} : b ∈ endsOf trace ↔ Event.ended b ∈ trace := by
  refine List.mem_filterMap.trans ⟨?_, fun h => ⟨_, h, rfl⟩⟩
  rintro ⟨e, he, hb⟩
  rw [← (Event.about?_of_ended? hb).1]
  exact he

/-- Two lawful traces have the same ends in the same order. -/
theorem endsOf_eq (h : Lawful branches trace r) (h' : Lawful branches trace' r') :
    endsOf trace = endsOf trace' := by
  have hperm : (endsOf trace).Perm (endsOf trace') := by
    refine (List.perm_ext_iff_of_nodup h.nodup_endsOf h'.nodup_endsOf).mpr fun b => ?_
    rw [mem_endsOf, mem_endsOf]
    exact h.mem_iff h' rfl
  refine hperm.eq_of_pairwise (fun e e' _ _ hlt hlt' => ?_) h.sorted h'.sorted
  exact absurd hlt' hlt.asymm

end Lawful

end SplitTest.ForkJoin
