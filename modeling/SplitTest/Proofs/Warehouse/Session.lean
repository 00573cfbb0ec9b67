import SplitTest.Proofs.ForkJoin.Outcome
import SplitTest.Proofs.Warehouse.Execution

/-! Every batch that is run to its end is an execution of its calls: each takes the steps that its
slot stands for, those that end on their own first and those that are cancelled after them.  So what
holds of every execution holds of the batches of a session, one after the other. -/

namespace SplitTest.Warehouse

open ForkJoin (Slot Settled)
open Relation (ReflTransGen)

/-! ### The end of a call -/

/-- What the caller of a branch that ends on its own is told. -/
def CallResult.ofOutcome : Except Fault (List Row) → CallResult
  | .ok given => .rows given
  | .error f => .fault f

/-- A call has come to the end that its slot stands for. -/
structure Life.EndsLike (t : Timeout) (first : Nat) (taken : Nat → Bool) (s : Slot (List Row))
    (l : Life) : Prop where
  batch : l.batch = first
  call : l.toCall = .ofSlot t first taken s
  events : l.events = l.toCall.events
  worker : l.worker ≠ .busy
  ended : s.state = .ended →
    l.caller = .ended l.ending (CallResult.ofOutcome s.branch.outcome)
  cancelled : s.state = .cancelled → l.caller = .ended .cancelled .cancelled

theorem Query.exists_replies (q : Query) : ∃ reply, q.Replies reply := by
  cases h : q.refusesInterrupt with
  | false => exact ⟨none, .accepts h⟩
  | true => exact ⟨_, .refuses "ConnectionException" "closed"⟩

section

variable {t : Timeout} {first : Nat} {taken : Nat → Bool} {s : Slot (List Row)} {q : Query}

theorem Query.branch_of_unanswered (hover : t.isOver = false) {taken : Bool}
    (hanswer : q.answerIf? taken = none) :
    q.branch t taken = ⟨if t.runsOut then 1 else 2, .error .timedOut⟩ := by
  unfold Query.answerIf? Query.answer? at hanswer
  rw [Query.branch, hover]
  cases taken with
  | false => rfl
  | true => cases hresponse : q.response <;> simp_all

theorem Query.branch_of_answer (hover : t.isOver = false) {taken : Bool} {r : CallResult}
    (hanswer : q.answerIf? taken = some r) : (q.branch t taken).ticks = 0 ∧
      r = .ofOutcome (q.branch t taken).outcome ∧
      (q.branch t taken).outcome ≠ .error .timedOut := by
  unfold Query.answerIf? Query.answer? at hanswer
  rw [Query.branch, hover]
  cases taken with
  | false => cases hanswer
  | true => cases hresponse : q.response <;> simp_all [CallResult.ofOutcome]

/-- A call that is given up ends, whether a worker has taken it, which then stops, or not. -/
theorem steps_giveUp {p : Prop} (ending : CallEnd) (cause : CallResult) {reply : Option Fault}
    (hgives : ∀ l : Life, l.timeout = t → l.query = q → l.caller = .waiting →
      l.Step p (l.giveUp ending cause reply)) (hreply : q.Replies reply)
    (hanswered : ending ≠ .answered) (hending : (Call.ofSlot t first taken s).ending = ending)
    (hended : s.state = .ended → cause = .ofOutcome s.branch.outcome)
    (hcancelled : s.state = .cancelled → ending = .cancelled ∧ cause = .cancelled) :
    ∃ l, ReflTransGen (Life.Step p) (.begin t first q s.index) l ∧
      l.EndsLike t first taken s := by
  have hpassed := Life.passedOn_of_replies hreply cause
  have hslot : Call.ofSlot t first taken s =
      ⟨first + s.index, !t.isOver && taken s.index, ending⟩ := by
    rw [← hending]
    rfl
  have hcaller (h : s.state = .cancelled) :
      Caller.ended ending cause = .ended .cancelled .cancelled := by
    rw [(hcancelled h).1, (hcancelled h).2]
  cases htaken : !t.isOver && taken s.index with
  | false =>
    refine ⟨_, .single (hgives _ rfl rfl rfl), ?_⟩
    rw [htaken] at hslot
    constructor
    case batch => rfl
    case call => exact hslot.symm
    case events => simp [Life.giveUp, Life.begin, Life.toCall, Call.events, Call.isInterrupted,
      Life.ending, hanswered]
    case worker => exact Worker.noConfusion
    case ended => exact fun h => by simp [Life.giveUp, Life.ending, hpassed, ← hended h]
    case cancelled => exact fun h => by simpa [Life.giveUp, hpassed] using hcaller h
  | true =>
    have hover : t.isOver = false := by simpa using (Bool.and_eq_true_iff.mp htaken).1
    let started := (Life.begin t first q s.index).start
    have hstart : Life.Step p (.begin t first q s.index) started := .start rfl rfl hover
    have hstop : Life.Step p (started.giveUp ending cause reply) _ :=
      .stop rfl (.inr (List.mem_append_right _ (List.mem_singleton_self _)))
    refine ⟨_, ((ReflTransGen.single hstart).tail (hgives started rfl rfl rfl)).tail hstop, ?_⟩
    rw [htaken] at hslot
    constructor
    case batch => rfl
    case call => exact hslot.symm
    case events => simp [Life.stop, Life.giveUp, started, Life.start, Life.begin, Life.toCall,
      Call.events, Call.isInterrupted, Life.ending, hanswered]
    case worker => exact Worker.noConfusion
    case ended => exact fun h => by simp [Life.stop, Life.giveUp, Life.ending, hpassed, ← hended h]
    case cancelled => exact fun h => by simpa [Life.stop, Life.giveUp, hpassed] using hcaller h

theorem steps_expired (hruns : t.runsOut = true) (hstate : s.state = .ended)
    (houtcome : s.branch.outcome = .error .timedOut) :
    ∃ l, ReflTransGen (Life.Step False) (.begin t first q s.index) l ∧
      l.EndsLike t first taken s := by
  obtain ⟨reply, hreply⟩ := q.exists_replies
  refine steps_giveUp .expired (.fault .timedOut) ?_ hreply (by decide) ?_ ?_
    (by simp [hstate])
  · rintro l rfl rfl hwaits
    exact .expire hwaits hruns hreply
  · simp [Call.ofSlot, hstate, houtcome]
  · simp [houtcome, CallResult.ofOutcome]

theorem steps_cancelled {p : Prop} (hp : p) (hstate : s.state = .cancelled) :
    ∃ l, ReflTransGen (Life.Step p) (.begin t first q s.index) l ∧
      l.EndsLike t first taken s := by
  obtain ⟨reply, hreply⟩ := q.exists_replies
  refine steps_giveUp .cancelled .cancelled ?_ hreply (by decide) ?_
    (by simp [hstate]) fun _ => ⟨rfl, rfl⟩
  · rintro l rfl rfl hwaits
    exact .cancel hp hwaits hreply
  · simp [Call.ofSlot, hstate]

theorem steps_answered (hover : t.isOver = false) (hbranch : s.branch = q.branch t (taken s.index))
    (hstate : s.state = .ended) {r : CallResult} (hgiven : q.answerIf? (taken s.index) = some r) :
    ∃ l, ReflTransGen (Life.Step False) (.begin t first q s.index) l ∧
      l.EndsLike t first taken s := by
  obtain ⟨htaken, hanswer⟩ := Query.answerIf?_eq_some hgiven
  let started := (Life.begin t first q s.index).start
  have hstart : Life.Step False (.begin t first q s.index) started := .start rfl rfl hover
  have hstop : Life.Step False started started.stop := by
    refine .stop rfl (.inl ?_)
    rw [show started.query = q from rfl, hanswer]
    exact Option.some_ne_none r
  have hend : Life.Step False started.stop (started.stop.answer r) := .answer rfl rfl hanswer
  refine ⟨_, ((ReflTransGen.single hstart).tail hstop).tail hend, ?_⟩
  have houtcome : r = .ofOutcome s.branch.outcome ∧ s.branch.outcome ≠ .error .timedOut :=
    hbranch ▸ (Query.branch_of_answer hover hgiven).2
  constructor
  case batch => rfl
  case call =>
    have hending : (Call.ofSlot t first taken s).ending = .answered := by
      simp only [Call.ofSlot, hstate]
      split
      · contradiction
      · exact absurd ‹_› houtcome.2
      · rfl
    calc
      _ = Call.mk (first + s.index) (!t.isOver && taken s.index) .answered := by
        rw [hover, htaken]
        rfl
      _ = Call.mk (first + s.index) (!t.isOver && taken s.index)
          (Call.ofSlot t first taken s).ending := by rw [hending]
  case events => rfl
  case worker => exact Worker.noConfusion
  case ended => exact fun _ => houtcome.1 ▸ rfl
  case cancelled => simp [hstate]

theorem Timeout.runsOut_of_isOver (h : t.isOver = true) : t.runsOut = true := by
  unfold Timeout.isOver at h
  unfold Timeout.runsOut
  cases t with
  | none => cases h
  | some x =>
    rw [Option.any_some] at h ⊢
    by_contra hinfinite
    obtain rfl : x = .infinity false := by simpa using hinfinite
    exact absurd h (by decide)

/-- A branch that ends on its own, and not only at the very last tick, is a call that does. -/
theorem steps_ended (hbranch : s.branch = q.branch t (taken s.index)) (hstate : s.state = .ended)
    (hticks : s.branch.ticks ≠ 2) :
    ∃ l, ReflTransGen (Life.Step False) (.begin t first q s.index) l ∧
      l.EndsLike t first taken s := by
  cases hover : t.isOver with
  | true =>
    exact steps_expired (Timeout.runsOut_of_isOver hover) hstate
      (by simp [hbranch, Query.branch, hover])
  | false =>
    cases hgiven : q.answerIf? (taken s.index) with
    | some r => exact steps_answered hover hbranch hstate hgiven
    | none =>
      have hslot := hbranch.trans (Query.branch_of_unanswered hover hgiven)
      rw [hslot] at hticks
      exact steps_expired (by simpa using hticks) hstate (by rw [hslot])

end

/-! ### The end of a batch -/

/-- A batch has come to the end at which its calls are. -/
structure Batch.IsEndOf (b : Batch) (lives : List Life) : Prop where
  calls : lives.map Life.toCall = b.calls
  events : ∀ l ∈ lives, l.events = l.toCall.events
  stopped : ∀ l ∈ lives, l.worker ≠ .busy ∧ l.caller ≠ .waiting
  rows : ∀ given, b.outcome = .ok given →
    lives.map Life.caller = given.map fun rows => .ended .answered (.rows rows)
  fault : ∀ f, b.outcome = .error f →
    ∃ l ∈ lives, ∃ ending, l.caller = .ended ending (.fault f)

theorem opened_eq_map {t : Timeout} {first : Nat} {queries : List Query} {q : Nat → Query}
    (hq : ∀ i x, queries[i]? = some x → q i = x) {slots : List (Slot (List Row))}
    {workers : Nat} (hslots : slots.map (fun s => (s.branch, s.index)) =
      (Batch.branches workers t queries).zipIdx) :
    opened t first queries = slots.map fun s => Life.begin t first (q s.index) s.index := by
  have hindices : slots.map (·.index) = queries.zipIdx.map Prod.snd := by
    have hsnd := congrArg (List.map Prod.snd) hslots
    simpa [Batch.branches, List.zipIdx_map_snd, Function.comp_def] using hsnd
  calc opened t first queries
    _ = (queries.zipIdx.map Prod.snd).map fun i => Life.begin t first (q i) i := by
      rw [opened, List.map_map]
      refine List.map_congr_left fun p hp => ?_
      show Life.begin t first p.1 p.2 = Life.begin t first (q p.2) p.2
      rw [hq p.2 p.1 (List.mem_zipIdx_iff_getElem?.mp hp)]
    _ = slots.map fun s => Life.begin t first (q s.index) s.index := by
      rw [← hindices, List.map_map]
      rfl

theorem Batch.getElem?_branches {workers : Nat} {t : Timeout} {queries : List Query} {i : Nat} :
    (Batch.branches workers t queries)[i]? =
      (queries[i]?).map fun q => q.branch t (isTaken workers queries i) := by
  cases h : queries[i]? <;> simp [Batch.branches, h]

theorem Batch.mem_branches {workers : Nat} {t : Timeout} {queries : List Query}
    {b : Branch (List Row)} : b ∈ Batch.branches workers t queries ↔
      ∃ (i : Nat) (q : Query), queries[i]? = some q ∧
        q.branch t (isTaken workers queries i) = b := by
  simp only [List.mem_iff_getElem?, Batch.getElem?_branches, Option.map_eq_some_iff]

theorem Batch.run?_eq_some {workers : Nat} {t : Timeout} {first : Nat} {queries : List Query}
    {b : Batch} (h : Batch.run? workers t first queries = some b) :
    let r := ForkJoin.run (Batch.branches workers t queries)
    (∀ s ∈ r.slots, s.state = .ended → s.branch.ticks ≠ 2) ∧
      b = ⟨r.slots.map (Call.ofSlot t first (isTaken workers queries)), r.result⟩ := by
  simp only [Batch.run?] at h
  split at h
  · cases h
  · rename_i hends
    refine ⟨fun s hs hended hticks => hends (List.any_eq_true.mpr ⟨s, hs, ?_⟩), ?_⟩
    · simp [hended, hticks]
    · exact (Option.some.inj h).symm

theorem Batch.length_calls {workers : Nat} {t : Timeout} {first : Nat} {queries : List Query}
    {b : Batch} (h : Batch.run? workers t first queries = some b) :
    b.calls.length = queries.length := by
  obtain ⟨-, rfl⟩ := Batch.run?_eq_some h
  have hslots := (ForkJoin.run_settled (Batch.branches workers t queries)).2
  simpa [Batch.branches] using congrArg List.length hslots

section

variable {t : Timeout} {taken : Nat → Bool} {slots : List (Slot (List Row))}
  {result : Except Fault (List (List Row))}

/-- A slot that has stopped stands for an end of its call, which needs a failure elsewhere if the
call is cancelled. -/
theorem exists_end {first : Nat} {q : Query} {s : Slot (List Row)} {p : Prop}
    (hbranch : s.branch = q.branch t (taken s.index))
    (hstopped : s.state = .ended ∨ s.state = .cancelled)
    (hticks : s.state = .ended → s.branch.ticks ≠ 2) (hfailed : s.state = .cancelled → p) :
    ∃ l : Life, l.EndsLike t first taken s ∧
      (s.state = .ended → ReflTransGen (Life.Step False) (.begin t first q s.index) l) ∧
      (s.state ≠ .ended → ReflTransGen (Life.Step p) (.begin t first q s.index) l) := by
  rcases hstopped with hstate | hstate
  · obtain ⟨l, hsteps, hl⟩ := steps_ended hbranch hstate (hticks hstate)
    exact ⟨l, hl, fun _ => hsteps, fun hstate' => absurd hstate hstate'⟩
  · obtain ⟨l, hsteps, hl⟩ := steps_cancelled (hfailed hstate) hstate
    exact ⟨l, hl, by simp [hstate], fun _ => hsteps⟩

/-- The calls of slots that have stopped take their steps: first those that end on their own, then,
if one of these has failed, those that are cancelled. -/
theorem Execution.settle {lives : List Life} {q : Nat → Query}
    (h : Execution (lives ++ slots.map fun s => .begin t lives.length (q s.index) s.index))
    (hsettled : Settled slots result)
    (hbranch : ∀ s ∈ slots, s.branch = (q s.index).branch t (taken s.index))
    (hticks : ∀ s ∈ slots, s.state = .ended → s.branch.ticks ≠ 2) :
    ∃ g : Slot (List Row) → Life, (∀ s ∈ slots, (g s).EndsLike t lives.length taken s) ∧
      Execution (lives ++ slots.map g) := by
  let begun (s : Slot (List Row)) : Life := .begin t lives.length (q s.index) s.index
  let anyCancelled := ∃ s ∈ slots, s.state = .cancelled
  have hends : ∀ s, ∃ l, s ∈ slots → l.EndsLike t lives.length taken s ∧
      (s.state = .ended → ReflTransGen (Life.Step False) (begun s) l) ∧
      (s.state ≠ .ended → ReflTransGen (Life.Step anyCancelled) (begun s) l) := by
    intro s
    by_cases hs : s ∈ slots
    · obtain ⟨l, hl⟩ := exists_end (p := anyCancelled) (hbranch s hs) (hsettled.stopped s hs)
        (hticks s hs) fun hstate => ⟨s, hs, hstate⟩
      exact ⟨l, fun _ => hl⟩
    · exact ⟨begun s, fun hs' => absurd hs' hs⟩
  choose g hg using hends
  refine ⟨g, fun s hs => (hg s hs).1, ?_⟩
  let halfway (s : Slot (List Row)) : Life := if s.state = .ended then g s else begun s
  have hbatch : ∀ s ∈ slots, (halfway s).batch = lives.length := by
    intro s hs
    simp only [halfway]
    split
    · exact (hg s hs).1.batch
    · rfl
  have hhalfway : Execution (lives ++ slots.map halfway) := by
    refine h.map_steps (fun s hs => ?_) False.elim
    simp only [halfway]
    split
    · exact (hg s hs).2.1 ‹_›
    · exact .refl
  refine hhalfway.map_steps (p := anyCancelled) (fun s hs => ?_) ?_
  · simp only [halfway]
    split
    · exact .refl
    · exact (hg s hs).2.2 ‹_›
  · rintro ⟨x, hx, hcancelled⟩
    obtain ⟨y, hy, hended, f, hout⟩ := hsettled.exists_failed hx hcancelled
    have hcaller := (hg y hy).1.ended hended
    rw [hout] at hcaller
    refine ⟨g y, ⟨_, f, hcaller⟩, fun s hs => ?_, .inr ⟨y, hy, if_pos hended, rfl⟩⟩
    exact (hbatch s hs).trans (hg y hy).1.batch.symm

theorem Life.EndsLike.caller_ne {first : Nat} {s : Slot (List Row)} {l : Life}
    (h : l.EndsLike t first taken s) (hstopped : s.state = .ended ∨ s.state = .cancelled) :
    l.caller ≠ .waiting := by
  rcases hstopped with hstate | hstate
  · simp [h.ended hstate]
  · simp [h.cancelled hstate]

theorem Life.EndsLike.caller_of_ok {first : Nat} {s : Slot (List Row)} {l : Life}
    (h : l.EndsLike t first taken s) (hstate : s.state = .ended) {rows : List Row}
    (hout : s.branch.outcome = .ok rows) :
    l.caller = .ended .answered (.ofOutcome s.branch.outcome) := by
  have hending : l.ending = (Call.ofSlot t first taken s).ending := congrArg Call.ending h.call
  have hanswered : l.ending = .answered := by simp [hending, Call.ofSlot, hstate, hout]
  rw [← hanswered]
  exact h.ended hstate

theorem isEndOf_map {first : Nat} {g : Slot (List Row) → Life} (hsettled : Settled slots result)
    (hg : ∀ s ∈ slots, (g s).EndsLike t first taken s) :
    Batch.IsEndOf ⟨slots.map (Call.ofSlot t first taken), result⟩ (slots.map g) := by
  constructor
  case calls =>
    rw [List.map_map]
    exact List.map_congr_left fun s hs => (hg s hs).call
  case events =>
    exact List.forall_mem_map.mpr fun s hs => (hg s hs).events
  case stopped =>
    exact List.forall_mem_map.mpr fun s hs =>
      ⟨(hg s hs).worker, (hg s hs).caller_ne (hsettled.stopped s hs)⟩
  case rows =>
    intro given hgiven
    obtain ⟨hended, houtcomes⟩ := hsettled.well given hgiven
    have hcaller : ∀ s ∈ slots,
        (g s).caller = .ended .answered (.ofOutcome s.branch.outcome) := by
      intro s hs
      have hmem : s.branch.outcome ∈ given.map .ok :=
        houtcomes ▸ List.mem_map_of_mem (f := fun s => s.branch.outcome) hs
      obtain ⟨rows, -, hout⟩ := List.mem_map.mp hmem
      exact (hg s hs).caller_of_ok (hended s hs) hout.symm
    calc
      (slots.map g).map Life.caller
        = slots.map fun s => .ended .answered (.ofOutcome s.branch.outcome) := by
          rw [List.map_map]
          exact List.map_congr_left hcaller
      _ = (slots.map (·.branch.outcome)).map fun out => .ended .answered (.ofOutcome out) := by
          rw [List.map_map]
          rfl
      _ = given.map fun rows => .ended .answered (.rows rows) := by
          rw [houtcomes, List.map_map]
          rfl
  case fault =>
    intro f hf
    obtain ⟨s, hs⟩ := hsettled.failed f hf
    have hcaller := (hg s hs.mem).ended hs.ended
    rw [hs.outcome] at hcaller
    exact ⟨g s, List.mem_map_of_mem hs.mem, _, hcaller⟩

end

/-- A batch that is run to its end is an execution. -/
theorem Execution.batch {lives : List Life} (h : Execution lives) {workers : Nat} {t : Timeout}
    {queries : List Query} {b : Batch} (hrun : Batch.run? workers t lives.length queries = some b) :
    ∃ after, Execution (lives ++ after) ∧ b.IsEndOf after := by
  obtain ⟨hticks, rfl⟩ := Batch.run?_eq_some hrun
  obtain ⟨hsettled, hslots⟩ := ForkJoin.run_settled (Batch.branches workers t queries)
  let q (i : Nat) : Query := (queries[i]?).getD ⟨.hangs, false⟩
  have hq : ∀ i x, queries[i]? = some x → q i = x := by
    intro i x hx
    simp [q, hx]
  have hbegun := h.run t queries
  rw [opened_eq_map hq hslots] at hbegun
  have hbranch : ∀ s ∈ (ForkJoin.run (Batch.branches workers t queries)).slots,
      s.branch = (q s.index).branch t (isTaken workers queries s.index) := by
    intro s hs
    have hmem := List.mem_map_of_mem (f := fun s => (s.branch, s.index)) hs
    rw [hslots, List.mem_zipIdx_iff_getElem?, Batch.getElem?_branches,
      Option.map_eq_some_iff] at hmem
    obtain ⟨x, hx, hbranch⟩ := hmem
    rw [hq _ x hx]
    exact hbranch.symm
  obtain ⟨g, hg, hafter⟩ := hbegun.settle hsettled hbranch hticks
  exact ⟨_, hafter, isEndOf_map hsettled hg⟩

/-! ### Batches without an end -/

/-- One of the queries gets no answer, no time runs out, and none of the others fails. -/
structure NeverEnds (workers : Nat) (t : Timeout) (queries : List Query) : Prop where
  time : t.isOver = false
  endless : t.runsOut = false
  unanswered : ∃ (i : Nat) (q : Query), queries[i]? = some q ∧
    q.answerIf? (isTaken workers queries i) = none
  well : ∀ (i : Nat) (q : Query), queries[i]? = some q →
    ∀ f, q.answerIf? (isTaken workers queries i) ≠ some (.fault f)

theorem Query.of_ticks_eq_two {t : Timeout} {taken : Bool} {q : Query}
    (h : (q.branch t taken).ticks = 2) :
    t.isOver = false ∧ t.runsOut = false ∧ q.answerIf? taken = none := by
  cases hover : t.isOver with
  | true => simp [Query.branch, hover] at h
  | false =>
    cases hgiven : q.answerIf? taken with
    | some r => simp [(Query.branch_of_answer hover hgiven).1] at h
    | none =>
      rw [Query.branch_of_unanswered hover hgiven] at h
      simpa using h

theorem Query.answerIf?_of_fails {t : Timeout} {taken : Bool} {q : Query}
    (hover : t.isOver = false) (hfails : (q.branch t taken).fails = true)
    (hwell : ∀ f, q.answerIf? taken ≠ some (.fault f)) : q.answerIf? taken = none := by
  cases hgiven : q.answerIf? taken with
  | none => rfl
  | some r =>
    obtain ⟨-, hr, -⟩ := Query.branch_of_answer hover hgiven
    cases hout : (q.branch t taken).outcome with
    | ok rows => simp [Branch.fails, hout] at hfails
    | error f =>
      rw [hr, hout] at hgiven
      exact absurd hgiven (hwell f)

section

variable {workers : Nat} {t : Timeout} {queries : List Query} {slots : List (Slot (List Row))}
  {result : Except Fault (List (List Row))} (hsettled : Settled slots result)
  (hbranches : ∀ b, b ∈ Batch.branches workers t queries ↔ ∃ s ∈ slots, s.branch = b)
include hsettled hbranches

theorem neverEnds_of_slot {s : Slot (List Row)} (hs : s ∈ slots) (hended : s.state = .ended)
    (hticks : s.branch.ticks = 2) : NeverEnds workers t queries := by
  obtain ⟨i, q, hq, hbranch⟩ := Batch.mem_branches.mp ((hbranches s.branch).mpr ⟨s, hs, rfl⟩)
  obtain ⟨hover, hendless, hunanswered⟩ := Query.of_ticks_eq_two (hbranch ▸ hticks)
  refine ⟨hover, hendless, ⟨i, q, hq, hunanswered⟩, fun i' q' hq' f hgiven => ?_⟩
  -- a query that fails does so at once, which would have cancelled the one without an answer
  obtain ⟨x, hx, hbranch'⟩ := (hbranches _).mp (Batch.mem_branches.mpr ⟨i', q', hq', rfl⟩)
  obtain ⟨hnow, hr, -⟩ := Query.branch_of_answer hover hgiven
  have hfails : x.branch.fails = true := by
    rw [hbranch']
    cases hout : (q'.branch t (isTaken workers queries i')).outcome with
    | ok rows => simp [hout, CallResult.ofOutcome] at hr
    | error g => exact Branch.fails_of_outcome hout
  obtain ⟨d, g, hd⟩ := hsettled.exists_decides hx hfails
  have hfirst := hd.first x hx hfails
  have hlast := hd.last s hs hended
  rw [hbranch'] at hfirst
  omega

theorem NeverEnds.exists_slot (h : NeverEnds workers t queries) :
    ∃ s ∈ slots, s.state = .ended ∧ s.branch.ticks = 2 := by
  obtain ⟨i, q, hq, hunanswered⟩ := h.unanswered
  obtain ⟨s, hs, hbranch⟩ := (hbranches _).mp (Batch.mem_branches.mpr ⟨i, q, hq, rfl⟩)
  have hfails : s.branch.fails = true := by
    rw [hbranch, Query.branch_of_unanswered h.time hunanswered]
    rfl
  obtain ⟨x, f, hx⟩ := hsettled.exists_decides hs hfails
  obtain ⟨i', q', hq', hbranch'⟩ :=
    Batch.mem_branches.mp ((hbranches x.branch).mpr ⟨x, hx.mem, rfl⟩)
  have hunanswered' : q'.answerIf? (isTaken workers queries i') = none :=
    Query.answerIf?_of_fails h.time (hbranch' ▸ Branch.fails_of_outcome hx.outcome)
      (h.well i' q' hq')
  refine ⟨x, hx.mem, hx.ended, ?_⟩
  rw [← hbranch', Query.branch_of_unanswered h.time hunanswered', h.endless]
  rfl

end

/-- A batch is run to its end unless it never ends. -/
theorem Batch.run?_eq_none_iff {workers : Nat} {t : Timeout} {first : Nat} {queries : List Query} :
    Batch.run? workers t first queries = none ↔ NeverEnds workers t queries := by
  have hsettled := (ForkJoin.run_settled (Batch.branches workers t queries)).1
  have hbranches := ForkJoin.mem_iff_run (Batch.branches workers t queries)
  constructor
  · intro hrun
    simp only [Batch.run?, ite_eq_left_iff, reduceCtorEq, imp_false, not_not] at hrun
    obtain ⟨s, hs, hended⟩ := List.any_eq_true.mp hrun
    simp only [Bool.and_eq_true, beq_iff_eq] at hended
    exact neverEnds_of_slot hsettled hbranches hs hended.2 hended.1
  · intro h
    obtain ⟨s, hs, hended, hticks⟩ := h.exists_slot hsettled hbranches
    simp only [Batch.run?]
    rw [if_pos (List.any_eq_true.mpr ⟨s, hs, by simp [hended, hticks]⟩)]

/-! ### Sessions -/

/-- Runs batches one after the other, each with its own time; there is no end if one has none. -/
def Connection.session? (c : Connection) : List (Timeout × Nat) → Option (List Batch)
  | [] => some []
  | (t, count) :: rest => do
    let first ← (c.run? t count).2
    let later ← (c.run? t count).1.session? rest
    return first :: later

theorem Execution.session {lives : List Life} (h : Execution lives) {c : Connection}
    (hopened : c.opened = lives.length) {runs : List (Timeout × Nat)} {batches : List Batch}
    (hrun : c.session? runs = some batches) :
    ∃ after, Execution (lives ++ after.flatten) ∧ List.Forall₂ Batch.IsEndOf batches after := by
  induction runs generalizing c lives batches with
  | nil =>
    obtain rfl := Option.some.inj hrun
    exact ⟨[], by simpa using h, .nil⟩
  | cons run rest ih =>
    obtain ⟨t, count⟩ := run
    simp only [Connection.session?, Option.bind_eq_bind, Option.bind_eq_some_iff] at hrun
    obtain ⟨first, hfirst, later, hlater, hbatches⟩ := hrun
    obtain rfl := Option.some.inj hbatches
    rw [Connection.run?, hopened] at hfirst
    obtain ⟨lives₁, h₁, hend⟩ := h.batch hfirst
    have hlength : (c.run? t count).1.opened = (lives ++ lives₁).length := by
      have hcount : lives₁.length = count := by
        rw [← List.length_map Life.toCall, hend.calls, Batch.length_calls hfirst]
        simp
      simp [Connection.run?, hopened, hcount]
    obtain ⟨after, hafter, hends⟩ := ih h₁ hlength hlater
    refine ⟨lives₁ :: after, ?_, .cons hend hends⟩
    rwa [List.flatten_cons, ← List.append_assoc]

/-- What holds of the calls of a connection at any time, which batches come to an end, and how. -/
theorem Execution.life_cycle {lives : List Life} (h : Execution lives) :
    (∀ (i : Nat) (l : Life), lives[i]? = some l → l.cursor = i ∧ l.Orderly) ∧
    (∀ l ∈ lives, l.ending = .cancelled → SiblingFailed lives l) ∧
    (∀ (workers : Nat) (t : Timeout) (queries : List Query),
      Batch.run? workers t lives.length queries = none ↔ NeverEnds workers t queries) ∧
    ∀ (c : Connection) (runs : List (Timeout × Nat)) (batches : List Batch),
      c.opened = lives.length → c.session? runs = some batches →
      ∃ after, Execution (lives ++ after.flatten) ∧ List.Forall₂ Batch.IsEndOf batches after := by
  refine ⟨fun i l hl => ?_, h.siblingFailed, fun _ _ _ => Batch.run?_eq_none_iff,
    fun c runs batches hopened hrun => ?_⟩
  · obtain ⟨hcursor, hsound⟩ := h.sound i l hl
    exact ⟨hcursor, hsound.orderly⟩
  · exact h.session hopened hrun

/-- A query that hangs and reports an error when it is interrupted, and one that fails. -/
def hangsAndFails : List Query :=
  [⟨.hangs, true⟩, ⟨.fails "CatalogException" "no such table", false⟩]

/-- The end of both as a batch after two other calls. -/
def hangsAndFailsEnd : Batch :=
  { calls := [⟨2, true, .cancelled⟩, ⟨3, true, .answered⟩]
    outcome := .error (.warehouse "CatalogException" "no such table") }

theorem life_cycle_hangsAndFails :
    Execution (opened none 0 hangsAndFails) ∧
      (Connection.mk 2 (hangsAndFails ++ hangsAndFails) 2).session? [(none, 2)] =
        some [hangsAndFailsEnd] ∧
      ∃ after, Execution (opened none 0 hangsAndFails ++ after.flatten) ∧
        List.Forall₂ Batch.IsEndOf [hangsAndFailsEnd] after := by
  have h : Execution (opened none 0 hangsAndFails) := Execution.nothing.run none hangsAndFails
  have hsession : (Connection.mk 2 (hangsAndFails ++ hangsAndFails) 2).session? [(none, 2)] =
      some [hangsAndFailsEnd] := rfl
  exact ⟨h, hsession, (Execution.life_cycle h).2.2.2 _ _ _ rfl hsession⟩

/-- A query without any time to run is interrupted, but its cursor stays open. -/
theorem not_closed_without_time :
    ∃ b, Batch.run? 1 (some .zero) 0 [⟨.rows [] [], false⟩] = some b ∧
      b.events = [.opened 0, .interrupted 0] ∧ b.outcome = .error .timedOut :=
  ⟨_, rfl, rfl, rfl⟩

/-- So does that of a query which waits for the only worker until its time is over. -/
example :
    let time : Timeout := some (.finite false ⟨1, by decide⟩)
    ∃ b, Batch.run? 1 time 0 [⟨.hangs, false⟩, ⟨.rows [] [], false⟩] = some b ∧
      b.events = [.opened 0, .interrupted 0, .closed 0, .opened 1, .interrupted 1] :=
  ⟨_, rfl, rfl⟩

end SplitTest.Warehouse
