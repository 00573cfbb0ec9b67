import Mathlib.Data.List.Count
import Mathlib.Logic.Relation
import SplitTest.Warehouse.Runner

/-! The life of a call.  Its caller opens a cursor and hands the query to a worker; the caller ends
with the answer, when its time is over, or because another call of its batch has failed, and in the
latter two cases it interrupts the cursor.  The worker closes the cursor when it stops.  The two
take their steps in any order.  A worker that has not started when the caller ends never does: there
was no time to run at all, or all workers were busy until then. -/

namespace SplitTest.Warehouse

/-- What a worker is at. -/
inductive Worker
  | idle
  | busy
  | stopped
  deriving DecidableEq

/-- What a call ends with for its caller. -/
inductive CallResult
  | rows (rows : List Row)
  | fault (f : Fault)
  | cancelled

/-- What the caller of a call is at. -/
inductive Caller
  | waiting
  | ended (ending : CallEnd) (result : CallResult)

/-- The answer to a query; one that hangs has none. -/
def Query.answer? (q : Query) : Option CallResult :=
  match q.response with
  | .rows columns rows => some (.rows (textRows columns rows))
  | .fails kind message => some (.fault (.warehouse kind message))
  | .hangs => none

/-- The answer to a query if a worker takes it. -/
def Query.answerIf? (taken : Bool) (q : Query) : Option CallResult :=
  if taken then q.answer? else none

theorem Query.answerIf?_eq_some {taken : Bool} {q : Query} {r : CallResult}
    (h : q.answerIf? taken = some r) : taken = true ∧ q.answer? = some r := by
  cases taken with
  | false => cases h
  | true => exact ⟨rfl, h⟩

/-- What the warehouse may say to an interruption: nothing, or an error, which it reports too if the
cursor is closed. -/
inductive Query.Replies (q : Query) : Option Fault → Prop
  | accepts (h : q.refusesInterrupt = false) : q.Replies none
  | refuses (kind message : String) : q.Replies (some (.warehouse kind message))

/-- A call on its way. -/
structure Life where
  timeout : Timeout
  query : Query
  /-- The first cursor of the batch that the call belongs to. -/
  batch : Nat
  cursor : Nat
  worker : Worker
  caller : Caller
  /-- What has happened to the cursor so far, in order. -/
  events : List CursorEvent

/-- The cursor that something happens to. -/
def CursorEvent.cursor : CursorEvent → Nat
  | opened n | interrupted n | closed n => n

namespace Life

/-- A call that has just opened its cursor. -/
def begin (t : Timeout) (first : Nat) (q : Query) (index : Nat) : Life :=
  { timeout := t, query := q, batch := first, cursor := first + index, worker := .idle
    caller := .waiting, events := [.opened (first + index)] }

def IsInterrupted (l : Life) : Prop := .interrupted l.cursor ∈ l.events

/-- The worker starts. -/
def start (l : Life) : Life :=
  { l with worker := .busy }

/-- The worker stops. -/
def stop (l : Life) : Life :=
  { l with worker := .stopped, events := l.events ++ [.closed l.cursor] }

/-- The caller has its answer. -/
def answer (l : Life) (r : CallResult) : Life :=
  { l with caller := .ended .answered r }

/-- What is passed on when the reply to an interruption may be an error: an error of the warehouse
is dropped. -/
def passedOn (cause : CallResult) : Option Fault → CallResult
  | some (.warehouse _ _) => cause
  | some f => .fault f
  | none => cause

/-- The caller interrupts the cursor and ends. -/
def giveUp (l : Life) (ending : CallEnd) (cause : CallResult) (reply : Option Fault) : Life :=
  { l with
    caller := .ended ending (passedOn cause reply)
    events := l.events ++ [.interrupted l.cursor] }

/-- The steps of a call.  `siblingFailed` says that another call of its batch has failed. -/
inductive Step (siblingFailed : Prop) : Life → Life → Prop
  | start {l : Life} (hworker : l.worker = .idle) (hwaits : l.caller = .waiting)
      (htime : l.timeout.isOver = false) : Step siblingFailed l l.start
  | stop {l : Life} (hworker : l.worker = .busy)
      (hends : l.query.answer? ≠ none ∨ l.IsInterrupted) : Step siblingFailed l l.stop
  | answer {l : Life} {r : CallResult} (hworker : l.worker = .stopped)
      (hwaits : l.caller = .waiting) (hanswer : l.query.answer? = some r) :
      Step siblingFailed l (l.answer r)
  | expire {l : Life} {reply : Option Fault} (hwaits : l.caller = .waiting)
      (htime : l.timeout.runsOut = true) (hreply : l.query.Replies reply) :
      Step siblingFailed l (l.giveUp .expired (.fault .timedOut) reply)
  | cancel {l : Life} {reply : Option Fault} (hfailed : siblingFailed)
      (hwaits : l.caller = .waiting) (hreply : l.query.Replies reply) :
      Step siblingFailed l (l.giveUp .cancelled .cancelled reply)

/-- How the call has ended; one that waits has not been interrupted either. -/
def ending (l : Life) : CallEnd :=
  match l.caller with
  | .waiting => .answered
  | .ended ending _ => ending

/-- The call as it has come to an end. -/
def toCall (l : Life) : Call :=
  { cursor := l.cursor, started := l.worker = .stopped, ending := l.ending }

/-- What the caller is told fits how the call has ended. -/
def FitsEnding (l : Life) : CallEnd → CallResult → Prop
  | .answered, r => l.worker = .stopped ∧ l.query.answer? = some r
  | .expired, r => r = .fault .timedOut
  | .cancelled, r => r = .cancelled

/-- What holds of a call at every step: the events are, up to their order, those of the call, and no
error about an interruption reaches the caller. -/
structure Sound (l : Life) : Prop where
  events : l.events.Perm l.toCall.events
  idle : l.timeout.isOver = true → l.worker = .idle
  result : ∀ ending r, l.caller = .ended ending r → l.FitsEnding ending r

theorem passedOn_of_replies {q : Query} {reply : Option Fault} (h : q.Replies reply)
    (cause : CallResult) : passedOn cause reply = cause := by
  cases h <;> rfl

theorem Sound.begin (t : Timeout) (first : Nat) (q : Query) (index : Nat) :
    (begin t first q index).Sound where
  events := .refl _
  idle := fun _ => rfl
  result := fun _ _ h => nomatch h

theorem toCall_events (l : Life) : l.toCall.events = .opened l.cursor ::
    ((if l.ending = .answered then [] else [.interrupted l.cursor]) ++
      if l.worker = .stopped then [.closed l.cursor] else []) := by
  cases hending : l.ending <;> simp [Call.events, Call.isInterrupted, toCall, hending]

theorem ending_of_waiting {l : Life} (h : l.caller = .waiting) : l.ending = .answered := by
  rw [ending, h]

theorem Sound.stop {l : Life} (h : l.Sound) (hworker : l.worker = .busy) : l.stop.Sound where
  events := by
    have hevents := h.events.append_right [.closed l.cursor]
    rw [toCall_events, hworker] at hevents
    rw [toCall_events, show l.stop.ending = l.ending from rfl]
    simpa [Life.stop] using hevents
  idle hover := by
    have hidle := h.idle hover
    simp [hworker] at hidle
  result ending r hcaller := by
    have hfits := h.result ending r hcaller
    cases ending with
    | answered => exact ⟨rfl, hfits.2⟩
    | expired => exact hfits
    | cancelled => exact hfits

theorem Sound.giveUp {l : Life} (h : l.Sound) (hwaits : l.caller = .waiting)
    {reply : Option Fault} (hreply : l.query.Replies reply) {ending : CallEnd} {cause : CallResult}
    (hending : ending ≠ .answered) (hfits : l.FitsEnding ending cause) :
    (l.giveUp ending cause reply).Sound where
  events := by
    have hevents := h.events.append_right [.interrupted l.cursor]
    rw [toCall_events, ending_of_waiting hwaits] at hevents
    rw [toCall_events]
    refine hevents.trans ?_
    -- a worker that has stopped has closed the cursor before it is interrupted
    by_cases hstopped : l.worker = .stopped
    · simpa [Life.giveUp, Life.ending, hending, hstopped] using List.Perm.swap _ _ _
    · simp [Life.giveUp, Life.ending, hending, hstopped]
  idle := h.idle
  result := by
    rintro _ _ ⟨⟩
    rw [passedOn_of_replies hreply]
    cases ending with
    | answered => exact absurd rfl hending
    | expired => exact hfits
    | cancelled => exact hfits

theorem Sound.start {l : Life} (h : l.Sound) (hworker : l.worker = .idle)
    (hwaits : l.caller = .waiting) (htime : l.timeout.isOver = false) : l.start.Sound where
  events := by
    have hevents := h.events
    rw [toCall_events, ending_of_waiting hwaits, hworker] at hevents
    rw [toCall_events, show l.start.ending = l.ending from rfl, ending_of_waiting hwaits]
    exact hevents
  idle hover := Bool.noConfusion (htime.symm.trans hover)
  result ending r hcaller := nomatch hwaits.symm.trans hcaller

theorem Sound.answer {l : Life} (h : l.Sound) (hworker : l.worker = .stopped)
    (hwaits : l.caller = .waiting) {r : CallResult} (hanswer : l.query.answer? = some r) :
    (l.answer r).Sound where
  events := by
    have hevents := h.events
    rw [toCall_events, ending_of_waiting hwaits] at hevents
    rw [toCall_events]
    exact hevents
  idle := h.idle
  result := by
    rintro _ _ ⟨⟩
    exact ⟨hworker, hanswer⟩

/-- Every step keeps a call sound. -/
theorem Sound.step {p : Prop} {l l' : Life} (h : l.Sound) (hstep : Step p l l') : l'.Sound := by
  cases hstep with
  | start hworker hwaits htime => exact h.start hworker hwaits htime
  | stop hworker _ => exact h.stop hworker
  | answer hworker hwaits hanswer => exact h.answer hworker hwaits hanswer
  | expire hwaits _ hreply => exact h.giveUp hwaits hreply (by decide) rfl
  | cancel _ hwaits hreply => exact h.giveUp hwaits hreply (by decide) rfl

theorem Step.kept {p : Prop} {l l' : Life} (h : Step p l l') :
    l'.cursor = l.cursor ∧ l'.batch = l.batch := by
  cases h <;> exact ⟨rfl, rfl⟩

/-- A caller that has ended takes no further step. -/
theorem Step.caller_of_ended {p : Prop} {l l' : Life} (h : Step p l l') {ending : CallEnd}
    {r : CallResult} (hended : l.caller = .ended ending r) : l'.caller = .ended ending r := by
  cases h with
  | start => exact hended
  | stop => exact hended
  | answer _ hwaits => exact nomatch hwaits.symm.trans hended
  | expire hwaits => exact nomatch hwaits.symm.trans hended
  | cancel _ hwaits => exact nomatch hwaits.symm.trans hended

/-- A worker that has not started when the caller has ended never does. -/
theorem Step.not_idle {p : Prop} {l l' : Life} (h : Step p l l') (hended : l.caller ≠ .waiting) :
    l.worker ≠ .idle := by
  cases h with
  | start _ hwaits => exact absurd hwaits hended
  | stop hworker =>
    rw [hworker]
    exact Worker.noConfusion
  | answer _ hwaits => exact absurd hwaits hended
  | expire hwaits => exact absurd hwaits hended
  | cancel _ hwaits => exact absurd hwaits hended

/-- What the cursor of a call has gone through at any time, and what its caller is told. -/
structure Orderly (l : Life) : Prop where
  opened : l.events.count (.opened l.cursor) = 1
  /-- The cursor is closed once, by its worker when it stops. -/
  closed : l.events.count (.closed l.cursor) = if l.worker = .stopped then 1 else 0
  interrupted : l.events.count (.interrupted l.cursor) = if l.ending = .answered then 0 else 1
  own : ∀ e ∈ l.events, e.cursor = l.cursor
  /-- Without any time to run the worker never starts. -/
  idle : l.timeout.isOver = true → l.worker = .idle
  /-- Nor does it start after the caller has given up; the cursor then stays open. -/
  unstarted : l.caller ≠ .waiting → l.worker = .idle →
    l.IsInterrupted ∧ .closed l.cursor ∉ l.events ∧ ∀ p l', ¬Step p l l'
  result : ∀ ending r, l.caller = .ended ending r → l.FitsEnding ending r
  /-- A worker that is still busy when the caller has ended is interrupted, and can stop. -/
  stops : l.caller ≠ .waiting → l.worker = .busy → l.IsInterrupted ∧ ∀ p, Step p l l.stop

theorem Sound.orderly {l : Life} (h : l.Sound) : l.Orderly := by
  have hevents := h.events
  rw [toCall_events] at hevents
  have hinterrupted : l.ending ≠ .answered → l.IsInterrupted := by
    intro hending
    refine hevents.mem_iff.mpr ?_
    simp [hending]
  have hclosed : l.events.count (.closed l.cursor) = if l.worker = .stopped then 1 else 0 := by
    rw [hevents.count_eq]
    split <;> split <;> simp
  have hgaveUp : l.caller ≠ .waiting → l.worker ≠ .stopped → l.ending ≠ .answered := by
    intro hended hworker hanswered
    cases hcaller : l.caller with
    | waiting => exact hended hcaller
    | ended ending r =>
      obtain rfl : ending = .answered := by rwa [Life.ending, hcaller] at hanswered
      exact hworker (h.result _ _ hcaller).1
  constructor
  case opened =>
    rw [hevents.count_eq]
    split <;> split <;> simp
  case closed => exact hclosed
  case interrupted =>
    rw [hevents.count_eq]
    split <;> split <;> simp
  case own =>
    intro e he
    have hmem := hevents.mem_iff.mp he
    simp only [List.mem_cons, List.mem_append] at hmem
    rcases hmem with rfl | hmem | hmem
    · rfl
    · split at hmem <;> simp_all [CursorEvent.cursor]
    · split at hmem <;> simp_all [CursorEvent.cursor]
  case idle => exact h.idle
  case unstarted =>
    intro hended hidle
    refine ⟨hinterrupted (hgaveUp hended (by simp [hidle])), ?_, fun p l' hstep =>
      hstep.not_idle hended hidle⟩
    rw [← List.count_eq_zero, hclosed, hidle]
    rfl
  case result => exact h.result
  case stops =>
    intro hended hbusy
    have hmem := hinterrupted (hgaveUp hended (by simp [hbusy]))
    exact ⟨hmem, fun p => .stop hbusy (.inr hmem)⟩

end Life

end SplitTest.Warehouse
