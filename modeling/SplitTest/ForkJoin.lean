import SplitTest.Fault

/-! Branches that run side by side until all have ended or one has failed.  Time is counted in
ticks: a branch ends on its own when its ticks have passed.  Branches that are due at the same time
end in the order in which they were started.  When a branch fails, those that are not due by then
are cancelled and the first failure is the failure of the whole. -/

namespace SplitTest

/-- A branch: when it ends, and how. -/
structure Branch (α : Type) where
  ticks : Nat
  outcome : Except Fault α

inductive BranchState
  | waiting
  | ended
  | cancelled
  deriving DecidableEq

/-- A branch ended on its own. -/
structure BranchEnd where
  index : Nat
  failed : Bool
  deriving DecidableEq

namespace Branch

variable {α : Type}

/-- Whether a branch ends with a failure. -/
def fails (t : Branch α) : Bool :=
  match t.outcome with
  | .ok _ => false
  | .error _ => true

end Branch

namespace ForkJoin

variable {α : Type}

/-- A started branch, by its position. -/
structure Slot (α : Type) where
  index : Nat
  branch : Branch α
  state : BranchState

/-- All branches and what has happened so far. -/
structure Run (α : Type) where
  slots : List (Slot α)
  log : List BranchEnd
  failure : Option Fault

def start (branches : List (Branch α)) : Run α :=
  { slots := branches.zipIdx.map fun (branch, index) => ⟨index, branch, .waiting⟩
    log := []
    failure := none }

/-- A slot that waits until a time. -/
def Slot.isDue (time : Nat) (s : Slot α) : Bool :=
  s.state = .waiting && s.branch.ticks ≤ time

/-- The next time at which a branch is due. -/
def Run.nextTime? (r : Run α) : Option Nat :=
  ((r.slots.filter (·.state = .waiting)).map (·.branch.ticks)).min?

/-- A slot after a time has come. -/
def Slot.pass (time : Nat) (s : Slot α) : Slot α :=
  if s.isDue time then { s with state := .ended } else s

/-- A slot after a failure elsewhere. -/
def Slot.cancel (s : Slot α) : Slot α :=
  if s.state = .waiting then { s with state := .cancelled } else s

def firstFailure (slots : List (Slot α)) : Option Fault :=
  slots.findSome? fun s =>
    match s.branch.outcome with
    | .ok _ => none
    | .error f => some f

/-- Lets the branches that are due at a time end, and cancels the others if one of them fails. -/
def Run.advance (r : Run α) (time : Nat) : Run α :=
  let due := r.slots.filter (·.isDue time)
  let log := r.log ++ due.map fun s => ⟨s.index, s.branch.fails⟩
  let slots := r.slots.map (·.pass time)
  match firstFailure due with
  | none => { slots, log, failure := r.failure }
  | some f => { slots := slots.map Slot.cancel, log, failure := some f }

/-- Lets time go on until no branch waits.  `fuel` bounds the number of times at which branches
end. -/
def Run.finish : (fuel : Nat) → Run α → Run α
  | 0, r => r
  | fuel + 1, r =>
    match r.nextTime? with
    | none => r
    | some time => finish fuel (r.advance time)

/-- The values of slots that ended well. -/
def values (slots : List (Slot α)) : List α :=
  slots.filterMap fun s => s.branch.outcome.toOption

/-- The run of branches to its end. -/
def run (branches : List (Branch α)) : Run α :=
  (start branches).finish branches.length

/-- The values in the order of the branches, or the first failure. -/
def Run.result (r : Run α) : Except Fault (List α) :=
  match r.failure with
  | none => .ok (values r.slots)
  | some f => .error f

/-- The positions of the cancelled branches. -/
def Run.cancelled (r : Run α) : List Nat :=
  (r.slots.filter (·.state = .cancelled)).map (·.index)

end ForkJoin

end SplitTest
