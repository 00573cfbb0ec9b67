import SplitTest.ForkJoin
import SplitTest.Log
import SplitTest.Results.Cell
import SplitTest.Warehouse.Cell

/-! Queries on cursors.  Each query has a cursor of its own and is handed to a pool of workers; the
worker that takes it closes the cursor when it stops.  A query for which no worker is free waits.  A
query that takes longer than allowed, or that is cancelled because another of its batch fails, is
interrupted.  If no worker has taken it by then, as is always so without any time to run, none does
later, and its cursor stays open.  An error of the warehouse about the interruption itself is
dropped. -/

namespace SplitTest.Warehouse

/-- What the warehouse does with a query. -/
inductive Response
  | rows (columns : List String) (rows : List (List Value))
  | fails (kind message : String)
  /-- The query is busy until it is interrupted. -/
  | hangs

/-- A query as the warehouse meets it. -/
structure Query where
  response : Response
  /-- Whether the warehouse reports an error when the query is interrupted. -/
  refusesInterrupt : Bool

/-- How long a query may take, in seconds. -/
abbrev Timeout := Option Double

/-- Whether there is no time to run at all. -/
def Timeout.isOver (t : Timeout) : Bool :=
  t.any fun x => x.isNegative || x.isZero

/-- Whether the time runs out some day; an infinite time does not. -/
def Timeout.runsOut (t : Timeout) : Bool :=
  t.any fun x => x != .infinity false

/-- The rows of an answer as texts, each cell under its column. -/
def textRows (columns : List String) (rows : List (List Value)) : List Row :=
  rows.map fun cells => Value.dedupe (columns.zip (cells.map cellText))

def Query.hangs (q : Query) : Bool :=
  match q.response with
  | .hangs => true
  | _ => false

/-- Whether a worker takes the query at a position at once.  Queries are taken in their order, and a
worker that meets one that hangs does not get free again. -/
def isTaken (workers : Nat) (queries : List Query) (position : Nat) : Bool :=
  (queries.take position).countP Query.hangs < workers

/-- A query as a branch.  Answers come at once; a query that hangs or that no worker takes ends with
its time, and one that nothing ends stands at the very last tick. -/
def Query.branch (t : Timeout) (taken : Bool) (q : Query) : Branch (List Row) :=
  let unanswered : Branch (List Row) := ⟨if t.runsOut then 1 else 2, .error .timedOut⟩
  if t.isOver then ⟨0, .error .timedOut⟩
  else if taken then
    match q.response with
    | .rows columns rows => ⟨0, .ok (textRows columns rows)⟩
    | .fails kind message => ⟨0, .error (.warehouse kind message)⟩
    | .hangs => unanswered
  else unanswered

inductive CallEnd
  /-- The warehouse answers, with rows or an error. -/
  | answered
  /-- Its time runs out. -/
  | expired
  /-- Another call of its batch fails. -/
  | cancelled
  deriving DecidableEq

/-- A call that has ended. -/
structure Call where
  cursor : Nat
  /-- Whether its worker has started. -/
  started : Bool
  ending : CallEnd
  deriving DecidableEq

/-- What happens to a cursor. -/
inductive CursorEvent
  | opened (cursor : Nat)
  | interrupted (cursor : Nat)
  | closed (cursor : Nat)
  deriving DecidableEq

namespace Call

/-- Whether the call's query is interrupted. -/
def isInterrupted (c : Call) : Bool :=
  c.ending != .answered

/-- What happens to the cursor of a call until its worker has stopped. -/
def events (c : Call) : List CursorEvent :=
  [.opened c.cursor] ++ (if c.isInterrupted then [.interrupted c.cursor] else []) ++
    (if c.started then [.closed c.cursor] else [])

/-- The call of a branch that has run, where `taken` tells which queries a worker takes at once. -/
def ofSlot (t : Timeout) (first : Nat) (taken : Nat → Bool) (s : ForkJoin.Slot (List Row)) : Call :=
  { cursor := first + s.index
    started := !t.isOver && taken s.index
    ending :=
      match s.state, s.branch.outcome with
      | .cancelled, _ => .cancelled
      | _, .error .timedOut => .expired
      | _, _ => .answered }

end Call

/-- A batch that has ended. -/
structure Batch where
  calls : List Call
  outcome : Except Fault (List (List Row))

namespace Batch

/-- The queries as branches. -/
def branches (workers : Nat) (t : Timeout) (queries : List Query) : List (Branch (List Row)) :=
  queries.zipIdx.map fun (q, i) => q.branch t (isTaken workers queries i)

/-- Runs queries side by side on new cursors, the first of them with number `first`.  There is no
end if a query gets no answer, its time does not run out and none of the others fails. -/
def run? (workers : Nat) (t : Timeout) (first : Nat) (queries : List Query) : Option Batch :=
  let r := ForkJoin.run (branches workers t queries)
  if r.slots.any fun s => s.branch.ticks == 2 && s.state == .ended then none
  else some ⟨r.slots.map (Call.ofSlot t first (isTaken workers queries)), r.result⟩

/-- What happens to the cursors of a batch. -/
def events (b : Batch) : List CursorEvent :=
  b.calls.flatMap Call.events

/-- The entry about a query whose time has run out. -/
def expiry (t : Timeout) : LogEntry :=
  ⟨.warning, "Query exceeded " ++ (t.map Double.text).getD "None" ++ "s timeout, interrupting"⟩

def log (t : Timeout) (b : Batch) : List LogEntry :=
  (b.calls.filter (·.ending == .expired)).map fun _ => expiry t

end Batch

/-- A connection: the number of workers in its pool, what the warehouse does with the queries to
come, by the number of the cursor, and the number of cursors opened. -/
structure Connection where
  workers : Nat
  queries : List Query
  opened : Nat

namespace Connection

/-- The query of a cursor; one that nothing is known of has no columns and no rows. -/
def query (c : Connection) (cursor : Nat) : Query :=
  (c.queries[cursor]?).getD ⟨.rows [] [], false⟩

/-- Runs a number of queries side by side. -/
def run? (c : Connection) (t : Timeout) (count : Nat) : Connection × Option Batch :=
  ({ c with opened := c.opened + count },
    Batch.run? c.workers t c.opened ((List.range count).map fun i => c.query (c.opened + i)))

end Connection

end SplitTest.Warehouse
