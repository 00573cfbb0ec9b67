import SplitTest.Proofs.ForkJoin.Outcome
import SplitTest.Proofs.Schema.Minimal
import SplitTest.Proofs.Session.Batch
import SplitTest.Session.Order

/-! Sessions, order by order.  What comes of an order depends on the source, on the order with what
it takes of its occasion, and on the answers to its own queries, which follow those to the queries
of all orders before it.  The delays of these answers matter only where one is an error, and then
only to which error comes first. -/

namespace SplitTest

/-! ### Occasions -/

/-- What a plan leads to with the answers to its queries. -/
def Plan.done (plan : Plan) (answers : List (Branch (List Row))) : Step :=
  match (ForkJoin.run answers).result with
  | .error f => ⟨plan.queries, plan.log, .error f⟩
  | .ok rows => ⟨plan.queries, plan.log ++ (plan.conclude rows).log, (plan.conclude rows).outcome⟩

@[simp] theorem Plan.done_queries (plan : Plan) (answers : List (Branch (List Row))) :
    (plan.done answers).queries = plan.queries := by
  unfold Plan.done
  split <;> rfl

namespace Session

variable {s s' : Session}

theorem step_of_error {request : Request} {f : Fault}
    (h : Plan.ofRequest s.source request = .error f) :
    s.step request = (s, ⟨[], [], .error f⟩) := by
  simp [step, h]

theorem step_of_ok {request : Request} {plan : Plan}
    (h : Plan.ofRequest s.source request = .ok plan) :
    s.step request = ({ s with sent := s.sent + plan.queries.length },
      plan.done (s.nextAnswers plan.queries.length)) := by
  cases hresult : (ForkJoin.run (s.nextAnswers plan.queries.length)).result with
  | error f => simp only [step, h, Plan.done, hresult]
  | ok rows => simp only [step, h, Plan.done, hresult]

theorem obey_of_ok {turn : Turn} {request : Request} (h : turn.request = .ok request) :
    s.obey turn = ((s.step request).1, .of request (s.step request).2) := by
  simp [obey, h]

/-- Orders that ask for requests are carried out as the session runs these. -/
theorem carryOut_of_requests {turns : List Turn} {requests : List Request}
    (h : List.Forall₂ (fun turn request => turn.request = .ok request) turns requests) :
    (s.carryOut turns).map (·.step) = s.run requests := by
  induction h generalizing s with
  | nil => rfl
  | cons hread _ ih =>
    rw [carryOut, List.map_cons, ih, obey_of_ok hread]
    rfl

end Session

end SplitTest
