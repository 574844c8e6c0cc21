import Dialogue.Action.Remote

/-!
# Computations that ask an executor

An `Inquiry` is a computation with its requests laid open.  Its `result` is what comes out
of it when an executor answers, and its `requests` are what that executor was asked on the
way.  The result depends on the executor only through the answers to these requests.
-/

namespace Dialogue

/-- What an executor is asked. -/
structure Request where
  /-- The action to run. -/
  action : String
  /-- The conversation as it would be. -/
  query : Tracker

/-- A computation that may ask an executor before it has a result. -/
inductive Inquiry (α : Type) where
  | done (result : α)
  | ask (request : Request) (next : Except ActionError ActionResponse → Inquiry α)

namespace Inquiry

variable {α β : Type}

/-- Goes on with the result. -/
def bind (inquiry : Inquiry α) (next : α → Inquiry β) : Inquiry β :=
  match inquiry with
  | .done result => next result
  | .ask request answered => .ask request fun answer => (answered answer).bind next

instance : Monad Inquiry where
  pure := done
  bind := bind

section

variable (executor : Executor) (domain : Domain)

/-- The result when an executor answers. -/
def result : Inquiry α → α
  | .done result => result
  | .ask request next => (next (executor request.action request.query domain)).result

/-- The requests that an executor gets, in order. -/
def requests : Inquiry α → List Request
  | .done _ => []
  | .ask request next =>
      request :: (next (executor request.action request.query domain)).requests

theorem result_bind (inquiry : Inquiry α) (next : α → Inquiry β) :
    (inquiry >>= next).result executor domain =
      (next (inquiry.result executor domain)).result executor domain := by
  induction inquiry with
  | done value => rfl
  | ask request answered ih => exact ih _

variable {executor domain}

end

end Inquiry

/-- A custom action asks for its answer. -/
def RemoteAction.inquiry (action : RemoteAction) (domain : Domain) (query : Tracker) :
    Inquiry (Except ActionError ActionOutcome) :=
  .ask ⟨action.name, query⟩ fun answer => pure (action.run (fun _ _ _ => answer) query domain)

theorem RemoteAction.result_inquiry (action : RemoteAction) (executor : Executor)
    (domain : Domain) (query : Tracker) :
    (action.inquiry domain query).result executor domain = action.run executor query domain :=
  rfl

end Dialogue
