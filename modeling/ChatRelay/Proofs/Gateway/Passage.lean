/-
  The passage of a request through the gateway.

  A request that reaches a route (`Reaches`) is answered by what the route ends in, with
  header fields added, and counted once by the status of that (`handle_of_reaches`).  What the
  routes do for the relay is answered by `relayed`: with the response that a computation gives,
  as far as it can be written, or by the category of its failure (`exec_ofRelay`).
-/
import ChatRelay.Gateway.Handle
import ChatRelay.Proofs.Connector.Attempt

namespace ChatRelay.Gateway

/-! ## Requests that reach a route -/

/-- The request is posted to a route, is not too large, and there is time to answer it. -/
structure Reaches (g : Gateway) (c : Conditions) (r : Request) (route : Route) : Prop where
  posted : r.method = "POST"
  found : resolve r.method r.target.path = .found route
  sized : isTooLarge c.settings r = .ok false
  timed : leavesNoTime g.timeLimit = false

/-- The status by which a request is counted: a server error if its route gives no response. -/
def countedStatus : Except Collapse Response → Nat
  | .ok response => response.status
  | .error _ => 500

/-- The history after the request was counted. -/
def counted (r : Request) (route : Route) (e : Except Collapse Response) (h : History) : History :=
  { h with trace := h.trace ++ [.count (.requested r.method route.template (countedStatus e))] }

/-- The response with the fields that name the time it took and the request. -/
def named (c : Conditions) (r : Request) (response : Response) : Response :=
  (response.withFields [(elapsedField, toString c.elapsed)]).withFields
    [(requestIdField, (r.filled? requestIdField).getD c.identifier)]

/-- What comes of a request within the time limit, by what its route ends in. -/
def inTime (g : Gateway) (c : Conditions) (r : Request) :
    Except Collapse Response → Except Collapse Response
  | .ok response => .ok (named c r response)
  | .error .overdue => .ok (givenUp g.timeLimit)
  | .error .crash => .error .crash

/-- The response, or that to a request without one. -/
def orCrashed : Except Collapse Response → Response
  | .ok response => response
  | .error _ => crashed

/-- The response to a request by what its route ends in. -/
def answered (g : Gateway) (c : Conditions) (r : Request) : Except Collapse Response → Response
  | .ok response => g.origins.mark r (named c r response)
  | .error .overdue => g.origins.mark r (givenUp g.timeLimit)
  | .error .crash => crashed

section Passage

variable {g : Gateway} {c : Conditions} {r : Request} {route : Route}

theorem exec_serveCounted {h h' : History} {e : Except Collapse Response}
    (hfound : resolve r.method r.target.path = .found route)
    (hserve : exec (route.serve c r) h = (e, h')) :
    exec (serveCounted c r) h =
      (e.map (·.withFields [(elapsedField, toString c.elapsed)]), counted r route e h') := by
  unfold serveCounted
  simp only [hfound, dispatch, exec_bind, exec_tryCatch, hserve]
  rcases e with e | response <;> rfl

theorem exec_serveNamed {h h' : History} {e : Except Collapse Response}
    (hfound : resolve r.method r.target.path = .found route)
    (hserve : exec (route.serve c r) h = (e, h')) :
    exec (serveNamed c r) h = (e.map (named c r), counted r route e h') := by
  refine (exec_bind_pure (exec_serveCounted hfound hserve)).trans ?_
  rw [except_map_map]
  rfl

theorem exec_serveInTime {h h' : History} {e : Except Collapse Response}
    (hr : Reaches g c r route) (hserve : exec (route.serve c r) h = (e, h')) :
    exec (serveInTime g c r) h = (inTime g c r e, counted r route e h') := by
  unfold serveInTime
  simp only [hr.timed, Bool.false_eq_true, if_false, exec_bind, exec_tryCatch,
    exec_serveNamed hr.found hserve]
  rcases e with (_ | _) | response <;> rfl

/-- **A request that reaches a route is answered by what the route ends in**, and counted. -/
theorem handle_of_reaches {h h' : History} {e : Except Collapse Response}
    (hr : Reaches g c r route) (hserve : exec (route.serve c r) h = (e, h')) :
    (handle g c r).run h = (answered g c r e, counted r route e h') := by
  have hadvance : g.origins.answerInAdvance? r = none := by
    unfold Origins.answerInAdvance?
    rw [hr.posted]
    rfl
  have horigins : exec (serveOrigins g c r) h =
      ((inTime g c r e).map (g.origins.mark r), counted r route e h') := by
    unfold serveOrigins
    rw [hadvance]
    exact exec_bind_pure (exec_serveInTime hr hserve)
  have hserved : exec (serve g c r) h = exec (serveOrigins g c r) h := by
    unfold serve
    rw [hr.sized]
  have hhead : ¬ r.method = "HEAD" := by
    rw [hr.posted]
    decide
  have hhandle : (handle g c r).run h =
      (orCrashed (exec (serve g c r) h).1, (exec (serve g c r) h).2) := by
    unfold handle
    simp only [if_neg hhead]
    rfl
  rw [hhandle, hserved, horigins]
  rcases e with (_ | _) | response <;> rfl

theorem mark_eq (o : Origins) (response : Response) :
    (o.mark r response).status = response.status ∧ (o.mark r response).body = response.body := by
  unfold Origins.mark
  split <;> exact ⟨rfl, rfl⟩

theorem status_answered (response : Response) :
    (answered g c r (.ok response)).status = response.status :=
  (mark_eq g.origins _).1

theorem body_answered (response : Response) :
    (answered g c r (.ok response)).body = response.body :=
  (mark_eq g.origins _).2

end Passage

/-! ## What the routes do for the relay -/

/-- What a route ends in, by what a computation of the relay gives. -/
def relayed (limits : Limits) (frame : Nat) :
    Except Failure Response → Except Collapse Response
  | .ok response =>
    if response.isWithin (frame + limits.levels) then .ok response.finitePart else .error .crash
  | .error f => match Failure.answer? f with
    | some response => .ok response
    | none => .error (Failure.collapse f)

/-- **What a computation of the relay gives is answered**, and the history is the one it leaves. -/
theorem exec_ofRelay {m : Relay Response} {h h' : History} {e : Except Failure Response}
    (hm : exec m h = (e, h')) (limits : Limits) (frame : Nat) :
    exec (Serving.ofRelay limits frame m) h = (relayed limits frame e, h') := by
  have hlift : exec (ε := Collapse) (ExceptT.lift m.run) h = (.ok e, h') := by
    rw [exec_lift, show m.run.run h = (e, h') from hm]
  unfold Serving.ofRelay
  rw [exec_bind_ok hlift]
  rcases e with f | response
  · unfold relayed
    dsimp only
    cases Failure.answer? f <;> rfl
  · unfold relayed
    dsimp only
    split <;> rfl

end ChatRelay.Gateway
