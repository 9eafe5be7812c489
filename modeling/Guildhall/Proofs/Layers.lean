/-
Guildhall/Proofs/Layers.lean

The gateway in layers.  The routes make a response of a request, or something is raised
in them.  Around the routes stand the handlers of what is meant to be raised there, around
these the layer that forbids to store whatever comes by, and outermost the handler of
everything else:

    respond  =  settled ∘ forbidden ∘ handled ∘ routed.

So whether a response may be stored depends on nothing but the place of the handler that
wrote it, and what comes out of the routes without having been raised is always marked:

    (layered inside x).cacheHeader? = some cacheControl  ↔
      every thing raised in x has its handler inside.

Main statements: `Outcome.cacheHeader?_layered` and `respond_eq_layered`.
-/
import Guildhall.Gateway

namespace Guildhall.Gateway

open Journal (Context)

/-! ### What is raised, and who handles it -/

/-- What is raised while a request is served. -/
inductive Raised
  /-- The path leads nowhere. -/
  | nowhere
  /-- The path is there for another method. -/
  | otherMethod (allowed : String)
  /-- The body is refused. -/
  | refused (refusal : Refusal)
  /-- The call ended without a result. -/
  | stopped (stop : Stop)

/-- Who makes a response of what is raised. -/
inductive Handler
  | ofFailures
  | ofOutages
  /-- The handler of bodies that do not fit their schema. -/
  | ofBodies
  /-- The handler of requests that cannot be understood: of their path, their method, or
  the bytes of their body. -/
  | ofRequests
  /-- The handler of everything that no other one takes. -/
  | ofAnything
  deriving DecidableEq

/-- The handlers that stand inside of the layer that forbids storing: all but the one of
what nobody else takes. -/
def Handler.isInside (h : Handler) : Bool := h != .ofAnything

/-- A response on which it is written that it must not be stored. -/
def Response.marked (r : Response) : Response := { r with forbidsStoring := true }

/-- A response on which nothing of the kind is written. -/
def Response.unmarked (r : Response) : Response := { r with forbidsStoring := false }

namespace Raised

/-- The handler of what is raised. -/
def handler : Raised → Handler
  | .nowhere | .otherMethod _ | .refused .unreadable => .ofRequests
  | .refused _ => .ofBodies
  | .stopped (.failure _) => .ofFailures
  | .stopped (.outage _) => .ofOutages
  | .stopped _ => .ofAnything

/-- The response that the handler makes of what is raised. -/
def response : Raised → Response
  | .nowhere => Response.notFound.unmarked
  | .otherMethod allowed => (Response.methodNotAllowed allowed).unmarked
  | .refused refusal => (Response.ofRefusal refusal).unmarked
  | .stopped stop => (Response.ofStop stop).unmarked

/-- What a call raises is handled inside if the gateway foresees it. -/
theorem isInside_stopped (stop : Stop) :
    (stopped stop).handler.isInside = stop.isForeseen := by
  cases stop <;> rfl

end Raised

/-! ### The layers -/

/-- What is on its way out: a response, or something that is raised. -/
abbrev Outcome := Except Raised Response

namespace Outcome

/-- The handlers inside take what is theirs. -/
def handled (inside : Handler → Bool) : Outcome → Outcome
  | .ok response => .ok response
  | .error raised => if inside raised.handler then .ok raised.response else .error raised

/-- Every response that comes by is marked. -/
def forbidden : Outcome → Outcome
  | .ok response => .ok response.marked
  | .error raised => .error raised

/-- Outside, everything that is still raised is handled. -/
def settled : Outcome → Response
  | .ok response => response
  | .error raised => raised.response

/-- The response that leaves the layers, if some of the handlers are inside. -/
def layered (inside : Handler → Bool) (x : Outcome) : Response :=
  (x.handled inside).forbidden.settled

theorem layered_ok (inside : Handler → Bool) (response : Response) :
    layered inside (.ok response) = response.marked := rfl

theorem layered_inside {inside : Handler → Bool} {raised : Raised}
    (h : inside raised.handler = true) :
    layered inside (.error raised) = raised.response.marked := by
  unfold layered handled
  dsimp only
  rw [if_pos h]
  rfl

theorem layered_outside {inside : Handler → Bool} {raised : Raised}
    (h : inside raised.handler = false) : layered inside (.error raised) = raised.response := by
  unfold layered handled
  dsimp only
  rw [h]
  rfl

/-- No handler marks its response. -/
theorem forbidsStoring_response (raised : Raised) : raised.response.forbidsStoring = false := by
  cases raised <;> rfl

/-- **A response is marked unless it is written outside.** -/
theorem cacheHeader?_layered (inside : Handler → Bool) (x : Outcome) :
    (x.layered inside).cacheHeader? = some Response.cacheControl ↔
      ∀ raised, x = .error raised → inside raised.handler = true := by
  cases x with
  | ok response =>
    rw [layered_ok]
    exact iff_of_true rfl nofun
  | error raised =>
    cases hinside : inside raised.handler with
    | true =>
      rw [layered_inside hinside]
      refine iff_of_true rfl ?_
      rintro _ ⟨⟩
      exact hinside
    | false =>
      rw [layered_outside hinside]
      refine iff_of_false ?_ fun h => Bool.false_ne_true (hinside.symm.trans (h raised rfl))
      unfold Response.cacheHeader?
      rw [forbidsStoring_response]
      nofun

end Outcome

/-! ### The routes -/

variable {g : Gateway} {m : Moment} {r : Request} {d : Desk}

/-- What the routes make of a request, and the desk that they leave. -/
def routed (g : Gateway) (m : Moment) (r : Request) (d : Desk) : Outcome × Desk :=
  let target := Target.ofRaw r.target
  match g.route r.method target.path with
  | .found e parameters =>
    match fieldsOf e r with
    | .error refusal => (.error (.refused refusal), d)
    | .ok fields =>
      let handler (_ : Context) : Session Answer :=
        g.service.perform m (e.call parameters fields)
      match (g.gate.run r.id m.now (entrant e parameters r) handler {} d).result with
      | .ok answer d' => (.ok (Response.ok (e.shown answer)).unmarked, d')
      | .error stop d' => (.error (.stopped stop), d')
  | .otherMethod allowed => (.error (.otherMethod allowed), d)
  | .elsewhere path =>
    (.ok (Response.redirect (Target.address r.host path target.query)).unmarked, d)
  | .nowhere => (.error .nowhere, d)

/-- The response to a stop is the one of the layers. -/
theorem layered_stopped (stop : Stop) :
    Outcome.layered Handler.isInside (.error (.stopped stop)) = .ofStop stop := by
  have hinside := Raised.isInside_stopped stop
  cases hforeseen : stop.isForeseen with
  | true =>
    rw [Outcome.layered_inside (hinside.trans hforeseen)]
    show { Response.ofStop stop with forbidsStoring := true } = _
    rw [← hforeseen]
    rfl
  | false =>
    rw [Outcome.layered_outside (hinside.trans hforeseen)]
    show { Response.ofStop stop with forbidsStoring := false } = _
    rw [← hforeseen]
    rfl

/-- **The gateway answers a request through its layers.** -/
theorem respond_eq_layered (g : Gateway) (m : Moment) (r : Request) (d : Desk) :
    g.respond m r d = ((g.routed m r d).1.layered Handler.isInside, (g.routed m r d).2) := by
  unfold respond routed
  dsimp only
  cases g.route r.method (Target.ofRaw r.target).path with
  | nowhere => rfl
  | otherMethod allowed => rfl
  | elsewhere path => rfl
  | found e parameters =>
    dsimp only
    unfold serve
    cases fieldsOf e r with
    | error refusal => cases refusal <;> rfl
    | ok fields =>
      dsimp only
      cases (g.gate.run r.id m.now (entrant e parameters r)
          (fun _ => g.service.perform m (e.call parameters fields)) {} d).result with
      | ok answer d' => rfl
      | error stop d' => exact congrArg (·, d') (layered_stopped stop).symm

end Guildhall.Gateway
