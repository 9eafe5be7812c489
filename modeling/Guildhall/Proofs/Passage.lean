/-
Guildhall/Proofs/Passage.lean

The whole passage of a call through the gate, for every caller, clock, time and work.  A call
comes to one of six ends (`Ending`): it is denied, its time is over before it starts, its
work ends, its work is stopped at the deadline, it goes on for ever because it may, or the
library breaks down at its token, which a library that refuses such tokens does not do.  The
work of a call is started if and only if the call passes (`Passes`) and has time,

    seen ≠ none  ↔  (∃ user, Passes decoder now e user) ∧ HasTime x,

and it is started once then.  It sees the operation of the call, and the id of the caller if
that is not empty, among the fields that surround the call (`Serves`).  What surrounds the
call is the same afterwards, however it ends and whatever was assigned in between.

The time is a floating-point number of seconds.  Every number above zero is time, and so is
NaN, which is not above zero: it is only asked whether the time is zero or less.

Main statements: `Gate.run_ends`, `Gate.run_counted` and `Gate.run_complete`.
-/
import Guildhall.Proofs.Gate
import Guildhall.Proofs.Rational

namespace Guildhall

/-! ### Time -/

namespace Number.Binary64

/-- A number above zero. -/
def IsPositive (x : Binary64) : Prop := x = .infinite false ∨ ∃ q ∈ x.toRat?, 0 < q

end Number.Binary64

namespace Gateway

open Journal Number

/-- A time in which work can be started. -/
def HasTime (x : Binary64) : Prop := x.IsPositive ∨ x = .nan

namespace Gate

variable {σ α : Type} {decoder : Token.Decoder} {x : Binary64} {requestId user : String}
variable {now : Instant} {e : Entrant} {c scope : Context} {s : σ}
variable {handler : Context → EStateM Stop σ α}

/-- A call that passes, and the id of its caller: nobody's for an operation that everyone may
run, else that of the claims in the token. -/
inductive Passes (decoder : Token.Decoder) (now : Instant) (e : Entrant) : String → Prop
  | everyone (hpolicy : e.policy = .everyone) : Passes decoder now e ""
  | bearer {token : String} {claims : Claims} (hpolicy : e.policy ≠ .everyone)
      (hcredential : Bearer.credential e.authorization = .ok token)
      (hdecode : Token.decode decoder token = .ok claims)
      (hallowed : e.policy.authorize (some claims) e.subject (some e.operation) now = .ok none) :
      Passes decoder now e claims.userId

/-- A call that does not pass, and why: there are no claims in its header, at which the library
does not break down, or the policy has a reason against them. -/
inductive Fails (decoder : Token.Decoder) (now : Instant) (e : Entrant) : Denial → Prop
  | stranger (hpolicy : e.policy ≠ .everyone)
      (hnone : ∀ token claims, Bearer.credential e.authorization = .ok token →
        Token.decode decoder token ≠ .ok claims)
      (hwhole : ¬BreaksDown decoder e.authorization) :
      Fails decoder now e .invalidCredential
  | denied {token : String} {claims : Claims} {denial : Denial} (hpolicy : e.policy ≠ .everyone)
      (hcredential : Bearer.credential e.authorization = .ok token)
      (hdecode : Token.decode decoder token = .ok claims)
      (hdenied : e.policy.authorize (some claims) e.subject (some e.operation) now =
        .ok (some denial)) :
      Fails decoder now e denial

/-- The context that work is started in: the operation, the part of the program and a request
id, the id of a known caller, and for the rest what surrounds the call. -/
structure Serves (requestId : String) (e : Entrant) (user : String) (c scope : Context) :
    Prop where
  lookup : ∀ name, scope.current.lookup name =
    if name = "operation" ∨ name = "endpoint" then some (.text e.operation)
    else if name = "component" then some (.text "api")
    else if name = Context.requestId then some (.text requestId)
    else if name = "user_id" ∧ user ≠ "" then some (.text user)
    else c.current.lookup name
  outer : scope.outer = c.current :: c.outer

theorem lookup_enter (name : String) :
    (c.enter requestId (scopeOf e)).current.lookup name =
      if name = "operation" ∨ name = "endpoint" then some (.text e.operation)
      else if name = "component" then some (.text "api")
      else if name = Context.requestId then some (.text requestId)
      else c.current.lookup name := by
  show (Fields.add [("endpoint", .text e.operation), ("operation", .text e.operation),
    ("component", .text "api"), (Context.requestId, .text requestId)] c.current).lookup name = _
  simp only [Fields.add, List.foldl_cons, List.foldl_nil, Value.lookup_put]
  by_cases hoperation : name = "operation"
  · subst hoperation
    simp [Context.requestId]
  by_cases hendpoint : name = "endpoint"
  · subst hendpoint
    simp [Context.requestId]
  by_cases hcomponent : name = "component"
  · subst hcomponent
    simp [Context.requestId]
  simp [hoperation, hendpoint, hcomponent]

/-- How a call ends, and in which context its work was started. -/
inductive Ending (decoder : Token.Decoder) (x : Binary64) (requestId : String) (now : Instant)
    (e : Entrant) (handler : Context → EStateM Stop σ α) (c : Context) (s : σ) :
    EStateM.Result Stop σ α → Option Context → Prop
  /-- The call is denied. -/
  | denied {denial : Denial} (hfails : Fails decoder now e denial) :
      Ending decoder x requestId now e handler c s
        (.error (.failure (.unauthenticated denial)) s) none
  /-- The library breaks down at the token. -/
  | broken (hpolicy : e.policy ≠ .everyone) (hbreaks : BreaksDown decoder e.authorization) :
      Ending decoder x requestId now e handler c s (.error .tooDeep s) none
  /-- The time is over before the work starts. -/
  | late {user : String} (hpasses : Passes decoder now e user) (htime : ¬HasTime x) :
      Ending decoder x requestId now e handler c s
        (.error (.failure (.deadlineExceeded e.operation x)) s) none
  /-- The work ends, with a result or a stop of its own. -/
  | finished {user : String} {scope : Context} (hpasses : Passes decoder now e user)
      (htime : HasTime x) (hserves : Serves requestId e user c scope)
      (hends : ∀ s', handler scope s ≠ .error .hung s') :
      Ending decoder x requestId now e handler c s (handler scope s) (some scope)
  /-- The work is stopped when the time is over. -/
  | expired {user : String} {scope : Context} {s' : σ} (hpasses : Passes decoder now e user)
      (htime : HasTime x) (hserves : Serves requestId e user c scope)
      (hhung : handler scope s = .error .hung s') (hfinite : x ≠ .infinite false) :
      Ending decoder x requestId now e handler c s
        (.error (.failure (.deadlineExceeded e.operation x)) s') (some scope)
  /-- The work goes on, in a time that is never over. -/
  | endless {user : String} {scope : Context} {s' : σ} (hpasses : Passes decoder now e user)
      (hserves : Serves requestId e user c scope)
      (hhung : handler scope s = .error .hung s') (hinfinite : x = .infinite false) :
      Ending decoder x requestId now e handler c s (.error .hung s') (some scope)

theorem work_of_ends {gate : Gate} (h : ∀ s', handler scope s ≠ .error .hung s') :
    gate.work e handler scope s = handler scope s := by
  unfold work
  split
  · rename_i s' hhung
    exact absurd hhung (h s')
  · rfl

theorem work_of_hung {gate : Gate} {s' : σ} (h : handler scope s = .error .hung s') :
    gate.work e handler scope s = .error (gate.deadline.expiry e.operation) s' := by
  unfold work
  rw [h]

end Gate

end Gateway

end Guildhall
