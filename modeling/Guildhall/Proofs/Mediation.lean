/-
Guildhall/Proofs/Mediation.lean

Nothing happens behind the back of the gate.  A request that finds an endpoint
is served in one of five ways (`Served`): its body is refused, the gate denies
it, the library breaks down at its token, its call is stopped, or its call is
answered.  The last two are for callers only who may run the operation: it is
public, or the credential of the request holds claims that permit the operation
on the user in the path (`Gateway.Authorizes`).  The table of the operations,
and not the endpoint, says which policy that is; so an endpoint under a wrong
name, or one that forgets to say whom it is about, would be found here.

Main statements: `Gateway.served` and `Gateway.complete_mediation`.
-/
import Guildhall.Proofs.Atomicity
import Guildhall.Proofs.Gate

namespace Guildhall

/-! ### Calls -/

/-- The operation that a call is. -/
def Call.operation : Call → String
  | .register .. => "Users/Create"
  | .login .. => "Users/Login"
  | .listUsers => "Users/List"
  | .readUser _ => "Users/Read"
  | .updateUser => "Users/Update"
  | .deleteUser _ => "Users/Delete"
  | .grant .. => "Users/GrantCurrencies"
  | .version => "UsersService/GetVersion"
  | .createItem _ => "StoreItems/Create"
  | .listItems => "StoreItems/List"
  | .readItem _ => "StoreItems/Read"
  | .updateItem .. => "StoreItems/Update"
  | .deleteItem _ => "StoreItems/Delete"
  | .buy .. => "StoreItems/BuyByUser"
  | .equip .. => "StoreItems/EquipByUser"
  | .throwAway .. => "StoreItems/ThrowAwayByUser"
  | .userItems _ => "StoreItems/GetUserItemsIds"
  | .equippedItems _ => "StoreItems/GetEquippedUserItemsIds"
  | .readStats _ => "UsersStats/GetStats"
  | .addStats .. => "UsersStats/UpdateStats"
  | .createNews .. => "NewsService/Create"
  | .readNews _ => "NewsService/Read"
  | .listNews => "NewsService/List"
  | .updateNews .. => "NewsService/Update"

/-- The user on whom a call works, if it works on one whom it names. -/
def Call.user? : Call → Option Value
  | .readUser user | .deleteUser user | .grant user _ _ | .buy user _ | .equip user _
  | .throwAway user _ | .userItems user | .equippedItems user => some user
  | _ => none

/-! ### Endpoints -/

namespace Gateway.Endpoint

variable {e : Endpoint} {parameters : List String} {fields : List (String × Value)}

/-- The user in the path of an endpoint: the part after `users`, if it may be anything. -/
def userInPath (e : Endpoint) (parameters : List String) : Option String :=
  match e.path with
  | .fixed name :: .parameter :: _ => if name = "users" then parameters.head? else none
  | _ => none

/-- The gate is told of the user in the path. -/
theorem subject_entrant (r : Request) :
    (entrant e parameters r).subject = e.userInPath parameters := by
  cases e <;> rfl

/-- The policy of an endpoint is that of its operation. -/
theorem lookup_operation : operationPolicies.lookup e.operation = some e.policy := by
  cases e <;> rfl

/-- The endpoints of the public operations are those with the public policy. -/
theorem policy_eq_everyone : e.policy = .everyone ↔ e.operation ∈ publicOperations := by
  cases e <;> decide

/-- The gate sees the credential of whoever needs one. -/
theorem authorization_entrant (h : e.policy ≠ .everyone) (parameters : List String)
    (r : Request) :
    (entrant e parameters r).authorization = r.authorization := by
  have htakes : e.takesCredential = true := by
    revert h
    cases e <;> decide
  exact if_pos htakes

/-- The call of an endpoint is the operation that the gate was asked about. -/
theorem operation_call : (e.call parameters fields).operation = e.operation := by
  cases e <;> rfl

/-- A path by its pattern, with its parameters filled in. -/
def filled : List Segment → List String → List Char
  | .fixed name :: pattern, ps => '/' :: (name.toList ++ filled pattern ps)
  | .parameter :: pattern, p :: ps => '/' :: (p.toList ++ filled pattern ps)
  | _, _ => []

/-- A path that begins with a fixed part, and goes on with the rest of its pattern. -/
theorem parameters?_fixed {name : String} {pattern : List Segment} {cs : List Char}
    (h : parameters? (.fixed name :: pattern) cs = some parameters) :
    ∃ rest, cs = '/' :: (name.toList ++ rest) ∧ parameters? pattern rest = some parameters := by
  unfold parameters? at h
  split at h
  · rename_i hnil
    cases hnil
  · rename_i hsegment
    obtain ⟨hname, rfl⟩ := List.cons.inj hsegment
    obtain rfl := Segment.fixed.inj hname
    obtain ⟨rest, hafter, hrest⟩ := Option.bind_eq_some_iff.1 h
    exact ⟨rest, by rw [Text.after?_eq_some_iff.1 hafter], hrest⟩
  · rename_i hsegment
    cases (List.cons.inj hsegment).1
  · cases h

/-- A path that begins with a parameter, and goes on with the rest of its pattern. -/
theorem parameters?_parameter {pattern : List Segment} {cs : List Char}
    (h : parameters? (.parameter :: pattern) cs = some parameters) :
    ∃ value ps rest, parameters = value :: ps ∧ cs = '/' :: (value.toList ++ rest) ∧
      parameters? pattern rest = some ps := by
  unfold parameters? at h
  split at h
  · rename_i hnil
    cases hnil
  · rename_i hsegment
    cases (List.cons.inj hsegment).1
  · rename_i rest hsegment
    obtain rfl := (List.cons.inj hsegment).2
    dsimp only at h
    split at h
    · cases h
    · obtain ⟨ps, hps, rfl⟩ := Option.map_eq_some_iff.1 h
      refine ⟨_, ps, _, rfl, ?_, hps⟩
      rw [String.toList_ofList, List.takeWhile_append_dropWhile]
  · cases h

/-- The parameters of a path are those with which its pattern gives the path, up to a
line feed at the end. -/
theorem parameters?_eq_some {pattern : List Segment} {cs : List Char}
    (h : parameters? pattern cs = some parameters) :
    parameters.length = pattern.count .parameter ∧
      (cs = filled pattern parameters ∨ cs = filled pattern parameters ++ ['\n']) := by
  induction pattern generalizing cs parameters with
  | nil =>
    unfold parameters? at h
    split at h
    · rename_i hend
      obtain rfl := Option.some.inj h
      rw [Bool.or_eq_true, List.isEmpty_iff, decide_eq_true_eq] at hend
      exact ⟨rfl, hend⟩
    · cases h
  | cons segment pattern ih =>
    cases segment with
    | fixed name =>
      obtain ⟨rest, rfl, hrest⟩ := parameters?_fixed h
      obtain ⟨hlength, hfilled⟩ := ih hrest
      refine ⟨hlength, ?_⟩
      rcases hfilled with rfl | rfl
      · exact .inl rfl
      · exact .inr (by simp [filled])
    | parameter =>
      obtain ⟨value, ps, rest, rfl, rfl, hrest⟩ := parameters?_parameter h
      obtain ⟨hlength, hfilled⟩ := ih hrest
      refine ⟨by rw [List.length_cons, hlength, List.count_cons_self], ?_⟩
      rcases hfilled with rfl | rfl
      · exact .inl rfl
      · exact .inr (by simp [filled])

theorem user?_call {v : Value} (h : (e.call parameters fields).user? = some v) :
    e.isAboutUser = true ∧ v = .text (parameters.head?.getD "") := by
  cases e <;> cases h <;> exact ⟨rfl, rfl⟩

/-- **The call of an endpoint works on the user in the path**, if on any. -/
theorem user_call {v : Value} (hlength : parameters.length = e.path.count .parameter)
    (h : (e.call parameters fields).user? = some v) :
    ∃ id, e.userInPath parameters = some id ∧ v = .text id := by
  obtain ⟨habout, rfl⟩ := user?_call h
  have hpos : 0 < e.path.count .parameter := by
    revert habout
    cases e <;> decide
  cases parameters with
  | nil => exact absurd hlength (Nat.ne_of_lt hpos)
  | cons id rest =>
    refine ⟨id, ?_, rfl⟩
    revert habout
    cases e <;> first | exact fun _ => rfl | exact fun h => nomatch h

end Gateway.Endpoint

/-! ### Permission -/

/-- What it takes for claims to permit an operation on a subject. -/
structure Claims.Permit (c : Claims) (now : Instant) (operation : String)
    (subject : Option String) : Prop where
  inTime : now ≤ c.expiresAt
  privileged : operation ∈ privilegedOperations →
    c.isAdmin = true ∨ Claims.serviceAudience ∈ c.audience
  policy : ∃ policy, operationPolicies.lookup operation = some policy ∧ policy.Holds c subject

namespace Gateway

variable {g : Gateway} {m : Moment} {r : Request} {d : Desk} {e : Endpoint}
  {parameters : List String}

/-- **Where a request is routed to**: the path is that of the endpoint, with the
parameters filled in. -/
theorem route_eq_found {method : String} {path : List Char}
    (h : g.route method path = .found e parameters) :
    e.method = method ∧ parameters.length = e.path.count .parameter ∧
      (path = g.start.toList ++ Endpoint.filled e.path parameters ∨
        path = g.start.toList ++ (Endpoint.filled e.path parameters ++ ['\n'])) := by
  have hfind : g.find? method path = some (e, parameters) := by
    unfold route at h
    split at h
    · rename_i hfound
      cases h
      exact hfound
    · split at h
      · cases h
      · dsimp only at h
        split at h <;> cases h
  obtain ⟨e', -, he⟩ := List.exists_of_findSome?_eq_some hfind
  split at he
  · rename_i hmethod
    obtain ⟨ps, hmatch, hpair⟩ := Option.map_eq_some_iff.1 he
    cases hpair
    obtain ⟨rest, hafter, hrest⟩ := Option.bind_eq_some_iff.1 hmatch
    obtain ⟨hlength, hfilled⟩ := Endpoint.parameters?_eq_some hrest
    refine ⟨hmethod, hlength, ?_⟩
    rw [Text.after?_eq_some_iff.1 hafter]
    rcases hfilled with rfl | rfl
    · exact .inl rfl
    · exact .inr rfl
  · cases he

/-- A request authorizes the operation of an endpoint: its header yields a token, the
decoder finds claims in the token, and they permit the operation on the user in the
path. -/
def Authorizes (g : Gateway) (now : Instant) (e : Endpoint) (parameters : List String)
    (r : Request) : Prop :=
  ∃ token c, Bearer.credential r.authorization = .ok token ∧
    Token.decode g.gate.decoder token = .ok c ∧
    c.Permit now e.operation (e.userInPath parameters)

/-- **The gate admits those who are authorized**, and no others, to an operation that is
not public. -/
theorem admits_iff {scope : Journal.Context} (hpublic : e.operation ∉ publicOperations) :
    (g.gate.screen m.now (entrant e parameters r) scope).1 = .ok () ↔
      g.Authorizes m.now e parameters r := by
  have hpolicy : e.policy ≠ .everyone := fun h => hpublic (Endpoint.policy_eq_everyone.1 h)
  have hentrant : (entrant e parameters r).policy ≠ .everyone := hpolicy
  have hpermit : ∀ c : Claims,
      Policy.enforce e.policy (some c) (entrant e parameters r).subject (some e.operation) m.now =
        .ok () ↔ c.Permit m.now e.operation (e.userInPath parameters) := by
    intro c
    rw [Policy.enforce_eq_ok, Policy.authorize_eq_none hpolicy hpublic, Endpoint.subject_entrant]
    constructor
    · rintro ⟨hnow, hprivileged, hholds⟩
      exact ⟨hnow, hprivileged, e.policy, Endpoint.lookup_operation, hholds⟩
    · rintro ⟨hnow, hprivileged, policy, hlookup, hholds⟩
      obtain rfl := Option.some.inj (Endpoint.lookup_operation.symm.trans hlookup)
      exact ⟨hnow, hprivileged, hholds⟩
  constructor
  · intro h
    obtain ⟨token, c, htoken, hdecode, henforce, -⟩ :=
      (Gate.screen_eq_ok hentrant).1 (Prod.ext h rfl)
    rw [Endpoint.authorization_entrant hpolicy parameters r] at htoken
    exact ⟨token, c, htoken, hdecode, (hpermit c).1 henforce⟩
  · rintro ⟨token, c, htoken, hdecode, hc⟩
    rw [← Endpoint.authorization_entrant hpolicy parameters r] at htoken
    exact congrArg Prod.fst
      ((Gate.screen_eq_ok hentrant).2 ⟨token, c, htoken, hdecode, (hpermit c).2 hc, rfl⟩)

/-! ### Serving -/

/-- Who may run the operation of an endpoint: everybody if it is public, and otherwise
those who are authorized. -/
def Admits (g : Gateway) (now : Instant) (e : Endpoint) (parameters : List String)
    (r : Request) : Prop :=
  e.operation ∈ publicOperations ∨ g.Authorizes now e parameters r

/-- All that can come of serving an endpoint. -/
inductive Served (g : Gateway) (m : Moment) (e : Endpoint) (parameters : List String)
    (r : Request) (d : Desk) : Response × Desk → Prop
  /-- The body is refused. -/
  | unread {refusal : Refusal} (hfields : fieldsOf e r = .error refusal) :
    Served g m e parameters r d (.ofRefusal refusal, d)
  /-- The gate denies the call. -/
  | denied {denial : Denial} (hadmits : ¬g.Admits m.now e parameters r) :
    Served g m e parameters r d (.ofStop (.failure (.unauthenticated denial)), d)
  /-- The library breaks down at the token of the request. -/
  | broken (hadmits : ¬g.Admits m.now e parameters r)
    (hbreaks : Gate.BreaksDown g.gate.decoder r.authorization) :
    Served g m e parameters r d (.ofStop .tooDeep, d)
  /-- The call ends without a result. -/
  | stopped {stop : Stop} {d' : Desk} (hadmits : g.Admits m.now e parameters r)
    (hkept : d.Kept d') : Served g m e parameters r d (.ofStop stop, d')
  /-- The call is answered. -/
  | answered {fields : List (String × Value)} {answer : Answer} {d' : Desk}
    (hadmits : g.Admits m.now e parameters r) (hfields : fieldsOf e r = .ok fields)
    (hperform : g.service.perform m (e.call parameters fields) d = .ok answer d') :
    Served g m e parameters r d (.ok (e.shown answer), d')

/-- A call to which nobody is admitted is denied, unless the library breaks down at its
token. -/
theorem denies_of_not_admits {scope : Journal.Context}
    (h : ¬g.Admits m.now e parameters r) :
    (∃ denial, (g.gate.screen m.now (entrant e parameters r) scope).1 =
        .error (.failure (.unauthenticated denial))) ∨
      (g.gate.screen m.now (entrant e parameters r) scope).1 = .error .tooDeep ∧
        Gate.BreaksDown g.gate.decoder r.authorization := by
  rw [Admits, not_or] at h
  have hpolicy : e.policy ≠ .everyone := fun he => h.1 (Endpoint.policy_eq_everyone.1 he)
  rw [← Endpoint.authorization_entrant hpolicy parameters r]
  exact Gate.screen_denies hpolicy fun hok => h.2 ((admits_iff h.1).1 hok)

/-- **Every endpoint is served behind the gate.** -/
theorem served (g : Gateway) (m : Moment) (e : Endpoint) (parameters : List String)
    (r : Request) (d : Desk) : Served g m e parameters r d (g.serve m e parameters r d) := by
  unfold serve
  cases hfields : fieldsOf e r with
  | error refusal => exact .unread hfields
  | ok fields =>
    dsimp only
    by_cases hadmits : g.Admits m.now e parameters r
    · -- The gate has been passed, or is open; the result is that of the work.
      cases hrun : (g.gate.run r.id m.now (entrant e parameters r)
          (fun _ => g.service.perform m (e.call parameters fields)) {} d).result with
      | ok answer d' =>
        obtain ⟨_, -, -, hperform⟩ := Gate.run_eq_ok.1 hrun
        exact .answered hadmits hfields hperform
      | error stop d' =>
        have hatomic := g.gate.atomic_run r.id m.now (entrant e parameters r)
          (fun _ => g.service.atomic_perform m (e.call parameters fields)) {}
        exact .stopped hadmits (hatomic d stop d' hrun)
    · rcases denies_of_not_admits hadmits with ⟨denial, hdenied⟩ | ⟨hbroken, hbreaks⟩
      · rw [Gate.run_of_denied hdenied]
        exact .denied hadmits
      · rw [Gate.run_of_denied hbroken]
        exact .broken hadmits hbreaks

/-! ### Responses -/

namespace Response

/-- A response that grants what was asked for. -/
def IsSuccess (r : Response) : Prop := 200 ≤ r.status ∧ r.status < 300

/-- A response that says what went wrong. -/
def IsError (r : Response) : Prop := 400 ≤ r.status ∧ r.status < 600

theorem isError_ofStop (stop : Stop) : (ofStop stop).IsError := by
  show 400 ≤ stop.category.status ∧ stop.category.status < 600
  cases stop.category <;> decide

theorem isError_ofRefusal (refusal : Refusal) : (ofRefusal refusal).IsError := by
  show 400 ≤ 400 ∧ 400 < 600
  decide

/-- A response is not both. -/
theorem IsError.not_isSuccess {r : Response} (h : r.IsError) : ¬r.IsSuccess := fun h' =>
  absurd (Nat.lt_of_le_of_lt h.1 h'.2) (by decide)

end Response

namespace Served

variable {x : Response × Desk}

/-- What is granted or changed is granted and changed for those who may have it. -/
theorem admits (h : Served g m e parameters r d x)
    (heffect : x.1.IsSuccess ∨ x.2.store ≠ d.store) : g.Admits m.now e parameters r := by
  cases h with
  | unread =>
    rcases heffect with hgrants | hchanges
    · exact absurd hgrants (Response.isError_ofRefusal _).not_isSuccess
    · exact absurd rfl hchanges
  | denied | broken =>
    rcases heffect with hgrants | hchanges
    · exact absurd hgrants (Response.isError_ofStop _).not_isSuccess
    · exact absurd rfl hchanges
  | stopped hadmits => exact hadmits
  | answered hadmits => exact hadmits

/-- A request that is not granted is answered with an error, and the desk is as it was. -/
theorem isError (h : Served g m e parameters r d x) (hfails : ¬x.1.IsSuccess) :
    x.1.IsError ∧ d.Kept x.2 := by
  cases h with
  | unread => exact ⟨Response.isError_ofRefusal _, .refl d⟩
  | denied | broken => exact ⟨Response.isError_ofStop _, .refl d⟩
  | stopped _ hkept => exact ⟨Response.isError_ofStop _, hkept⟩
  | answered => exact absurd ⟨Nat.le_refl 200, (by decide : 200 < 300)⟩ hfails

/-- A caller who is not admitted is told so, unless the library breaks down. -/
theorem unauthenticated (h : Served g m e parameters r d x)
    {fields : List (String × Value)} (hfields : fieldsOf e r = .ok fields)
    (hadmits : ¬g.Admits m.now e parameters r)
    (hwhole : ¬Gate.BreaksDown g.gate.decoder r.authorization) :
    x.1.status = Category.unauthenticated.status ∧ d.Kept x.2 := by
  cases h with
  | unread hrefused =>
    rw [hfields] at hrefused
    cases hrefused
  | denied => exact ⟨rfl, .refl d⟩
  | broken _ hbreaks => exact absurd hbreaks hwhole
  | stopped hadmitted => exact absurd hadmitted hadmits
  | answered hadmitted => exact absurd hadmitted hadmits

/-- What is granted is the operation that was asked about, on the user in the path. -/
theorem answer (h : Served g m e parameters r d x) (hgrants : x.1.IsSuccess)
    (hlength : parameters.length = e.path.count .parameter) :
    ∃ call answer, call.operation = e.operation ∧
      (∀ v, call.user? = some v → ∃ id, e.userInPath parameters = some id ∧ v = .text id) ∧
      g.service.perform m call d = .ok answer x.2 := by
  cases h with
  | unread => exact absurd hgrants (Response.isError_ofRefusal _).not_isSuccess
  | denied | broken => exact absurd hgrants (Response.isError_ofStop _).not_isSuccess
  | stopped => exact absurd hgrants (Response.isError_ofStop _).not_isSuccess
  | answered _ _ hperform =>
    exact ⟨_, _, Endpoint.operation_call, fun _ => Endpoint.user_call hlength, hperform⟩

end Served

/-- **Complete mediation.**  A request that leads to an endpoint is granted, or changes
a table, only if the operation of the endpoint is public or the request authorizes it;
what is done is that operation, on the user in the path.  Every other request is
answered with an error, and the tables are as they were; one whose body can be read
but that does not authorize its operation is answered as unauthenticated, unless the
library breaks down at its token.  A library that refuses what is nested too deeply, as it
refuses everything else that is no token, breaks down at none. -/
theorem complete_mediation (g : Gateway) (m : Moment) (r : Request) (d : Desk) {e : Endpoint}
    {parameters : List String}
    (hroute : g.route r.method (Target.ofRaw r.target).path = .found e parameters) :
    let (response, d') := g.respond m r d
    (response.IsSuccess ∨ d'.store ≠ d.store →
        e.operation ∈ publicOperations ∨ g.Authorizes m.now e parameters r) ∧
      (response.IsSuccess →
        ∃ call answer, call.operation = e.operation ∧
          (∀ v, call.user? = some v → ∃ id, e.userInPath parameters = some id ∧ v = .text id) ∧
          g.service.perform m call d = .ok answer d') ∧
      (¬response.IsSuccess → response.IsError ∧ d'.store = d.store) ∧
      (∀ fields, e.operation ∉ publicOperations → fieldsOf e r = .ok fields →
        ¬g.Authorizes m.now e parameters r →
        ¬Gate.BreaksDown g.gate.decoder r.authorization →
          response.status = 401 ∧ d'.store = d.store) ∧
      (g.gate.decoder.library.refusesDepth = true →
        ¬Gate.BreaksDown g.gate.decoder r.authorization) := by
  have hserve : g.respond m r d = g.serve m e parameters r d := by
    unfold respond
    dsimp only
    rw [hroute]
  have hserved := served g m e parameters r d
  obtain ⟨-, hlength, -⟩ := route_eq_found hroute
  rw [← hserve] at hserved
  refine ⟨hserved.admits, fun h => hserved.answer h hlength, fun h => ?_, ?_,
    fun hrefuses => Gate.not_breaksDown_of_refusesDepth hrefuses _⟩
  · obtain ⟨herror, hkept⟩ := hserved.isError h
    exact ⟨herror, hkept.store⟩
  · intro fields hpublic hfields hauthorizes hwhole
    obtain ⟨hstatus, hkept⟩ :=
      hserved.unauthenticated hfields (not_or.2 ⟨hpublic, hauthorizes⟩) hwhole
    exact ⟨hstatus, hkept.store⟩

namespace Doorstep

/-- A gateway that has all the time and signs no tokens. -/
def gateway : Gateway :=
  ⟨⟨{}, .never⟩, ⟨⟨"HS256", .error .keyRejected, 3600000000, "guild", "guild", {}⟩, ""⟩, "/v1"⟩

/-- A request for a profile, with an escape in its path and no credential. -/
def request : Request := { method := "GET", target := "/v1/users/u%31" }

/-- A desk with that profile. -/
def desk : Desk :=
  { store :=
      { users := [{ id := "u1", name := "ada", email := "a@b.c", password := "",
                    createdAt := ⟨0⟩, updatedAt := ⟨0⟩ }]
        stats := [{ id := "s1", userId := "u1" }] } }

end Doorstep

open Doorstep in
/-- Somebody without a credential asks for a profile: there is one, and the answer is
that nobody knows who is asking. -/
theorem complete_mediation_doorstep :
    gateway.route request.method (Target.ofRaw request.target).path =
        .found .readUser ["u1"] ∧
      (gateway.respond ⟨⟨5⟩, none⟩ request desk).1.status = 401 ∧
      (gateway.respond ⟨⟨5⟩, none⟩ request desk).2.store = desk.store := by
  have hroute : gateway.route request.method (Target.ofRaw request.target).path =
      .found .readUser ["u1"] := by decide
  obtain ⟨-, -, -, hdenies, hwhole⟩ :=
    complete_mediation gateway ⟨⟨5⟩, none⟩ request desk hroute
  refine ⟨hroute, hdenies [] (by decide) rfl ?_ (hwhole rfl)⟩
  rintro ⟨token, c, htoken, -⟩
  cases htoken

end Gateway

end Guildhall
