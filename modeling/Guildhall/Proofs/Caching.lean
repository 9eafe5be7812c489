/-
Guildhall/Proofs/Caching.lean

Responses that may be stored.  A response forbids it unless it is written outside of the
layer that says so, and what is raised there is a stop that nobody has foreseen, of a call
that was let in or of the library that reads tokens (`BreaksOut`):

    (g.respond m r d).1.cacheHeader? = some cacheControl  ↔  nothing breaks out

So every result, every failure and outage, every refusal of a body, of a path or of a
method forbids it.  With a deadline that is one, and a storage that is there, a call with
whole texts breaks out if and only if a stop escapes it that no operation reports; and
requests come to such calls at four endpoints only.

Main statement: `forbids_storing_iff`.
-/
import Guildhall.Proofs.Ascii
import Guildhall.Proofs.Bodies
import Guildhall.Proofs.Escape
import Guildhall.Proofs.Layers
import Guildhall.Proofs.Passage

namespace Guildhall

/-! ### Stops that nobody foresees -/

/-- What is reported is foreseen. -/
theorem Stop.IsReported.isForeseen {stop : Stop} (h : stop.IsReported) :
    stop.isForeseen = true := by
  cases stop with
  | failure f => rfl
  | outage o => rfl
  | _ => cases h

/-- What escapes an operation is not foreseen, and it does end the call. -/
theorem Service.Escapes.not_foreseen {service : Service} {m : Moment} {s : Store} {call : Call}
    {stop : Stop} (h : service.Escapes m s call stop) :
    stop.isForeseen = false ∧ stop ≠ .hung := by
  cases h <;> exact ⟨rfl, nofun⟩

namespace Gateway

variable {g : Gateway} {m : Moment} {r : Request} {d d' : Desk} {e : Endpoint}
  {parameters : List String} {fields : List (String × Value)} {stop : Stop}

/-! ### Work at the gate -/

namespace Gate

variable {gate : Gate} {entrant : Entrant} {x : Session Answer}

/-- A stop of work at the gate that nobody has foreseen. -/
inductive Breaks (gate : Gate) (operation : String) (x : Session Answer) (d : Desk) : Stop → Prop
  /-- The deadline is beyond all numbers. -/
  | beyond (hdeadline : gate.deadline = .beyond) : Breaks gate operation x d .overflow
  /-- The deadline is no number. -/
  | unusable (hdeadline : gate.deadline = .unusable) : Breaks gate operation x d .badCall
  /-- The work stops on its own. -/
  | stopped {stop : Stop} {d' : Desk} (htime : gate.deadline.obstacle? operation = none)
      (hstop : x d = .error stop d') (hends : stop ≠ .hung) (hforeseen : stop.isForeseen = false) :
      Breaks gate operation x d stop
  /-- The work does not end, in a time that is never over: there will be no response, and
  something stands for it. -/
  | endless {d' : Desk}
      (hdeadline : gate.deadline = .never ∨ gate.deadline = .seconds (.infinite false))
      (hhung : x d = .error .hung d') : Breaks gate operation x d .hung

/-- Why work is not started without anyone having foreseen it. -/
theorem obstacle?_not_foreseen {deadline : Deadline} {operation : String}
    (h : deadline.obstacle? operation = some stop) (hforeseen : stop.isForeseen = false) :
    (deadline = .beyond ∧ stop = .overflow) ∨ (deadline = .unusable ∧ stop = .badCall) := by
  cases deadline with
  | never => cases h
  | seconds x =>
    change (if Deadline.isOver x then _ else _) = _ at h
    split at h
    · cases h
      cases hforeseen
    · cases h
  | beyond =>
    cases h
    exact .inl ⟨rfl, rfl⟩
  | unusable =>
    cases h
    exact .inr ⟨rfl, rfl⟩

/-- Work is stopped at the deadline with a failure, unless there is none. -/
theorem expiry_not_foreseen {deadline : Deadline} {operation : String}
    (htime : deadline.obstacle? operation = none)
    (hforeseen : (deadline.expiry operation).isForeseen = false) :
    (deadline = .never ∨ deadline = .seconds (.infinite false)) ∧
      deadline.expiry operation = .hung := by
  cases deadline with
  | never => exact ⟨.inl rfl, rfl⟩
  | seconds x =>
    cases x with
    | nan => cases hforeseen
    | finite => cases hforeseen
    | infinite negative =>
      cases negative with
      | true => cases htime
      | false => exact ⟨.inr rfl, rfl⟩
  | beyond => cases htime
  | unusable => cases htime

/-- What is never over is no obstacle, and work is not stopped in it. -/
theorem obstacle?_of_endless {deadline : Deadline} (operation : String)
    (h : deadline = .never ∨ deadline = .seconds (.infinite false)) :
    deadline.obstacle? operation = none ∧ deadline.expiry operation = .hung := by
  rcases h with rfl | rfl <;> exact ⟨rfl, rfl⟩

/-- **The stops that nobody has foreseen** are these. -/
theorem breaks_iff (gate : Gate) (entrant : Entrant) (x : Session Answer) (d : Desk)
    (stop : Stop) :
    gate.Breaks entrant.operation x d stop ↔
      stop.isForeseen = false ∧ ∃ d', gate.passed entrant x d = .error stop d' := by
  unfold passed
  constructor
  · intro h
    cases h with
    | beyond hdeadline => exact ⟨rfl, d, by rw [hdeadline]; rfl⟩
    | unusable hdeadline => exact ⟨rfl, d, by rw [hdeadline]; rfl⟩
    | @stopped _ d' htime hstop hends hforeseen =>
      refine ⟨hforeseen, d', ?_⟩
      rw [htime]
      refine (work_of_ends fun d₁ hhung => hends ?_).trans hstop
      rw [hstop] at hhung
      cases hhung
      rfl
    | @endless d' hdeadline hhung =>
      obtain ⟨htime, hexpiry⟩ := obstacle?_of_endless entrant.operation hdeadline
      refine ⟨rfl, d', ?_⟩
      rw [htime, ← hexpiry]
      exact work_of_hung hhung
  · rintro ⟨hforeseen, d', h⟩
    cases htime : gate.deadline.obstacle? entrant.operation with
    | some obstacle =>
      rw [htime] at h
      cases h
      rcases obstacle?_not_foreseen htime hforeseen with ⟨hdeadline, rfl⟩ | ⟨hdeadline, rfl⟩
      · exact .beyond hdeadline
      · exact .unusable hdeadline
    | none =>
      rw [htime] at h
      dsimp only at h
      by_cases hhung : ∃ d₁, x d = .error .hung d₁
      · obtain ⟨d₁, hhung⟩ := hhung
        rw [work_of_hung hhung] at h
        cases h
        obtain ⟨hdeadline, hexpiry⟩ := expiry_not_foreseen htime hforeseen
        rw [hexpiry]
        exact .endless hdeadline hhung
      · have hends : ∀ d₁, x d ≠ .error .hung d₁ := fun d₁ h => hhung ⟨d₁, h⟩
        rw [work_of_ends hends] at h
        refine .stopped htime h ?_ hforeseen
        rintro rfl
        exact hends d' h

end Gate

/-! ### Requests that break out -/

/-- A request that comes to a call: it leads to an endpoint, fits its schema and is let in. -/
structure Calls (g : Gateway) (m : Moment) (r : Request) (e : Endpoint)
    (parameters : List String) (fields : List (String × Value)) : Prop where
  route : g.route r.method (Target.ofRaw r.target).path = .found e parameters
  fields : fieldsOf e r = .ok fields
  admits : g.Admits m.now e parameters r

/-- A request breaks out of the gateway with a stop. -/
inductive BreaksOut (g : Gateway) (m : Moment) (r : Request) (d : Desk) : Stop → Prop
  /-- Its call does, which has been let in. -/
  | call {e : Endpoint} {parameters : List String} {fields : List (String × Value)} {stop : Stop}
      (hcalls : g.Calls m r e parameters fields)
      (hbreaks : g.gate.Breaks e.operation (g.service.perform m (e.call parameters fields)) d
        stop) : BreaksOut g m r d stop
  /-- The library breaks down at its token, which it does not do if it refuses such tokens. -/
  | token {e : Endpoint} {parameters : List String} {fields : List (String × Value)}
      (hroute : g.route r.method (Target.ofRaw r.target).path = .found e parameters)
      (hfields : fieldsOf e r = .ok fields) (hpublic : e.operation ∉ publicOperations)
      (hbreaks : Gate.BreaksDown g.gate.decoder r.authorization) : BreaksOut g m r d .tooDeep

/-- What the routes make of a request that comes to a call. -/
theorem Calls.routed (h : g.Calls m r e parameters fields) :
    (g.routed m r d).1 =
      match g.gate.passed (entrant e parameters r)
        (g.service.perform m (e.call parameters fields)) d with
      | .ok answer _ => .ok (Response.ok (e.shown answer)).unmarked
      | .error stop _ => .error (.stopped stop) := by
  unfold Gateway.routed
  dsimp only
  rw [h.route]
  dsimp only
  rw [h.fields]
  dsimp only
  rw [Gate.run_of_passed (screen_of_admits h.admits _)]
  cases g.gate.passed (entrant e parameters r) _ d <;> rfl

/-- What the routes make of a request at whose token the library breaks down. -/
theorem routed_of_breaksDown
    (hroute : g.route r.method (Target.ofRaw r.target).path = .found e parameters)
    (hfields : fieldsOf e r = .ok fields) (hpublic : e.operation ∉ publicOperations)
    (hbreaks : Gate.BreaksDown g.gate.decoder r.authorization) :
    (g.routed m r d).1 = .error (.stopped .tooDeep) := by
  have hpolicy : e.policy ≠ .everyone := mt Endpoint.policy_eq_everyone.1 hpublic
  have hentrant : (entrant e parameters r).policy ≠ .everyone := hpolicy
  rw [← Endpoint.authorization_entrant hpolicy parameters r] at hbreaks
  unfold Gateway.routed
  dsimp only
  rw [hroute]
  dsimp only
  rw [hfields]
  dsimp only
  rw [Gate.run_of_denied (Gate.screen_of_breaksDown hentrant hbreaks)]

/-- What has no handler inside is a stop of a request that comes to a call, or of the
library. -/
theorem exists_calls_of_outside {raised : Raised} (h : (g.routed m r d).1 = .error raised)
    (houtside : raised.handler.isInside = false) :
    ∃ stop, raised = .stopped stop ∧
      ((∃ e parameters fields, g.Calls m r e parameters fields) ∨ g.BreaksOut m r d stop) := by
  unfold routed at h
  dsimp only at h
  cases hroute : g.route r.method (Target.ofRaw r.target).path with
  | nowhere =>
    rw [hroute] at h
    cases h
    cases houtside
  | otherMethod allowed =>
    rw [hroute] at h
    cases h
    cases houtside
  | elsewhere path =>
    rw [hroute] at h
    cases h
  | found e parameters =>
    rw [hroute] at h
    dsimp only at h
    cases hfields : fieldsOf e r with
    | error refusal =>
      rw [hfields] at h
      cases h
      cases refusal <;> cases houtside
    | ok fields =>
      rw [hfields] at h
      dsimp only at h
      by_cases hadmits : g.Admits m.now e parameters r
      · split at h
        · cases h
        · cases h
          exact ⟨_, rfl, .inl ⟨e, parameters, fields, hroute, hfields, hadmits⟩⟩
      · rcases denies_of_not_admits hadmits with ⟨denial, hdenied⟩ | ⟨hbroken, hbreaks⟩
        · rw [Gate.run_of_denied hdenied] at h
          cases h
          cases houtside
        · rw [Gate.run_of_denied hbroken] at h
          cases h
          exact ⟨_, rfl, .inr (.token hroute hfields (mt .inl hadmits) hbreaks)⟩

/-- **What is raised in the routes without a handler inside** is a stop that breaks out. -/
theorem raised_outside_iff {raised : Raised} :
    (g.routed m r d).1 = .error raised ∧ raised.handler.isInside = false ↔
      ∃ stop, raised = .stopped stop ∧ g.BreaksOut m r d stop := by
  have hbreaks := fun e parameters fields => Gate.breaks_iff g.gate (entrant e parameters r)
    (g.service.perform m (e.call parameters fields)) d
  constructor
  · rintro ⟨h, houtside⟩
    obtain ⟨stop, rfl, ⟨e, parameters, fields, hcalls⟩ | hlibrary⟩ :=
      exists_calls_of_outside h houtside
    · rw [Raised.isInside_stopped] at houtside
      refine ⟨stop, rfl, .call hcalls ((hbreaks _ _ _ _).2 ⟨houtside, ?_⟩)⟩
      rw [hcalls.routed] at h
      split at h
      · cases h
      · rename_i stop' d' hpassed
        cases h
        exact ⟨d', hpassed⟩
    · exact ⟨stop, rfl, hlibrary⟩
  · rintro ⟨stop, rfl, h⟩
    cases h with
    | call hcalls h =>
      obtain ⟨hforeseen, d', hpassed⟩ := (hbreaks _ _ _ _).1 h
      rw [hcalls.routed, hpassed, Raised.isInside_stopped]
      exact ⟨rfl, hforeseen⟩
    | token hroute hfields hpublic h =>
      exact ⟨routed_of_breaksDown hroute hfields hpublic h, rfl⟩

/-- **A response forbids storing** unless the request breaks out. -/
theorem cacheHeader?_respond :
    (g.respond m r d).1.cacheHeader? = some Response.cacheControl ↔
      ∀ stop, ¬g.BreaksOut m r d stop := by
  rw [respond_eq_layered, Outcome.cacheHeader?_layered]
  constructor
  · intro h stop hbreaks
    obtain ⟨hraised, houtside⟩ := raised_outside_iff.2 ⟨stop, rfl, hbreaks⟩
    exact Bool.false_ne_true (houtside.symm.trans (h _ hraised))
  · intro h raised hraised
    refine Bool.of_not_eq_false fun houtside => ?_
    obtain ⟨stop, -, hbreaks⟩ := raised_outside_iff.1 ⟨hraised, houtside⟩
    exact h stop hbreaks

/-- The response to a request that breaks out: it tells nothing, and it may be stored. -/
def Response.broken : Response :=
  { status := 500, forbidsStoring := false, body := some (told "INTERNAL" "Internal error") }

theorem Response.ofStop_of_not_foreseen (h : stop.isForeseen = false) :
    ofStop stop = broken := by
  cases stop <;> first | rfl | cases h

/-- A request that breaks out has changed nothing. -/
theorem BreaksOut.respond (h : g.BreaksOut m r d stop) :
    (g.respond m r d).1 = .broken ∧ (g.respond m r d).2.store = d.store := by
  have hresponse : (g.respond m r d).1 = .broken := by
    obtain ⟨hraised, houtside⟩ := raised_outside_iff.2 ⟨stop, rfl, h⟩
    rw [Raised.isInside_stopped] at houtside
    rw [respond_eq_layered, hraised, layered_stopped, Response.ofStop_of_not_foreseen houtside]
  refine ⟨hresponse, ?_⟩
  obtain ⟨e, parameters, hroute⟩ :
      ∃ e parameters, g.route r.method (Target.ofRaw r.target).path = .found e parameters := by
    cases h with
    | call hcalls => exact ⟨_, _, hcalls.route⟩
    | token hroute => exact ⟨_, _, hroute⟩
  rw [respond_of_route hroute] at hresponse ⊢
  have hserved := served g m e parameters r d
  refine (hserved.isError ?_).2.store
  rw [hresponse]
  rintro ⟨-, hless⟩
  exact absurd hless (by decide)

/-! ### What escapes a request -/

theorem Calls.unique {e' : Endpoint} {parameters' : List String}
    {fields' : List (String × Value)} (h : g.Calls m r e parameters fields)
    (h' : g.Calls m r e' parameters' fields') :
    e = e' ∧ parameters = parameters' ∧ fields = fields' := by
  obtain ⟨rfl, rfl⟩ := Route.found.inj (h.route.symm.trans h'.route)
  exact ⟨rfl, rfl, Except.ok.inj (h.fields.symm.trans h'.fields)⟩

/-- Where a stop can escape a request at all: where items are written, where they are given
back, and at logins, if the issuer cannot issue a token. -/
def IsExposed (g : Gateway) (m : Moment) : Endpoint → Prop
  | .createItem | .updateItem | .throwAway => True
  | .login => g.service.issuer.expiry? m.now = none ∨
      Token.Algorithm.ofName? g.service.issuer.algorithm = none
  | _ => False

theorem call_eq_login {key password : Value}
    (h : e.call parameters fields = .login key password) :
    e = .login ∧ Value.get fields "id" = key ∧ Value.get fields "password" = password := by
  cases e <;> cases h
  exact ⟨rfl, rfl, rfl⟩

/-- **A stop escapes requests at few endpoints**, since no argument of theirs is infinite or
has too many digits, and those who log in give two texts. -/
theorem isExposed_of_escapes {s : Store} (hfields : fieldsOf e r = .ok fields)
    (hwhole : (e.call parameters fields).Whole)
    (h : g.service.Escapes m s (e.call parameters fields) stop) : g.IsExposed m e := by
  have hplain : ∀ v ∈ (e.call parameters fields).arguments, Plain v := plain_arguments hfields
  have hcomplaint := complaint_check hplain
  generalize hcall : e.call parameters fields = call at h hwhole hcomplaint
  cases h with
  | infinite hcheck =>
    obtain ⟨_, _, hstop⟩ := hcomplaint _ hcheck
    cases hstop
  | unwritable hcheck =>
    obtain ⟨_, _, hstop⟩ := hcomplaint _ hcheck
    cases hstop
  | newSlot | changedSlot | refund => cases e <;> trivial
  | longKey =>
    obtain ⟨rfl, hkey, -⟩ := call_eq_login hcall
    obtain ⟨⟨_, hspells⟩, -⟩ := spells_of_login hfields
    rw [hkey] at hspells
    rcases hspells with h | h <;> cases h
  | noPassword hfinds hpassword =>
    obtain ⟨rfl, -, rfl⟩ := call_eq_login hcall
    obtain ⟨-, p, htext | htorn⟩ := spells_of_login hfields
    · exact absurd htext (hpassword p)
    · exact absurd htorn (hwhole _ (.tail _ (.head _)) p)
  | noExpiry hfinds hright hexpiry =>
    obtain ⟨rfl, -⟩ := call_eq_login hcall
    exact .inl hexpiry
  | unknownAlgorithm hfinds hright hexpiry hkey halgorithm =>
    obtain ⟨rfl, -⟩ := call_eq_login hcall
    exact .inr halgorithm

/-- What a request that comes to a call breaks out with: a deadline that is no time, or, if
there is time, a stop that escapes the call. -/
def Leaks (g : Gateway) (m : Moment) (s : Store) (e : Endpoint) (call : Call) : Prop :=
  (g.gate.deadline = .beyond ∨ g.gate.deadline = .unusable) ∨
    g.gate.deadline.obstacle? e.operation = none ∧ g.IsExposed m e ∧
      ∃ stop, g.service.Escapes m s call stop

section Storage

variable {settings : Settings} {files : Token.Directory} {options : Token.IssuerOptions}
  {desk : Desk} {steps : List Step}

/-- As long as the storage is there, a request with whole texts breaks out with nothing
else. -/
theorem Calls.leaks (hissuer : Token.Issuer.make settings files options = .ok g.service.issuer)
    (hstore : d.store = (g.service.run { desk with store := {} } steps).store) (hd : d.Calm)
    (hm : m.Calm) (hcalls : g.Calls m r e parameters fields)
    (hwhole : (e.call parameters fields).Whole) (h : g.BreaksOut m r d stop) :
    g.Leaks m d.store e (e.call parameters fields) := by
  have past : Chronicle {} (g.service.history { desk with store := {} } steps) d.store :=
    hstore ▸ g.service.chronicle { desk with store := {} } steps
  have hescapes : ∀ {stop' d'},
      g.service.perform m (e.call parameters fields) d = .error stop' d' → ¬stop'.IsReported →
      g.IsExposed m e ∧ ∃ stop, g.service.Escapes m d.store (e.call parameters fields) stop := by
    intro stop' d' hstop hreported
    by_contra hno
    have hnone : ∀ stop, ¬g.service.Escapes m d.store (e.call parameters fields) stop :=
      fun stop h => hno ⟨isExposed_of_escapes hcalls.fields hwhole h, stop, h⟩
    exact hreported ((Service.stops_perform hd hm past.inDomain past.password_digest
      (Token.Issuer.signingProblem_of_make hissuer) hwhole hnone).stop hstop)
  cases h with
  | token hroute hfields hpublic hbroken =>
    -- At the token of a request that is let in, the library does not break down.
    obtain ⟨rfl, rfl⟩ := Route.found.inj (hcalls.route.symm.trans hroute)
    obtain ⟨token, claims, htoken, hdecode, -⟩ := hcalls.admits.resolve_left hpublic
    obtain ⟨token', fault, htoken', hfault, -⟩ := hbroken
    obtain rfl := Except.ok.inj (htoken.symm.trans htoken')
    rw [hdecode] at hfault
    cases hfault
  | call hcalls' hbreaks =>
    obtain ⟨rfl, rfl, rfl⟩ := hcalls.unique hcalls'
    cases hbreaks with
    | beyond hdeadline => exact .inl (.inl hdeadline)
    | unusable hdeadline => exact .inl (.inr hdeadline)
    | stopped htime hstop hends hforeseen =>
      refine .inr ⟨htime, hescapes hstop fun h => ?_⟩
      exact Bool.false_ne_true (hforeseen.symm.trans h.isForeseen)
    | endless hdeadline hhung =>
      exact .inr ⟨(Gate.obstacle?_of_endless _ hdeadline).1, hescapes hhung id⟩

/-- Where nothing is wrong with the storage, it does break out. -/
theorem Calls.breaksOut (hstore : d.store = (g.service.run { desk with store := {} } steps).store)
    (hd : d.Ready) (hcalls : g.Calls m r e parameters fields)
    (hwhole : (e.call parameters fields).Whole)
    (h : g.Leaks m d.store e (e.call parameters fields)) : ∃ stop, g.BreaksOut m r d stop := by
  have past : Chronicle {} (g.service.history { desk with store := {} } steps) d.store :=
    hstore ▸ g.service.chronicle { desk with store := {} } steps
  rcases h with (hdeadline | hdeadline) | ⟨htime, -, stop, hescapes⟩
  · exact ⟨_, .call hcalls (.beyond hdeadline)⟩
  · exact ⟨_, .call hcalls (.unusable hdeadline)⟩
  · obtain ⟨d', hstop⟩ := hescapes.halts hd past.inDomain hwhole
    obtain ⟨hforeseen, hends⟩ := hescapes.not_foreseen
    exact ⟨stop, .call hcalls (.stopped htime hstop hends hforeseen)⟩

end Storage

/-! ### The theorem -/

/-- **Responses forbid storing unless their request breaks out.**  For every desk and every
request, whatever comes of it, the response says that it must not be stored if and only if
nothing breaks out; a request that breaks out changes nothing and is told nothing, in a
response that may be stored.  As long as the storage is there, even if it breaks down at its
statements, a request with whole texts that is let in breaks out only with a deadline that is
no time or a stop that escapes its call, and that only where items are written or given back
and at logins for which no token can be issued; and where nothing is wrong with the storage,
it does. -/
theorem forbids_storing_iff (g : Gateway) (m : Moment) (r : Request) (d : Desk) :
    ((g.respond m r d).1.cacheHeader? = some "no-cache, no-store, max-age=0, must-revalidate" ↔
        ∀ stop, ¬g.BreaksOut m r d stop) ∧
      (∀ stop, g.BreaksOut m r d stop →
        (g.respond m r d).1 = .broken ∧ (g.respond m r d).2.store = d.store) ∧
      ∀ {settings : Settings} {files : Token.Directory} {options : Token.IssuerOptions}
        {desk : Desk} {steps : List Step} {e : Endpoint} {parameters : List String}
        {fields : List (String × Value)},
        Token.Issuer.make settings files options = .ok g.service.issuer →
        d.store = (g.service.run { desk with store := {} } steps).store → d.Calm → m.Calm →
        g.Calls m r e parameters fields → (e.call parameters fields).Whole →
        ((∃ stop, g.BreaksOut m r d stop) → g.Leaks m d.store e (e.call parameters fields)) ∧
          (d.Ready → g.Leaks m d.store e (e.call parameters fields) →
            ∃ stop, g.BreaksOut m r d stop) :=
  ⟨cacheHeader?_respond, fun _ h => h.respond, fun hissuer hstore hd hm hcalls hwhole =>
    ⟨fun ⟨_, h⟩ => hcalls.leaks hissuer hstore hd hm hwhole h,
      fun hready => hcalls.breaksOut hstore hready hwhole⟩⟩

/-! ### A login and a registration -/

namespace Letterbox

/-- A gateway that has all the time, in front of a service that signs by an algorithm. -/
def gateway (algorithm : String) : Gateway := ⟨⟨{}, .never⟩, Smithy.service algorithm, "/v1"⟩

/-- A request with a text for a body. -/
def posting (target text : String) : Request :=
  { method := "POST", target, contentType := some "application/json",
    body := Text.Utf8.bytes text }

/-- A text in ASCII that is an object in JSON is read by the schema of an endpoint. -/
theorem fieldsOf_posting {schema : Schema} {target text : String}
    {given : List (String × Value)} (hschema : e.schema? = some schema)
    (hascii : Text.IsAscii text.toList)
    (hjson : Json.readChars text.toList = .ok (.object given)) :
    fieldsOf e (posting target text) = schema.read given := by
  have hread : readJson (Text.Utf8.bytes text) = .ok (.object given) := by
    unfold readJson Text.Utf8.bytes
    rw [Text.decodeAny?_encode hascii]
    dsimp only
    unfold Json.readDecoded
    rw [hjson]
    rfl
  have hsome : (Text.Utf8.bytes text).isEmpty = false := by
    unfold Text.Utf8.bytes
    rw [Text.encode_of_isAscii hascii, List.isEmpty_map]
    cases htext : text.toList with
    | nil =>
      rw [htext] at hjson
      cases hjson
    | cons c cs => rfl
  have htype : (some "application/json").any isJsonType = true := by decide
  unfold fieldsOf
  rw [hschema]
  show readBody schema (some "application/json") (Text.Utf8.bytes text) = _
  unfold readBody
  rw [hsome, htype, hread]
  rfl

/-- The body of a login. -/
def ticket : String := "\x7b\"id\":\"u1\",\"password\":\"pw\"\x7d"

/-- What it holds. -/
def member : List (String × Value) := [("id", .text "u1"), ("password", .text "pw")]

/-- The body of a registration, with half a surrogate pair in the address. -/
def form : String :=
  "\x7b\"name\":\"n\",\"email\":\"a\\udc00@b.c\",\"password\":\"p\"\x7d"

/-- The address in it. -/
def address : String := String.ofList ['a', Text.ofCodePoint 0xDC00, '@', 'b', '.', 'c']

/-- What it holds. -/
def newcomer : List (String × Value) :=
  [("name", .text "n"), ("email", .torn address), ("password", .text "p")]

theorem readChars_ticket : Json.readChars ticket.toList = .ok (.object member) := by
  have hwritten : ticket.toList = Json.writeChars Json.compact (.object member) := by decide
  have hclear : Json.Clear Json.nestingLimit (.object member) := by
    refine .object (by decide) fun f hf => ?_
    rcases List.mem_pair.1 hf with rfl | rfl
    · exact .text "u1"
    · exact .text "pw"
  rw [hwritten, Json.readChars_writeChars Json.compact_reads hclear]

/-- The address opens, and is read back with its half. -/
theorem readBack_address {room : Nat} :
    Json.Opens (Json.writeChars Json.compact (.torn address)) ∧
      Json.ReadBack Json.compact room (.torn address) := by
  have hwritten : Json.writeChars Json.compact (.torn address) =
      '"' :: 'a' :: (Json.unitEscape 0xDC00 ++
        (['@', 'b', '.', 'c'].flatMap Json.escapeAscii ++ ['"'])) := by decide
  have hopen : Json.Opens (Json.writeChars Json.compact (.torn address)) := by
    rw [hwritten]
    exact ⟨'"', _, rfl, rfl, by decide⟩
  have htext : ∀ opening rest, Json.readText opening false []
      ('a' :: (Json.unitEscape 0xDC00 ++
        (['@', 'b', '.', 'c'].flatMap Json.escapeAscii ++ '"' :: rest))) =
      .ok (address, true, rest) := by
    intro opening rest
    rw [Json.readText_plain (by decide) (by decide) (by decide), Json.readText_half rfl (by simp),
      Json.readText_escapeAscii]
    rfl
  refine ⟨hopen, .of_succ hopen fun depth rest _ _ => ?_⟩
  rw [hwritten, List.cons_append, List.cons_append, List.append_assoc, List.append_assoc,
    List.singleton_append, Json.readValue]
  show (Json.readText _ false [] _ >>= _) = _
  rw [htext]
  rfl

theorem readChars_form : Json.readChars form.toList = .ok (.object newcomer) := by
  have hwritten : form.toList = Json.writeChars Json.compact (.object newcomer) := by decide
  have hform : ∀ f ∈ newcomer, Json.Opens (Json.writeChars Json.compact f.2) ∧
      Json.ReadBack Json.compact (Json.nestingLimit - 1) f.2 := by
    have htext : ∀ s, Json.Opens (Json.writeChars Json.compact (.text s)) ∧
        Json.ReadBack Json.compact (Json.nestingLimit - 1) (.text s) := by
      intro s
      have hclear : Json.Clear (Json.nestingLimit - 1) (.text s) := .text s
      exact ⟨Json.opens_writeChars _ hclear, Json.readBack Json.compact_reads hclear⟩
    intro f hf
    simp only [newcomer, List.mem_cons, List.not_mem_nil, or_false] at hf
    rcases hf with rfl | rfl | rfl
    · exact htext "n"
    · exact readBack_address
    · exact htext "p"
  have hread : Json.ReadBack Json.compact Json.nestingLimit (.object newcomer) :=
    .object Json.compact_reads (by decide) (fun f hf => (hform f hf).2) fun f hf => (hform f hf).1
  rw [hwritten, Json.readChars_eq, hread.readWithin ⟨'\x7b', _, rfl, rfl, by decide⟩]

theorem calls_member :
    (gateway "HS999").Calls Smithy.noon (posting "/v1/users/login" ticket) .login [] member where
  route := by decide
  fields := (fieldsOf_posting rfl (by decide) readChars_ticket).trans rfl
  admits := .inl (by decide)

theorem calls_newcomer :
    (gateway "HS256").Calls Smithy.noon (posting "/v1/users" form) .createUser [] newcomer where
  route := by decide
  fields := (fieldsOf_posting rfl (by decide) readChars_form).trans rfl
  admits := .inl (by decide)

end Letterbox

open Letterbox in
/-- A service that is told to sign by an algorithm that nobody knows: the response to the
right login may be stored. -/
theorem forbids_storing_iff_member :
    let g := gateway "HS999"
    let r := posting "/v1/users/login" ticket
    Token.Issuer.make {} [] (Smithy.options "HS999") = .ok g.service.issuer ∧
      Smithy.left.store =
        (g.service.run { Smithy.desk with store := {} } [Smithy.arrival]).store ∧
      Smithy.left.Ready ∧ Smithy.noon.Calm ∧ g.Calls Smithy.noon r .login [] member ∧
      (Endpoint.call .login [] member).Whole ∧
      (∃ stop, g.BreaksOut Smithy.noon r Smithy.left stop) ∧
      (g.respond Smithy.noon r Smithy.left).1 = .broken := by
  intro g r
  have hmake : Token.Issuer.make {} [] (Smithy.options "HS999") = .ok g.service.issuer := rfl
  have hrun : Smithy.left.store =
      (g.service.run { Smithy.desk with store := {} } [Smithy.arrival]).store :=
    .symm (congrArg (·.store) (g.service.run_ada Smithy.noon.now "u1" "s1" [] []))
  have hready : Smithy.left.Ready := ⟨rfl, rfl, rfl⟩
  have hnoon : Smithy.noon.Calm := Moment.calm_of_fault rfl
  have hcalls := calls_member
  have hwhole : (Endpoint.call .login [] member).Whole := by
    intro v hv raw
    rcases List.mem_pair.1 hv with rfl | rfl
    · nofun
    · nofun
  have hescapes : g.service.Escapes Smithy.noon Smithy.left.store (Endpoint.call .login [] member)
      .unknownAlgorithm :=
    .unknownAlgorithm ⟨rfl, rfl, "u1", rfl, rfl⟩ Smithy.rightLogin_ada.credentials.recognized
      (by decide) rfl rfl
  obtain ⟨-, hbroken, hcauses⟩ := forbids_storing_iff g Smithy.noon r Smithy.left
  obtain ⟨stop, hbreaks⟩ := (hcauses hmake hrun hready.calm hnoon hcalls hwhole).2 hready
    (.inr ⟨rfl, .inr rfl, _, hescapes⟩)
  exact ⟨hmake, hrun, hready, hnoon, hcalls, hwhole, ⟨stop, hbreaks⟩, (hbroken stop hbreaks).1⟩

open Letterbox in
/-- Anybody can ask for such a response: an address with half a surrogate pair is a text of
the right shape, and has no bytes that could be stored or compared. -/
theorem broken_newcomer_may_be_stored :
    let x := (gateway "HS256").respond Smithy.noon (posting "/v1/users" form) {}
    x.1.status = 500 ∧
      x.1.cacheHeader? ≠ some "no-cache, no-store, max-age=0, must-revalidate" := by
  intro x
  have hbreaks : (gateway "HS256").BreaksOut Smithy.noon (posting "/v1/users" form) {}
      .unencodable :=
    .call calls_newcomer (.stopped rfl rfl nofun rfl)
  have hbroken : x.1 = .broken := hbreaks.respond.1
  rw [hbroken]
  exact ⟨rfl, nofun⟩

end Gateway

end Guildhall
