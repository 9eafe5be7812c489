/-
Guildhall/Proofs/Forwarding.lean

What the gateway adds to the service, which is nothing.  Every endpoint forwards to one
call of the service, under the name of that call and with named arguments: the parts of
the path and the fields of the body as the schema has read them (`Endpoint.arguments`).
A request that is let in is answered by what comes of that call, and by nothing else,

    g.respond m r d = conclude e (g.service.perform m call d),

so the desk is the one that the call leaves, and the response tells its result, or of its
failure the category and the message, or nothing at all (`Reflects`).

Main statement: `Gateway.respond_reflects`.
-/
import Guildhall.Proofs.Calm
import Guildhall.Proofs.Subject
import Guildhall.Service.Named

namespace Guildhall.Gateway

open Journal (Context)
open Session

variable {g : Gateway} {m : Moment} {r : Request} {d : Desk} {e : Endpoint}
  {parameters : List String} {fields : List (String × Value)}

/-! ### Fields by their names -/

/-- A field that is read has the name of its rule. -/
theorem FieldRule.name_of_read {rule : FieldRule} {field : String × Value}
    (h : rule.read fields = .ok field) : field.1 = rule.name := by
  unfold FieldRule.read at h
  split at h
  · cases h
  · cases h
    rfl
  · split at h
    · cases h
      rfl
    · split at h
      · cases h
        rfl
      · cases h

/-- The fields that are read are read each by its rule. -/
theorem Schema.forall₂_of_read {schema : Schema} {read : List (String × Value)}
    (h : schema.read fields = .ok read) :
    List.Forall₂ (fun rule field => FieldRule.read rule fields = .ok field) schema read := by
  unfold Schema.read at h
  induction schema generalizing read with
  | nil =>
    cases h
    exact .nil
  | cons rule schema ih =>
    rw [List.mapM_cons] at h
    obtain ⟨field, hfield, h⟩ := Except.bind_eq_ok.1 h
    obtain ⟨rest, hrest, h⟩ := Except.bind_eq_ok.1 h
    cases h
    exact .cons hfield (ih hrest)

/-- The fields that are read are those of the schema, in its order. -/
theorem Schema.names_of_read {schema : Schema} {read : List (String × Value)}
    (h : schema.read fields = .ok read) : read.map Prod.fst = schema.map (·.name) := by
  have hread := Schema.forall₂_of_read h
  clear h
  induction hread with
  | nil => rfl
  | cons hfield _ ih => rw [List.map_cons, List.map_cons, FieldRule.name_of_read hfield, ih]

/-- Fields with different names are determined by the value of each name. -/
theorem fields_eq_of_names {names : List String} (hnames : fields.map Prod.fst = names)
    (hdistinct : names.Nodup) : fields = names.map fun name => (name, Value.get fields name) := by
  induction fields generalizing names with
  | nil =>
    obtain rfl := hnames
    rfl
  | cons field fields ih =>
    obtain ⟨name, v⟩ := field
    obtain rfl := hnames
    obtain ⟨hnotMem, hrest⟩ := List.nodup_cons.1 hdistinct
    have hget : ∀ other ∈ fields.map Prod.fst,
        Value.get ((name, v) :: fields) other = Value.get fields other := by
      intro other hother
      have hne : (other == name) = false := beq_false_of_ne fun h => hnotMem (h ▸ hother)
      unfold Value.get
      rw [List.lookup_cons, hne]
    have hfirst : Value.get ((name, v) :: fields) name = v := by
      unfold Value.get
      rw [List.lookup_cons, beq_self_eq_true]
      rfl
    rw [List.map_cons, List.map_cons, hfirst, List.map_congr_left fun other hother => by
      rw [hget other hother]]
    exact congrArg _ (ih rfl hrest)

namespace Endpoint

/-- The names of the fields of the body of an endpoint. -/
def fieldNames (e : Endpoint) : List String := (e.schema?.getD []).map (·.name)

theorem nodup_fieldNames : e.fieldNames.Nodup := by
  cases e <;> decide

end Endpoint

/-- The fields are read by the schema of the endpoint from the object in the body, or there
is nothing to read. -/
theorem exists_read_of_fieldsOf (h : fieldsOf e r = .ok fields) :
    ∃ given, (given = [] ∨ readJson r.body = .ok (.object given)) ∧
      Schema.read (e.schema?.getD []) given = .ok fields := by
  unfold fieldsOf at h
  cases hschema : e.schema? with
  | none =>
    rw [hschema] at h
    cases h
    exact ⟨[], .inl rfl, rfl⟩
  | some schema =>
    rw [hschema] at h
    unfold readBody at h
    dsimp only at h
    split at h
    · cases h
    · split at h
      · cases h
      · obtain ⟨v, hv, h⟩ := Except.bind_eq_ok.1 h
        split at h
        · exact ⟨_, .inr hv, h⟩
        · cases h

/-- The fields of a body that is read have the names that the endpoint asks for. -/
theorem names_of_fieldsOf (h : fieldsOf e r = .ok fields) :
    fields.map Prod.fst = e.fieldNames := by
  obtain ⟨_, -, hread⟩ := exists_read_of_fieldsOf h
  exact Schema.names_of_read hread

/-! ### The call behind an endpoint -/

namespace Endpoint

/-- The name of the call that an endpoint forwards to. -/
def callName : Endpoint → String
  | createUser => "users.create"
  | login => "users.login"
  | listUsers => "users.list"
  | readUser => "users.read"
  | updateUser => "users.update"
  | deleteUser => "users.delete"
  | grantCurrencies => "currencies.grant_currencies"
  | version => "users.get_version"
  | createItem => "store_items.create"
  | listItems => "store_items.list"
  | readItem => "store_items.read"
  | updateItem => "store_items.update"
  | deleteItem => "store_items.delete"
  | buy => "purchase.buy_by_user"
  | equip => "equip.equip_by_user"
  | throwAway => "purchase.throw_away_by_user"
  | userItems => "store_items.get_user_items_ids"
  | equippedItems => "store_items.get_equipped_user_items_ids"
  | readStats => "stats.get_stats"
  | addStats => "stats.update_stats"
  | createNews => "news.create"
  | listNews => "news.list"
  | readNews => "news.read"
  | updateNews => "news.update"

/-- The arguments of the call that the path gives, in the order of the path. -/
def pathArguments : Endpoint → List String
  | readUser | grantCurrencies => ["provided_id"]
  | updateUser | deleteUser | userItems | equippedItems => ["user_id"]
  | readItem | updateItem | deleteItem => ["item_id"]
  | buy | equip | throwAway => ["user_id", "item_id"]
  | readStats | addStats => ["username"]
  | readNews | updateNews => ["news_id"]
  | _ => []

/-- The argument that a field of the body gives: the one of its name, but for the key of a
login and the type of an item. -/
def argumentOf (e : Endpoint) (field : String) : String :=
  match e, field with
  | login, "id" => "provided_id"
  | createItem, "type" | updateItem, "type" => "item_type"
  | _, _ => field

/-- Whether a field is forwarded; of a user, only what is not null is. -/
def forwards (e : Endpoint) (v : Value) : Bool :=
  match e, v with
  | updateUser, .null => false
  | _, _ => true

/-- The named arguments of the call behind an endpoint: the parts of the path and the
fields of the body. -/
def arguments (e : Endpoint) (parameters : List String) (fields : List (String × Value)) :
    List (String × Value) :=
  e.pathArguments.zip (parameters.map .text) ++
    (fields.filter fun field => e.forwards field.2).map fun field =>
      (e.argumentOf field.1, field.2)

/-- **An endpoint runs the call of its name with the arguments of its request**, every one
of them under its own name. -/
theorem ofNamed_arguments (hlength : parameters.length = e.path.count .parameter)
    (hnames : fields.map Prod.fst = e.fieldNames) :
    Call.ofNamed e.callName (e.arguments parameters fields) = .ok (e.call parameters fields) := by
  rw [fields_eq_of_names hnames nodup_fieldNames]
  generalize Value.get fields = field
  cases e with
  | createUser | login | listUsers | version | createItem | listItems | createNews | listNews =>
    rfl
  | readUser | updateUser | deleteUser | grantCurrencies | readItem | updateItem | deleteItem
  | userItems | equippedItems | readStats | addStats | readNews | updateNews =>
    obtain ⟨first, rfl⟩ := List.length_eq_one_iff.1 hlength
    rfl
  | buy | equip | throwAway =>
    obtain ⟨first, second, rfl⟩ := List.length_eq_two.1 hlength
    rfl

end Endpoint

/-! ### Requests that are let in -/

/-- The gate lets everybody in who may run the operation. -/
theorem screen_of_admits (hadmits : g.Admits m.now e parameters r) (scope : Context) :
    (g.gate.screen m.now (entrant e parameters r) scope).1 = .ok () := by
  by_cases hpublic : e.operation ∈ publicOperations
  · have hpolicy : (entrant e parameters r).policy = .everyone :=
      Endpoint.policy_eq_everyone.2 hpublic
    unfold Gate.screen
    rw [if_pos hpolicy]
  · exact (admits_iff hpublic).2 (hadmits.resolve_left hpublic)

/-- Work that is let in, has time and ends on its own, ends as it would without a gate. -/
theorem Gate.result_of_ends {gate : Gate} {requestId : String} {now : Instant}
    {entrant : Entrant} {x : Session Answer} {scope : Context}
    (hscreen : ∀ scope, (gate.screen now entrant scope).1 = .ok ())
    (htime : gate.deadline.obstacle? entrant.operation = none) (hends : ¬Halts x d .hung) :
    (gate.run requestId now entrant (fun _ => x) scope d).result = x d := by
  rw [run_of_passed (hscreen _)]
  unfold passed work
  rw [htime]
  dsimp only
  split
  · rename_i d' hhung
    exact absurd ⟨d', hhung⟩ hends
  · rfl

/-- **A request that is let in is answered by what comes of its call.** -/
theorem respond_eq_conclude
    (hroute : g.route r.method (Target.ofRaw r.target).path = .found e parameters)
    (hfields : fieldsOf e r = .ok fields) (hadmits : g.Admits m.now e parameters r)
    (htime : g.gate.deadline.obstacle? e.operation = none)
    (hends : ¬Halts (g.service.perform m (e.call parameters fields)) d .hung) :
    g.respond m r d = conclude e (g.service.perform m (e.call parameters fields) d) := by
  rw [respond_of_route hroute]
  unfold serve
  rw [hfields]
  dsimp only
  rw [Gate.result_of_ends (screen_of_admits hadmits) htime hends]

/-! ### What is told -/

/-- The endpoints that answer with an empty object. -/
def Endpoint.bare : List Endpoint := [.deleteUser, .deleteItem, .buy, .equip, .throwAway]

/-- The body of an error: a code and a message, and nothing else. -/
def told (code message : String) : Value :=
  .object [("error", .object [("code", .text code), ("message", .text message)])]

/-- What a request comes to, given what its call comes to: the desk is the one that the
call leaves.  A result is shown, a failure is told by its category and its message, and of
anything else nothing is told. -/
inductive Reflects (e : Endpoint) : EStateM.Result Stop Desk Answer → Response × Desk → Prop
  | result {answer : Answer} {d' : Desk} {response : Response}
      (hstatus : response.status = 200)
      (hbody : response.body = some (if e ∈ Endpoint.bare then .object []
        else answer.value Instant.isoZulu)) :
      Reflects e (.ok answer d') (response, d')
  | failure {f : Failure} {d' : Desk} {response : Response}
      (hstatus : response.status = f.category.status)
      (hbody : response.body = some (told f.category.code f.message)) :
      Reflects e (.error (.failure f) d') (response, d')
  | other {stop : Stop} {d' : Desk} {response : Response} (hstop : stop.failure? = none)
      (hstatus : response.status = 500)
      (hbody : response.body = some (told "INTERNAL" "Internal error")) :
      Reflects e (.error stop d') (response, d')

/-- Users are not listed, so the list of them is not shown either. -/
theorem perform_ne_ok_of_listUsers (service : Service) (m : Moment) (d d' : Desk)
    (answer : Answer) : service.perform m .listUsers d ≠ .ok answer d' := nofun

/-- What is shown of a result that there can be. -/
theorem Endpoint.shown_eq (he : e ≠ .listUsers) (answer : Answer) :
    e.shown answer = if e ∈ bare then .object [] else answer.value Instant.isoZulu := by
  cases e <;> first | rfl | exact absurd rfl he

/-- **The gateway refines the service.**  For every desk and every request that leads to an
endpoint, fits its schema, is let in and has time: there is one call of the service, that
of the name of the endpoint with the parts of the path and the fields of the body for
named arguments, and unless this call hangs, the request comes to what the call comes to. -/
theorem respond_reflects (g : Gateway) (m : Moment) (r : Request) (d : Desk) {e : Endpoint}
    {parameters : List String} {fields : List (String × Value)}
    (hroute : g.route r.method (Target.ofRaw r.target).path = .found e parameters)
    (hfields : fieldsOf e r = .ok fields) (hadmits : g.Admits m.now e parameters r)
    (htime : g.gate.deadline.obstacle? e.operation = none) :
    ∃ call, Call.ofNamed e.callName (e.arguments parameters fields) = .ok call ∧
      (¬Halts (g.service.perform m call) d .hung →
        Reflects e (g.service.perform m call d) (g.respond m r d)) := by
  obtain ⟨-, hlength, -⟩ := route_eq_found hroute
  refine ⟨e.call parameters fields,
    Endpoint.ofNamed_arguments hlength (names_of_fieldsOf hfields), fun hends => ?_⟩
  rw [respond_eq_conclude hroute hfields hadmits htime hends]
  cases hend : g.service.perform m (e.call parameters fields) d with
  | ok answer d' =>
    have he : e ≠ .listUsers := by
      rintro rfl
      exact perform_ne_ok_of_listUsers _ _ _ _ _ hend
    exact .result rfl (congrArg some (Endpoint.shown_eq he answer))
  | error stop d' =>
    cases stop with
    | failure f => exact .failure rfl rfl
    | _ => exact .other rfl rfl rfl

open Turnstile in
/-- Somebody leaves: the response is an empty object, and the desk is as the removal by
the service leaves it. -/
theorem respond_reflects_turnstile :
    ∃ token call, let r := request "/v1/users/u1" token
      gateway.route r.method (Target.ofRaw r.target).path = .found .deleteUser ["u1"] ∧
        fieldsOf .deleteUser r = .ok [] ∧ gateway.Admits noon.now .deleteUser ["u1"] r ∧
        Call.ofNamed "users.delete" [("user_id", .text "u1")] = .ok call ∧
        ¬Halts (gateway.service.perform noon call) desk .hung ∧
        Reflects .deleteUser (gateway.service.perform noon call desk)
          (gateway.respond noon r desk) := by
  obtain ⟨token, hcredential, hdecode⟩ := exists_token "u1"
  have hroute : gateway.route "DELETE" (Target.ofRaw "/v1/users/u1").path =
      .found .deleteUser ["u1"] := by decide
  have hadmits : gateway.Admits noon.now .deleteUser ["u1"] (request "/v1/users/u1" token) :=
    .inr ((admits_iff (by decide)).1
      (admits_deleteUser "u1" "/v1/users/u1" (by decide) hcredential hdecode {}))
  have hends : ¬Halts (gateway.service.perform noon (.deleteUser (.text "u1"))) desk .hung := by
    rintro ⟨_, ⟨⟩⟩
  obtain ⟨call, hcall, hreflects⟩ := respond_reflects gateway noon
    (request "/v1/users/u1" token) desk hroute
    (rfl : fieldsOf .deleteUser _ = .ok []) hadmits rfl
  obtain rfl : .deleteUser (.text "u1") = call := Except.ok.inj hcall
  exact ⟨token, _, hroute, rfl, hadmits, rfl, hends, hreflects hends⟩

end Guildhall.Gateway
