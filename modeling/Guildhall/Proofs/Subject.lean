/-
Guildhall/Proofs/Subject.lean

Whom users work on when they work on themselves.  The gate compares the user in the
path with the user in the token as both stand; the service trims what it is given
before it looks it up.  So a caller who is let in to one of these operations works on
the user whose id is that of the token without the white space around it, which is the
id of the token if there is none.  Nothing of anybody else is changed, and nothing of
anybody else makes a difference to the response.

Main statement: `Gateway.confined_to_subject`.
-/
import Guildhall.Proofs.Input
import Guildhall.Proofs.Mediation
import Guildhall.Proofs.RoundTrip
import Guildhall.Proofs.View

namespace Guildhall

open Session

/-- The user whom a call is about, if it is one that users may make for themselves. -/
def Call.self? : Call → Option Value
  | .buy user _ | .equip user _ | .deleteUser user | .userItems user | .equippedItems user =>
    some user
  | _ => none

/-! ### What makes a difference -/

section Within

variable {m : Moment} {d : Desk} {p : String → Bool}

theorem Registry.within_delete {id : Value} : Within (Store.rowsOf p) (delete id) d := by
  exact .after fun k _ => .reporting (.transaction (within_runFor Store.deleteUser_rowsOf))

theorem Catalogue.within_possessions {operation : String} {equippedOnly : Bool} {userId : Value}
    (hk : ∀ k, Input.identifier userId "user_id" = .ok k → p k = true) :
    Within (Store.rowsOf p) (possessions operation equippedOnly userId) d := by
  refine .after fun k hid => .reporting (.transaction (.readingFor ?_ fun d' _ => ?_))
  · dsimp only
    rw [Store.user?_rowsOf (hk k hid), Store.possessionsOf_rowsOf (hk k hid)]
  · exact .guarded fun _ => within_pure

theorem Market.within_findPair {givenUser givenItem : Value} {u i : String} (hk : p u = true) :
    Within (Store.rowsOf p) (findPair givenUser givenItem u i) d := by
  refine .readingFor ?_ fun d' _ => ?_
  · rw [Store.user?_rowsOf hk]
  · cases d.store.user? u with
    | none => exact within_fail
    | some user =>
      refine .readingFor rfl fun d'' _ => ?_
      cases d'.store.item? i with
      | none => exact within_fail
      | some item => exact within_pure

theorem Market.within_buy {userId itemId : Value}
    (hk : ∀ k, Input.identifier userId "user_id" = .ok k → p k = true)
    (hnames : (d.store.users.map (·.name)).Nodup)
    (hemails : (d.store.users.map (·.email)).Nodup) :
    Within (Store.rowsOf p) (buy m userId itemId) d := by
  refine .after fun u hu => .after fun i _ => .reporting (.transaction ?_)
  have hpu := hk u hu
  refine (within_findPair hpu).bind fun pair d₁ hpair => ?_
  obtain ⟨user, item⟩ := pair
  obtain ⟨hd₁, huser, -⟩ := findPair_eq_ok hpair
  refine .guarded fun _ => .guarded fun _ => ?_
  -- The user who pays is shown, with a name and an address that nobody else has.
  have hpuser : p user.id = true := Store.id_of_user? huser ▸ hpu
  have hmem : user ∈ d₁.store.users := hd₁ ▸ Store.mem_of_user? huser
  rw [← hd₁] at hnames hemails
  refine (within_run ?_).bind
    fun _ d₂ _ => within_flush.bind fun _ d₃ _ => .reading ?_ fun d₄ _ => ?_
  · exact Store.writeUser_rowsOf hpuser hnames hemails hmem rfl
  · rw [Store.possession?_rowsOf hpu]
  · by_cases hnew : (d₃.store.possession? u i).isNone
    · rw [if_pos hnew]
      exact (within_run (Store.insertPossession_rowsOf hpu)).bind fun _ _ _ => within_flush
    · rw [if_neg hnew]
      exact within_pure

theorem Wardrobe.within_equip {userId itemId : Value}
    (hk : ∀ k, Input.identifier userId "user_id" = .ok k → p k = true) :
    Within (Store.rowsOf p) (equip m userId itemId) d := by
  refine .after fun u hu => .after fun i _ => .reporting (.transaction ?_)
  refine .readingFor rfl fun d₁ _ => ?_
  cases d.store.item? i with
  | none => exact within_fail
  | some item =>
    refine .readingFor ?_ fun d₂ _ => ?_
    · dsimp only
      rw [Store.possessionsIn_rowsOf (hk u hu)]
    · dsimp only
      cases (d₁.store.possessionsIn u item.slot).find? (·.itemId == i) with
      | none => exact within_fail
      | some target =>
        dsimp only
        split
        · exact within_pure
        · refine (within_run ?_).bind fun _ _ _ => within_flush.bind fun _ _ _ => within_pure
          exact congrArg Except.ok Store.wear_rowsOf

/-- **A call that users may make for themselves comes to the same end whatever the rows
of other users are**, and does the same to the rows of its user. -/
theorem Service.within_perform {service : Service} {call : Call} {v : Value}
    (hcall : call.self? = some v)
    (hk : ∀ field k, Input.identifier v field = .ok k → p k = true)
    (hnames : (d.store.users.map (·.name)).Nodup)
    (hemails : (d.store.users.map (·.email)).Nodup) :
    Within (Store.rowsOf p) (service.perform m call) d := by
  cases call with
  | buy userId itemId =>
    obtain rfl := Option.some.inj hcall
    exact (Market.within_buy (hk _) hnames hemails).bind fun _ _ _ => within_pure
  | equip userId itemId =>
    obtain rfl := Option.some.inj hcall
    exact (Wardrobe.within_equip (hk _)).bind fun _ _ _ => within_pure
  | deleteUser id => exact Registry.within_delete.bind fun _ _ _ => within_pure
  | userItems userId =>
    obtain rfl := Option.some.inj hcall
    exact (Catalogue.within_possessions (hk _)).bind fun _ _ _ => within_pure
  | equippedItems userId =>
    obtain rfl := Option.some.inj hcall
    exact (Catalogue.within_possessions (hk _)).bind fun _ _ _ => within_pure
  | _ => cases hcall

end Within

/-! ### What is changed -/

/-- **A call that users may make for themselves changes no row of other users**, and no
item and no announcement. -/
theorem Deed.rowsOf_eq {m : Moment} {s s' : Store} {call : Call} {answer : Answer} {v : Value}
    {p : String → Bool} (h : Deed m s call answer s') (hcall : call.self? = some v)
    (hk : ∀ field k, Input.identifier v field = .ok k → p k = false) :
    s'.rowsOf p = s.rowsOf p := by
  cases h with
  | look => rfl
  | deleteUser hid =>
    obtain rfl := Option.some.inj hcall
    exact Store.rowsOf_deleteUser (hk _ _ hid)
  | buy huserId _ huser _ _ _ hwrite _ hinsert =>
    obtain rfl := Option.some.inj hcall
    have hpu := hk _ _ huserId
    rw [Store.rowsOf_insertPossession hpu hinsert]
    exact Store.rowsOf_writeUser (Store.id_of_user? huser ▸ hpu) hwrite
  | buyAgain huserId _ huser _ _ _ hwrite =>
    obtain rfl := Option.some.inj hcall
    exact Store.rowsOf_writeUser (Store.id_of_user? huser ▸ hk _ _ huserId) hwrite
  | @equip userId itemId u i item target huserId _ hitem htarget =>
    obtain rfl := Option.some.inj hcall
    have hown : ∀ q ∈ s.possessionsIn u item.slot, p q.userId = false := by
      intro q hq
      rw [(Store.mem_possessionsIn.1 hq).2.1]
      exact hk _ _ huserId
    split
    · rfl
    · exact Store.rowsOf_wear hown (hown _ (List.mem_of_find?_eq_some htarget))
  | _ => cases hcall

/-! ### Endpoints -/

namespace Gateway

open Journal (Context)

/-- The endpoints that users may reach for themselves, and for nobody else. -/
def Endpoint.forOneself : List Endpoint := [.buy, .equip, .deleteUser, .userItems, .equippedItems]

variable {g : Gateway} {m : Moment} {r : Request} {d : Desk} {e : Endpoint}
  {parameters : List String} {token : String} {c : Claims} {v : Store → Store}

/-- The call of such an endpoint is about the user in the path. -/
theorem Endpoint.self?_call (he : e ∈ forOneself) (fields : List (String × Value)) :
    (e.call parameters fields).self? = some (.text (parameters.head?.getD "")) := by
  simp only [forOneself, List.mem_cons, List.not_mem_nil, or_false] at he
  rcases he with rfl | rfl | rfl | rfl | rfl <;> rfl

/-- Such an endpoint asks for the caller as the subject, or for special rights. -/
theorem Endpoint.policy_forOneself (he : e ∈ forOneself) :
    e.policy = .selfOrAdmin ∨ e.policy = .selfOrAdminOrService := by
  revert he
  cases e <;> decide

/-- Who is let in and is neither an administrator nor a service is the user in the path. -/
theorem subject_of_admits (he : e ∈ Endpoint.forOneself)
    (hcredential : Bearer.credential r.authorization = .ok token)
    (hdecode : Token.decode g.gate.decoder token = .ok c) (hadmin : c.isAdmin = false)
    (hservice : Claims.serviceAudience ∉ c.audience) {scope : Context}
    (hadmits : (g.gate.screen m.now (entrant e parameters r) scope).1 = .ok ()) :
    parameters.head? = some c.userId := by
  have hpublic : e.operation ∉ publicOperations := by
    revert he
    cases e <;> decide
  obtain ⟨token', c', htoken, hdecode', hpermit⟩ := (admits_iff hpublic).1 hadmits
  obtain rfl : token = token' := Except.ok.inj (hcredential.symm.trans htoken)
  obtain rfl : c = c' := Except.ok.inj (hdecode.symm.trans hdecode')
  obtain ⟨policy, hlookup, hholds⟩ := hpermit.policy
  obtain rfl : e.policy = policy := Option.some.inj (Endpoint.lookup_operation.symm.trans hlookup)
  have hself : e.userInPath parameters = some c.userId := by
    rcases Endpoint.policy_forOneself he with hpolicy | hpolicy <;> rw [hpolicy] at hholds
    · rcases hholds with hadmin' | ⟨-, hself⟩
      · exact absurd (hadmin.symm.trans hadmin') Bool.false_ne_true
      · exact hself
    · rcases hholds with hadmin' | ⟨-, hself⟩ | hservice'
      · exact absurd (hadmin.symm.trans hadmin') Bool.false_ne_true
      · exact hself
      · exact absurd hservice' hservice
  rw [← hself]
  simp only [Endpoint.forOneself, List.mem_cons, List.not_mem_nil, or_false] at he
  rcases he with rfl | rfl | rfl | rfl | rfl <;> rfl

/-- A request is served by the endpoint to which it leads. -/
theorem respond_of_route
    (hroute : g.route r.method (Target.ofRaw r.target).path = .found e parameters) :
    g.respond m r d = g.serve m e parameters r d := by
  unfold respond
  dsimp only
  rw [hroute]

/-- A gate that is in front of work within a view. -/
theorem Gate.run_seen {gate : Gate} {requestId : String} {now : Instant} {entrant : Entrant}
    {x : Session Answer} {scope : Context} (hx : Within v x d) :
    (gate.run requestId now entrant (fun _ => x) scope (d.seen v)).result =
      seen v (gate.run requestId now entrant (fun _ => x) scope d).result := by
  unfold Gate.run
  split
  · rfl
  · cases gate.deadline.obstacle? entrant.operation with
    | some stop => rfl
    | none =>
      unfold Within at hx
      unfold Gate.work
      beta_reduce
      rw [hx]
      cases x d with
      | ok a d' => rfl
      | error stop d' => cases stop <;> rfl

/-- **Users who work on themselves work on the rows of one user only.**  A request is let
in to one of the operations that users may run for themselves, with claims that are
neither an administrator's nor a service's.  The user is that of the claims, without
white space around the id.  The rows of everybody else, the items and the announcements
are then as they were; and the response, and what is done to the rows of that user,
would be the same if any rows of anybody else were not there (of the users of a table
each has a name and an email address of their own). -/
theorem confined_to_subject (g : Gateway) (m : Moment) (r : Request) (d : Desk) {e : Endpoint}
    {parameters : List String}
    (hroute : g.route r.method (Target.ofRaw r.target).path = .found e parameters)
    (he : e ∈ Endpoint.forOneself) {token : String} {c : Claims}
    (hcredential : Bearer.credential r.authorization = .ok token)
    (hdecode : Token.decode g.gate.decoder token = .ok c) (hadmin : c.isAdmin = false)
    (hservice : Claims.serviceAudience ∉ c.audience) {scope : Context}
    (hadmits : (g.gate.screen m.now (entrant e parameters r) scope).1 = .ok ()) :
    (Text.IsTrimmed c.userId → Text.strip c.userId = c.userId) ∧
      (∀ p : String → Bool, p (Text.strip c.userId) = false →
        (g.respond m r d).2.store.rowsOf p = d.store.rowsOf p) ∧
      ((d.store.users.map (·.name)).Nodup → (d.store.users.map (·.email)).Nodup →
        ∀ p : String → Bool, p (Text.strip c.userId) = true →
          g.respond m r (d.seen (Store.rowsOf p)) =
            ((g.respond m r d).1, (g.respond m r d).2.seen (Store.rowsOf p))) := by
  have hsubject := subject_of_admits he hcredential hdecode hadmin hservice hadmits
  have hself : ∀ fields, (e.call parameters fields).self? = some (.text c.userId) := by
    intro fields
    rw [Endpoint.self?_call he, hsubject]
    rfl
  -- What the service makes of the user in the path is the trimmed text.
  have hkey : ∀ field k, Input.identifier (.text c.userId) field = .ok k →
      k = Text.strip c.userId := by
    intro field k hk
    obtain ⟨raw, hraw, rfl, -⟩ := Input.text_eq_ok.1 hk
    rcases hraw with hraw | hraw <;> cases hraw
    rfl
  refine ⟨Text.strip_eq_self_iff.2, fun p hp => ?_, fun hnames hemails p hp => ?_⟩
  · rw [respond_of_route hroute]
    have hserved := served g m e parameters r d
    generalize g.serve m e parameters r d = x at hserved
    cases hserved with
    | unread => rfl
    | denied | broken => rfl
    | stopped _ hkept => exact congrArg _ hkept.store
    | answered _ _ hperform =>
      refine (Service.deed_of_perform hperform).rowsOf_eq (hself _) fun field k hk => ?_
      rw [hkey field k hk, hp]
  · rw [respond_of_route hroute, respond_of_route hroute]
    unfold serve
    cases fieldsOf e r with
    | error refusal => rfl
    | ok fields =>
      have hwithin : Within (Store.rowsOf p) (g.service.perform m (e.call parameters fields)) d :=
        Service.within_perform (hself fields) (fun field k hk => hkey field k hk ▸ hp) hnames
          hemails
      dsimp only
      rw [Gate.run_seen hwithin]
      cases (g.gate.run r.id m.now (entrant e parameters r) (fun _ =>
        g.service.perform m (e.call parameters fields)) {} d).result <;> rfl

/-- A request that is let in, has time and is answered. -/
theorem respond_of_admits {fields : List (String × Value)} {answer : Answer} {d' : Desk}
    (hroute : g.route r.method (Target.ofRaw r.target).path = .found e parameters)
    (hfields : fieldsOf e r = .ok fields)
    (hadmits : ∀ scope, (g.gate.screen m.now (entrant e parameters r) scope).1 = .ok ())
    (htime : g.gate.deadline.obstacle? e.operation = none)
    (hperform : g.service.perform m (e.call parameters fields) d = .ok answer d') :
    g.respond m r d = (.ok (e.shown answer), d') := by
  have hrun : (g.gate.run r.id m.now (entrant e parameters r)
      (fun _ => g.service.perform m (e.call parameters fields)) {} d).result = .ok answer d' :=
    Gate.run_eq_ok.2 ⟨_, Prod.ext (hadmits _) rfl, htime, hperform⟩
  rw [respond_of_route hroute]
  unfold serve
  rw [hfields]
  dsimp only
  rw [hrun]
  rfl

/-! ### White space around an id -/

namespace Turnstile

/-- A gateway that has all the time and checks no signatures. -/
def gateway : Gateway :=
  ⟨⟨{}, .never⟩, ⟨⟨"HS256", .error .keyRejected, 3600000000, "guild", "guild", {}⟩, ""⟩, "/v1"⟩

/-- The moment of every request. -/
def noon : Moment := ⟨⟨1000000⟩, none⟩

def user (id name email : String) : User :=
  { id, name, email, password := "", createdAt := ⟨0⟩, updatedAt := ⟨0⟩ }

def ada : User := user "u1" "ada" "a@b.c"

def bob : User := user "u2" "bob" "b@b.c"

/-- A desk with two users. -/
def desk : Desk :=
  { store :=
      { users := [ada, bob]
        stats := [{ id := "s1", userId := "u1" }, { id := "s2", userId := "u2" }] } }

/-- Claims of a user who is no administrator. -/
def claims (id : String) : Claims :=
  { expiresAt := ⟨3601000000⟩, userId := id, audience := ["guild"] }

theorem portable_claims (id : String) : (claims id).Portable where
  audience := by
    show ["guild"] ≠ [""]
    decide
  expiresAt := (⟨rfl, by decide⟩ : Instant.IsWhole ⟨3601000000⟩)
  issuedAt := nofun
  notBefore := nofun

/-- There is a token for the claims. -/
theorem exists_token (id : String) :
    ∃ token, Bearer.credential (some (Bearer.header token)) = .ok token ∧
      Token.decode gateway.gate.decoder token = .ok (claims id) := by
  have hsecret : Token.Key.IsSecret (.text "secret") := ⟨by decide, by decide⟩
  have hsign : ∃ signature, Token.sign {} "HS256" (.text "secret")
      (Token.signingInput "HS256" (claims id).payload) = .ok signature :=
    ⟨_, (Token.sign_eq_ok rfl).2 ⟨hsecret, rfl⟩⟩
  obtain ⟨signature, hsign⟩ := hsign
  have hencode := Token.encode_eq_ok.2 ⟨signature, hsign, rfl⟩
  obtain ⟨hne, hblank⟩ := Token.isBlank_of_encode hencode
  exact ⟨_, Bearer.credential_header hne hblank,
    Token.decode_of_trusts (by decide) hencode (portable_claims id)
      (Token.Decoder.trusts_of_key_eq_none rfl)⟩

/-- A request to remove the user in the path. -/
def request (target token : String) : Request :=
  { method := "DELETE", target, authorization := some (Bearer.header token) }

/-- The gate lets a user in who is named by the path as by the token. -/
theorem admits_deleteUser (id target : String) {token : String} (hne : id ≠ "")
    (hcredential : Bearer.credential (some (Bearer.header token)) = .ok token)
    (hdecode : Token.decode gateway.gate.decoder token = .ok (claims id)) (scope : Context) :
    (gateway.gate.screen noon.now (entrant .deleteUser [id] (request target token)) scope).1 =
      .ok () := by
  refine (admits_iff (by decide)).2 ⟨token, claims id, hcredential, hdecode, ?_⟩
  have hinTime : noon.now ≤ Instant.mk 3601000000 := by decide
  exact
    { inTime := hinTime
      privileged := fun h => absurd h (by decide)
      policy := ⟨.selfOrAdmin, by decide, .inr ⟨hne, rfl⟩⟩ }

end Turnstile

open Turnstile in
/-- Somebody leaves, and the other user is as before. -/
theorem confined_to_subject_turnstile :
    ∃ token, let r := request "/v1/users/u1" token
      gateway.route r.method (Target.ofRaw r.target).path = .found .deleteUser ["u1"] ∧
        Endpoint.deleteUser ∈ Endpoint.forOneself ∧
        Bearer.credential r.authorization = .ok token ∧
        Token.decode gateway.gate.decoder token = .ok (claims "u1") ∧
        (claims "u1").isAdmin = false ∧ Claims.serviceAudience ∉ (claims "u1").audience ∧
        (gateway.gate.screen noon.now (entrant .deleteUser ["u1"] r) {}).1 = .ok () ∧
        (gateway.respond noon r desk).2.store.rowsOf (· == "u2") =
          { users := [bob], stats := [{ id := "s2", userId := "u2" }] } := by
  obtain ⟨token, hcredential, hdecode⟩ := exists_token "u1"
  have hroute : gateway.route "DELETE" (Target.ofRaw "/v1/users/u1").path =
      .found .deleteUser ["u1"] := by decide
  have he : Endpoint.deleteUser ∈ Endpoint.forOneself := by decide
  have hservice : Claims.serviceAudience ∉ (claims "u1").audience := by decide
  have hadmits := admits_deleteUser "u1" "/v1/users/u1" (by decide) hcredential hdecode {}
  obtain ⟨-, hothers, -⟩ := confined_to_subject gateway noon (request "/v1/users/u1" token) desk
    hroute he hcredential hdecode rfl hservice hadmits
  refine ⟨token, hroute, he, hcredential, hdecode, rfl, hservice, hadmits, ?_⟩
  rw [hothers _ (by decide)]
  rfl

open Turnstile in
/-- Somebody whose token has blanks around the id is let in under that very text, and
removes the user without the blanks, who has another id. -/
theorem removes_user_without_blanks :
    ∃ token c, let r := request "/v1/users/%20u1%20" token
      gateway.route r.method (Target.ofRaw r.target).path = .found .deleteUser [c.userId] ∧
        Bearer.credential r.authorization = .ok token ∧
        Token.decode gateway.gate.decoder token = .ok c ∧
        c.isAdmin = false ∧ Claims.serviceAudience ∉ c.audience ∧
        (gateway.gate.screen noon.now (entrant .deleteUser [c.userId] r) {}).1 = .ok () ∧
        ada ∈ desk.store.users ∧ ada.id ≠ c.userId ∧
        (gateway.respond noon r desk).2.store.users = [bob] := by
  obtain ⟨token, hcredential, hdecode⟩ := exists_token " u1 "
  have hroute : gateway.route "DELETE" (Target.ofRaw "/v1/users/%20u1%20").path =
      .found .deleteUser [" u1 "] := by decide
  have hadmits := admits_deleteUser " u1 " "/v1/users/%20u1%20" (by decide) hcredential hdecode
  have hperform : gateway.service.perform noon (.deleteUser (.text " u1 ")) desk =
      .ok .done { desk with store := desk.store.deleteUser "u1" } := rfl
  have hrespond := respond_of_admits (r := request "/v1/users/%20u1%20" token) (d := desk) hroute
    rfl hadmits rfl hperform
  refine ⟨token, claims " u1 ", hroute, hcredential, hdecode, rfl, by decide, hadmits {}, .head _,
    by decide, ?_⟩
  rw [hrespond]
  rfl

end Gateway

end Guildhall
