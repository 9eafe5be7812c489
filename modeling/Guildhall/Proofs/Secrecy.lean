/-
Guildhall/Proofs/Secrecy.lean

What is stored of passwords does not leak.  Two desks that are the same but for what is
stored of the passwords of some users are used side by side.  A call, with the same
arguments at the same moment, comes to the same end at both, and a request gets the same
response; and the desks that are left are again the same but for these passwords, so a
whole run does not tell them apart:

    d.seen (veil p) = d'.seen (veil p) → (a call at d).seen (veil p) = (it at d').seen (veil p)

A login is the one operation that looks at a password.  It learns the verdict, which is
whether the digest is that of the password that is given.  What cannot be compared with a
digest, since it is not in ASCII, stops a login in a way of its own; no digest is such a
text, so nothing that the service stores is (`Registry.isComparable_of_run`).

Main statement: `passwords_stay_secret`.
-/
import Guildhall.Proofs.Coupling
import Guildhall.Proofs.Registration
import Guildhall.Proofs.Veil

namespace Guildhall

/-! ### Operations that hold passwords -/

section Coupled

open Session

variable {m : Moment} {d d' : Desk} {p : String → Bool} {u u' : User}

theorem Store.coupled_writeUser {now : Instant} (hsame : u.veil p = u'.veil p)
    (hkept : d.store.KeepsPassword u) (hkept' : d'.store.KeepsPassword u') :
    Coupled (Store.veil p) Eq (run (·.writeUser now u)) (run (·.writeUser now u')) d d' := by
  refine coupled_run (w := (·.writeUser now (u.veil p))) (writeUser_veil hkept) ?_
  rw [hsame]
  exact writeUser_veil hkept'

/-- Nothing is found on either side, or the same user but for the password is on both. -/
theorem Store.found_of_veil {found found' : Option User}
    (h : found.map (User.veil p) = found'.map (User.veil p)) :
    (found = none ∧ found' = none) ∨
      ∃ u u', found = some u ∧ found' = some u' ∧ u.veil p = u'.veil p := by
  cases found <;> cases found'
  · exact .inl ⟨rfl, rfl⟩
  · cases h
  · cases h
  · exact .inr ⟨_, _, rfl, rfl, Option.some.inj h⟩

/-- An id means the same user on two stores, but for the password. -/
theorem Store.user?_of_veil {s s' : Store} (hs : s.veil p = s'.veil p) (k : String) :
    (s.user? k = none ∧ s'.user? k = none) ∨
      ∃ u u', s.user? k = some u ∧ s'.user? k = some u' ∧ u.veil p = u'.veil p :=
  found_of_veil (by rw [← user?_veil, ← user?_veil, hs])

/-- A key means the same user on two stores, but for the password. -/
theorem Store.userByKey?_of_veil {s s' : Store} (hs : s.veil p = s'.veil p) (k : String) :
    (s.userByKey? k = none ∧ s'.userByKey? k = none) ∨
      ∃ u u', s.userByKey? k = some u ∧ s'.userByKey? k = some u' ∧ u.veil p = u'.veil p :=
  found_of_veil (by rw [← userByKey?_veil, ← userByKey?_veil, hs])

theorem Registry.ensureFree_veil {s : Store} {name email : Value} {n e : String} :
    ensureFree (s.veil p) name email n e = ensureFree s name email n e := by
  unfold ensureFree
  rw [Store.users_veil, List.any_map, List.any_map]
  rfl

/-- The digest of a new password is the same on both sides. -/
theorem Registry.coupled_register {name email password : Value} :
    Coupled (Store.veil p) Eq (register m name email password) (register m name email password)
      d d' := by
  refine .after fun n _ => .after fun e _ => .after fun pw _ =>
    .reporting (.transaction (.reading fun _ _ _ _ hs => ?_))
  rw [← ensureFree_veil (p := p) (s := d.store), hs, ensureFree_veil]
  refine .after fun _ _ => .after fun _ _ => coupled_takeRowId.andThen fun id e₁ e₁' => ?_
  refine Coupled.andThen ?_ fun _ _ _ => coupled_flush.andThen fun _ _ _ =>
    coupled_takeRowId.andThen fun statsId e₂ e₂' => ?_
  · exact coupled_run (w := (·.insertUser (User.veil p _))) Store.insertUser_veil
      Store.insertUser_veil
  · refine Coupled.andThen ?_ fun _ _ _ => coupled_flush.andThen fun _ _ _ => coupled_pure rfl
    exact coupled_of_within fun _ => within_run Store.insertStats_veil

theorem Treasury.coupled_grant {key coins gems : Value} :
    Coupled (Store.veil p) Eq (grant m key coins gems) (grant m key coins gems) d d' := by
  refine .after fun k _ => .after fun c _ => .after fun g _ =>
    .reporting (.transaction (.readingFor fun e e' he he' hs => ?_))
  obtain ⟨hnone, hnone'⟩ | ⟨u, u', hu, hu', hsame⟩ := Store.userByKey?_of_veil hs k
  · rw [hnone, hnone']
    exact coupled_fail
  · have hkept := Store.keepsPassword_of_userByKey? hu
    have hkept' := Store.keepsPassword_of_userByKey? hu'
    rw [← he] at hkept
    rw [← he'] at hkept'
    obtain ⟨password, rfl⟩ := User.exists_password hsame
    rw [hu, hu']
    refine .after fun coins _ => .after fun gems _ => Coupled.andThen ?_ fun _ _ _ =>
      coupled_flush.andThen fun _ _ _ => coupled_pure rfl
    have hgranted := congrArg (fun u : User => { u with coins, gems }) hsame
    exact Store.coupled_writeUser hgranted hkept hkept'

/-- Both runs find the item and the user, who may have another password in each. -/
theorem Market.coupled_findPair {givenUser givenItem : Value} {u i : String} :
    Coupled (Store.veil p) (fun pair pair' => pair.1.veil p = pair'.1.veil p ∧ pair.2 = pair'.2)
      (findPair givenUser givenItem u i) (findPair givenUser givenItem u i) d d' := by
  refine .readingFor fun e e' he he' hs => ?_
  obtain ⟨hnone, hnone'⟩ | ⟨user, user', hu, hu', hsame⟩ := Store.user?_of_veil hs u
  · rw [hnone, hnone']
    exact coupled_fail
  · rw [hu, hu']
    refine .readingFor fun _ _ _ _ hs' => ?_
    have hitem : e.store.item? i = e'.store.item? i := by
      rw [← Store.item?_veil, hs', Store.item?_veil]
    rw [hitem]
    cases e'.store.item? i with
    | none => exact coupled_fail
    | some item => exact coupled_pure ⟨hsame, rfl⟩

/-- Work on a pair that has been found: the user is the one that is stored, and is the same
on both sides but for the password. -/
theorem Market.coupled_onPair {givenUser givenItem : Value} {u i : String}
    {f : User × Item → Session Unit}
    (hf : ∀ user item password e e', user.veil p = User.veil p { user with password } →
      e.store.KeepsPassword user → e'.store.KeepsPassword { user with password } →
        Coupled (Store.veil p) Eq (f (user, item)) (f ({ user with password }, item)) e e') :
    Coupled (Store.veil p) Eq (findPair givenUser givenItem u i >>= f)
      (findPair givenUser givenItem u i >>= f) d d' := by
  refine coupled_findPair.bind fun pair pair' e e' hpair hpair' hfit => ?_
  obtain ⟨user, item⟩ := pair
  obtain ⟨user', item'⟩ := pair'
  obtain ⟨hsame, rfl⟩ : user.veil p = user'.veil p ∧ item = item' := hfit
  obtain ⟨he, huser, -⟩ := findPair_eq_ok hpair
  obtain ⟨he', huser', -⟩ := findPair_eq_ok hpair'
  have hkept := Store.keepsPassword_of_user? huser
  have hkept' := Store.keepsPassword_of_user? huser'
  rw [← he] at hkept
  rw [← he'] at hkept'
  obtain ⟨password, rfl⟩ := User.exists_password hsame
  exact hf user item password e e' hsame hkept hkept'

theorem Market.coupled_buy {userId itemId : Value} :
    Coupled (Store.veil p) Eq (buy m userId itemId) (buy m userId itemId) d d' := by
  refine .after fun u _ => .after fun i _ => .reporting (.transaction ?_)
  refine coupled_onPair fun user item password e e' hsame hkept hkept' => ?_
  refine .guarded fun _ => .guarded fun _ => Coupled.andThen ?_ fun _ _ _ =>
    coupled_flush.andThen fun _ e₁ e₁' => .reading fun _ _ _ _ hs => ?_
  · have hpaid := congrArg (fun u : User =>
      { u with coins := user.coins - item.price.coins, gems := user.gems - item.price.gems }) hsame
    exact Store.coupled_writeUser hpaid hkept hkept'
  · have hheld : e₁.store.possession? u i = e₁'.store.possession? u i := by
      rw [← Store.possession?_veil, hs, Store.possession?_veil]
    rw [hheld]
    by_cases hnew : (e₁'.store.possession? u i).isNone
    · rw [if_pos hnew]
      exact (coupled_of_within fun _ => within_run Store.insertPossession_veil).andThen
        fun _ _ _ => coupled_flush
    · rw [if_neg hnew]
      exact coupled_pure rfl

theorem Market.coupled_throwAway {userId itemId : Value} :
    Coupled (Store.veil p) Eq (throwAway m userId itemId) (throwAway m userId itemId) d d' := by
  refine .after fun u _ => .after fun i _ => .reporting (.transaction ?_)
  refine coupled_onPair fun user item password e e' hsame hkept hkept' => ?_
  refine .reading fun e₁ e₁' he₁ he₁' hs => ?_
  have hheld : e.store.possession? u i = e'.store.possession? u i := by
    rw [← Store.possession?_veil, hs, Store.possession?_veil]
  rw [hheld]
  rw [← he₁] at hkept
  rw [← he₁'] at hkept'
  refine .guarded fun _ => Coupled.andThen ?_ fun _ _ _ =>
    Coupled.andThen ?_ fun _ _ _ => coupled_flush
  · have hpaid := congrArg (fun u : User =>
      { u with coins := user.coins + item.base.coins, gems := user.gems + item.base.gems }) hsame
    exact Store.coupled_writeUser hpaid hkept hkept'
  · exact coupled_of_within fun _ => within_run rfl

end Coupled

/-! ### Logins -/

/-- Whether a text can be compared with a digest: every character is in ASCII. -/
def Registry.IsComparable (text : String) : Prop := ∀ c ∈ text.toList, c.toNat < 128

/-- A login with a key and a password is judged in the same way on two stores: if the key
means a user on both, then what is kept of the two passwords can be compared on both or on
neither, and is the digest of the password that is given on both or on neither. -/
def Store.SameVerdict (s s' : Store) (key password : Value) : Prop :=
  ∀ k given u u', Registry.lookupText key = .ok (some k) → password = .text given →
    s.userByKey? k = some u → s'.userByKey? k = some u' →
      (Registry.IsComparable u.password ↔ Registry.IsComparable u'.password) ∧
        (u.password = Registry.hashPassword given ↔ u'.password = Registry.hashPassword given)

/-- Where all that is stored can be compared, it matters only whether it is the digest. -/
theorem Store.SameVerdict.of_isComparable {s s' : Store} {key password : Value}
    (hs : ∀ u ∈ s.users, Registry.IsComparable u.password)
    (hs' : ∀ u ∈ s'.users, Registry.IsComparable u.password)
    (h : ∀ k given u u', Registry.lookupText key = .ok (some k) → password = .text given →
      s.userByKey? k = some u → s'.userByKey? k = some u' →
        (u.password = Registry.hashPassword given ↔ u'.password = Registry.hashPassword given)) :
    s.SameVerdict s' key password := fun k given u u' hk hgiven hu hu' =>
  ⟨iff_of_true (hs u (mem_of_userByKey? hu)) (hs' u' (mem_of_userByKey? hu')),
    h k given u u' hk hgiven hu hu'⟩

namespace Registry

open Session

variable {issuer : Token.Issuer} {m : Moment} {d d' : Desk} {p : String → Bool} {u u' : User}

theorem all_iff_isComparable {text : String} :
    text.toList.all (·.toNat < 128) = true ↔ IsComparable text := by
  rw [List.all_eq_true]
  exact ⟨fun h c hc => of_decide_eq_true (h c hc), fun h c hc => decide_eq_true (h c hc)⟩

/-- Digests can be compared. -/
theorem isComparable_hashPassword (password : String) : IsComparable (hashPassword password) :=
  fun c hc => (isAscii_hashPassword password c hc).2

/-- After a run from empty tables all that is stored can be compared. -/
theorem isComparable_of_run (service : Service) (desk : Desk) (steps : List Step) :
    ∀ u ∈ (service.run { desk with store := {} } steps).store.users, IsComparable u.password :=
  (service.chronicle { desk with store := {} } steps).forall_identity
    (P := fun i => IsComparable i.password) fun _ => isComparable_hashPassword _

/-- What can be compared is the digest of the password, or it is not. -/
theorem checkPassword_of_isComparable (h : IsComparable u.password) (given : String) :
    checkPassword u (.text given) = .ok (u.password == hashPassword given) :=
  if_pos (all_iff_isComparable.2 h)

/-- What cannot be compared stops the check. -/
theorem checkPassword_of_not_isComparable (h : ¬IsComparable u.password) (given : String) :
    checkPassword u (.text given) = .error .badCall :=
  if_neg fun hascii => h (all_iff_isComparable.1 hascii)

/-- A check of a password says whether the digest is that of the password, unless what is
kept cannot be compared. -/
theorem checkPassword_congr {password : Value}
    (h : ∀ given, password = .text given → (IsComparable u.password ↔ IsComparable u'.password) ∧
      (u.password = hashPassword given ↔ u'.password = hashPassword given)) :
    checkPassword u password = checkPassword u' password := by
  cases password with
  | text given =>
    obtain ⟨hcomparable, hdigest⟩ := h given rfl
    have hverdict : (u.password == hashPassword given) = (u'.password == hashPassword given) :=
      Bool.eq_iff_iff.2 (by rw [beq_iff_eq, beq_iff_eq, hdigest])
    by_cases hu : IsComparable u.password
    · rw [checkPassword_of_isComparable hu, checkPassword_of_isComparable (hcomparable.1 hu),
        hverdict]
    · rw [checkPassword_of_not_isComparable hu,
        checkPassword_of_not_isComparable fun hu' => hu (hcomparable.2 hu')]
  | _ => rfl

/-- A token says nothing of the password. -/
theorem coupled_issueFor {now : Instant} :
    Coupled (Store.veil p) Eq (issueFor issuer now u) (issueFor issuer now u) d d' := by
  intro hd
  have hissue : ∀ holder, Coupled (Store.veil p) Eq (issue issuer now holder)
      (issue issuer now holder) d d' := by
    intro holder
    unfold issue
    cases issuer.expiry? now with
    | none => exact .error
    | some expiresAt =>
      exact coupled_takeTokenId.andThen fun _ _ _ => coupled_of_within fun _ => within_lift
  have hends := hissue ⟨u.id, u.name, u.email, u.isAdmin⟩ hd
  unfold issueFor
  dsimp only
  generalize issue issuer now ⟨u.id, u.name, u.email, u.isAdmin⟩ d = r at hends
  generalize issue issuer now ⟨u.id, u.name, u.email, u.isAdmin⟩ d' = r' at hends
  cases hends with
  | ok hfit hseen =>
    obtain rfl := hfit
    exact .ok rfl hseen
  | @error stop _ _ hseen =>
    dsimp only
    split <;> exact .error hseen

/-- Both runs look a user up by the same text, each in its own store. -/
theorem coupled_lookup {key : Value} :
    Coupled (Store.veil p)
      (fun found found' => d.store.veil p = d'.store.veil p ∧ ∃ k, lookupText key = .ok k ∧
        found = k.bind d.store.userByKey? ∧ found' = k.bind d'.store.userByKey?)
      (transaction do
        let key ← lookupText key
        return key.bind (← store).userByKey?)
      (transaction do
        let key ← lookupText key
        return key.bind (← store).userByKey?) d d' :=
  .transaction (.after fun k hk => .reading fun _ _ _ _ hs => coupled_pure ⟨hs, k, hk, rfl, rfl⟩)

/-- A login looks at the password of the user whom the key means, and learns the verdict
only. -/
theorem coupled_login {key password : Value}
    (hverdicts : d.store.SameVerdict d'.store key password) :
    Coupled (Store.veil p) Eq (login issuer m key password) (login issuer m key password)
      d d' := by
  unfold login
  refine .guarded fun _ => coupled_lookup.reporting.bind fun found found' e e' _ _ hfit => ?_
  obtain ⟨hs, k, hk, rfl, rfl⟩ := hfit
  cases k with
  | none => exact coupled_fail
  | some k =>
    rw [Option.bind_some, Option.bind_some]
    obtain ⟨hnone, hnone'⟩ | ⟨u, u', hu, hu', hsame⟩ := Store.userByKey?_of_veil hs k
    · rw [hnone, hnone']
      exact coupled_fail
    · have hverdict : checkPassword u password = checkPassword u' password :=
        checkPassword_congr fun given hgiven => hverdicts k given u u' hk hgiven hu hu'
      -- The token is made of what is the same of both.
      obtain ⟨digest, rfl⟩ := User.exists_password hsame
      rw [hu, hu']
      dsimp only
      rw [hverdict]
      exact .after fun _ _ => .guarded fun _ => coupled_issueFor

end Registry

/-! ### Calls, requests and runs -/

section Coupled

open Session

variable {m : Moment} {d d' : Desk} {p : String → Bool}

/-- An answer is made of a result on both sides alike. -/
theorem Session.Coupled.answer {α : Type} {v : Store → Store} {x : Session α}
    (h : Coupled v Eq x x d d') (f : α → Answer) :
    Coupled v Eq (x >>= fun a => pure (f a)) (x >>= fun a => pure (f a)) d d' :=
  h.andThen fun _ _ _ => coupled_pure rfl

/-- **A call comes to the same end whatever passwords are stored**, unless it is a login,
for which the verdict counts. -/
theorem Service.coupled_perform (service : Service) (m : Moment) {call : Call}
    (hlogin : ∀ key password, call = .login key password →
      d.store.SameVerdict d'.store key password) :
    Coupled (Store.veil p) Eq (service.perform m call) (service.perform m call) d d' := by
  cases call with
  | register => exact Registry.coupled_register.answer _
  | readUser => exact (coupled_of_within fun _ => Registry.read_veil).answer _
  | updateUser => exact coupled_fail.answer _
  | deleteUser => exact (coupled_of_within fun _ => Registry.delete_veil).answer _
  | listUsers => exact coupled_fail.answer _
  | login key password => exact (Registry.coupled_login (hlogin key password rfl)).answer _
  | version => exact coupled_pure rfl
  | grant => exact Treasury.coupled_grant.answer _
  | createItem => exact (coupled_of_within fun _ => Catalogue.create_veil).answer _
  | readItem => exact (coupled_of_within fun _ => Catalogue.read_veil).answer _
  | listItems => exact (coupled_of_within fun _ => Catalogue.list_veil).answer _
  | updateItem => exact (coupled_of_within fun _ => Catalogue.update_veil).answer _
  | deleteItem => exact (coupled_of_within fun _ => Catalogue.delete_veil).answer _
  | userItems => exact (coupled_of_within fun _ => Catalogue.possessions_veil).answer _
  | equippedItems => exact (coupled_of_within fun _ => Catalogue.possessions_veil).answer _
  | buy => exact Market.coupled_buy.answer _
  | throwAway => exact Market.coupled_throwAway.answer _
  | equip => exact (coupled_of_within fun _ => Wardrobe.equip_veil).answer _
  | readStats => exact (coupled_of_within fun _ => Scoreboard.read_veil).answer _
  | addStats => exact (coupled_of_within fun _ => Scoreboard.add_veil).answer _
  | createNews => exact (coupled_of_within fun _ => Bulletin.create_veil).answer _
  | readNews => exact (coupled_of_within fun _ => Bulletin.read_veil).answer _
  | listNews => exact (coupled_of_within fun _ => Bulletin.list_veil).answer _
  | updateNews => exact (coupled_of_within fun _ => Bulletin.update_veil).answer _

/-- How the calls of a run end. -/
def Service.outcomes (service : Service) (d : Desk) : List Step → List (Except Stop Answer)
  | [] => []
  | ⟨m, call⟩ :: steps =>
    outcome (service.perform m call d) :: service.outcomes (left (service.perform m call d)) steps

/-- **A run without logins does not tell stored passwords apart**: each of its calls ends
as it would with other passwords in the tables, and the tables in the end differ in these
passwords at most. -/
theorem Service.outcomes_of_seen (service : Service) {steps : List Step}
    (hlogin : ∀ step ∈ steps, ∀ key password, step.call ≠ .login key password)
    (h : d.seen (Store.veil p) = d'.seen (Store.veil p)) :
    service.outcomes d steps = service.outcomes d' steps ∧
      (service.run d steps).seen (Store.veil p) = (service.run d' steps).seen (Store.veil p) := by
  -- The desks that a step leaves are alike, so the rest of the run starts as this one did.
  induction steps generalizing d d' with
  | nil => exact ⟨rfl, h⟩
  | cons step steps ih =>
    obtain ⟨m, call⟩ := step
    have hcall : ∀ key password, call ≠ .login key password := hlogin _ (.head _)
    obtain ⟨hend, hseen⟩ := alike_iff.1
      (service.coupled_perform m (fun key password hc => absurd hc (hcall key password)) h)
    obtain ⟨hends, hleft⟩ := ih (fun step hstep => hlogin step (.tail _ hstep)) hseen
    rw [service.run_cons, service.run_cons]
    refine ⟨?_, hleft⟩
    show outcome _ :: _ = outcome _ :: _
    rw [hend, hends]

end Coupled

namespace Gateway

open Session
open Journal (Context)

variable {g : Gateway} {m : Moment} {r : Request} {e : Endpoint} {parameters : List String}
  {v : Store → Store} {d d' : Desk}

/-- The gate lets the same calls in, and makes the same of how they end. -/
theorem Gate.alike_run {gate : Gate} {requestId : String} {now : Instant} {entrant : Entrant}
    {x : Session Answer} {scope : Context} (hd : d.seen v = d'.seen v)
    (hx : Coupled v Eq x x d d') :
    Alike v Eq (gate.run requestId now entrant (fun _ => x) scope d).result
      (gate.run requestId now entrant (fun _ => x) scope d').result := by
  unfold Gate.run
  split
  · exact .error hd
  · cases gate.deadline.obstacle? entrant.operation with
    | some stop => exact .error hd
    | none =>
      have hends := hx hd
      unfold Gate.work
      beta_reduce
      generalize x d = end₁ at hends
      generalize x d' = end₂ at hends
      cases hends with
      | ok hfit hseen => exact .ok hfit hseen
      | @error stop _ _ hseen => cases stop <;> exact .error hseen

/-- Ends that are alike are shown alike. -/
theorem conclude_of_alike {end₁ end₂ : EStateM.Result Stop Desk Answer}
    (h : Alike v Eq end₁ end₂) :
    (conclude e end₁).1 = (conclude e end₂).1 ∧
      (conclude e end₁).2.seen v = (conclude e end₂).2.seen v := by
  cases h with
  | ok hfit hseen =>
    obtain rfl := hfit
    exact ⟨rfl, hseen⟩
  | error hseen => exact ⟨rfl, hseen⟩

/-- An endpoint serves a request alike at both desks, if the call that it makes of the
request comes to ends that are alike. -/
theorem serve_of_coupled (hd : d.seen v = d'.seen v)
    (hcall : ∀ fields, fieldsOf e r = .ok fields →
      Coupled v Eq (g.service.perform m (e.call parameters fields))
        (g.service.perform m (e.call parameters fields)) d d') :
    (g.serve m e parameters r d).1 = (g.serve m e parameters r d').1 ∧
      (g.serve m e parameters r d).2.seen v = (g.serve m e parameters r d').2.seen v := by
  unfold serve
  cases hfields : fieldsOf e r with
  | error refusal => exact ⟨rfl, hd⟩
  | ok fields => exact conclude_of_alike (Gate.alike_run hd (hcall fields hfields))

end Gateway

open Session Gateway in
/-- **Passwords stay secret.**  Two desks are the same but for what is stored of the
passwords of some users.  Then every call but a login comes to the same end at both, an
answer or a stop, and every request but a login gets the same response; and the desks that
are left are again the same but for what is stored of the passwords of these users.  It is
so for a login too, if what is stored for the user whom the key means can be compared with
a digest at both desks or at neither, and is the digest of the password that is given at
both or at neither.  Nor does a whole run without logins tell the desks apart.  What the
service itself stores can always be compared with a digest. -/
theorem passwords_stay_secret (g : Gateway) (m : Moment) {d d' : Desk} {p : String → Bool}
    (h : d.seen (Store.veil p) = d'.seen (Store.veil p)) :
    (∀ call : Call,
      (∀ key password, call = .login key password →
        d.store.SameVerdict d'.store key password) →
      outcome (g.service.perform m call d) = outcome (g.service.perform m call d') ∧
        (left (g.service.perform m call d)).seen (Store.veil p) =
          (left (g.service.perform m call d')).seen (Store.veil p)) ∧
      (∀ r : Request,
        (∀ parameters fields,
          g.route r.method (Target.ofRaw r.target).path = .found .login parameters →
          fieldsOf .login r = .ok fields →
          d.store.SameVerdict d'.store (Value.get fields "id") (Value.get fields "password")) →
        (g.respond m r d).1 = (g.respond m r d').1 ∧
          (g.respond m r d).2.seen (Store.veil p) = (g.respond m r d').2.seen (Store.veil p)) ∧
      (∀ steps : List Step, (∀ step ∈ steps, ∀ key password, step.call ≠ .login key password) →
        g.service.outcomes d steps = g.service.outcomes d' steps ∧
          (g.service.run d steps).seen (Store.veil p) =
            (g.service.run d' steps).seen (Store.veil p)) ∧
      ∀ (desk : Desk) (steps : List Step),
        ∀ u ∈ (g.service.run { desk with store := {} } steps).store.users,
          Registry.IsComparable u.password := by
  refine ⟨fun call hlogin => alike_iff.1 (g.service.coupled_perform m hlogin h),
    fun r hlogin => ?_, fun steps hlogin => g.service.outcomes_of_seen hlogin h,
    Registry.isComparable_of_run g.service⟩
  cases hroute : g.route r.method (Target.ofRaw r.target).path with
  | found e parameters =>
    rw [respond_of_route hroute, respond_of_route hroute]
    refine serve_of_coupled h fun fields hfields => g.service.coupled_perform m ?_
    intro key password hcall
    -- No other endpoint makes a login of a request.
    cases e with
    | login =>
      cases hcall
      exact hlogin parameters fields hroute hfields
    | _ => cases hcall
  | _ =>
    unfold respond
    dsimp only
    rw [hroute]
    exact ⟨rfl, h⟩

/-! ### Two vaults -/

namespace Lockbox

open Session Gateway
open Turnstile (gateway noon request)

/-- A user for whom something is stored as the password. -/
def user (password : String) : User :=
  { id := "u1", name := "ada", email := "a@b.c", password, createdAt := ⟨0⟩, updatedAt := ⟨0⟩ }

/-- A desk with this user. -/
def desk (password : String) : Desk :=
  { store := { users := [user password], stats := [{ id := "s1", userId := "u1" }] } }

/-- A desk with one user, whose password has been digested. -/
def locked (password : String) : Desk := desk (Registry.hashPassword password)

/-- The password of the user is not shown. -/
theorem seen_desk (password password' : String) :
    (desk password).seen (Store.veil (· == "u1")) =
      (desk password').seen (Store.veil (· == "u1")) := rfl

/-- A login with a password that is none of the two. -/
def attempt : Call := .login (.text "ada") (.text "guess")

/-- No password of theirs has the digest of the guess. -/
theorem hashPassword_ne_guess {password : String} (h : password ∈ ["one", "two"]) :
    Registry.hashPassword password ≠ Registry.hashPassword "guess" := by
  revert password
  decide +kernel

theorem sameVerdict_locked :
    (locked "one").store.SameVerdict (locked "two").store (.text "ada") (.text "guess") := by
  refine .of_isComparable ?_ ?_ fun k given u u' hk hgiven hu hu' => ?_
  · rintro u (_ | ⟨_, ⟨⟩⟩)
    exact Registry.isComparable_hashPassword "one"
  · rintro u (_ | ⟨_, ⟨⟩⟩)
    exact Registry.isComparable_hashPassword "two"
  · obtain rfl : "ada" = k := Option.some.inj (Except.ok.inj hk)
    obtain rfl : "guess" = given := Value.text.inj hgiven
    obtain rfl := Option.some.inj hu
    obtain rfl := Option.some.inj hu'
    exact iff_of_false (hashPassword_ne_guess (by decide)) (hashPassword_ne_guess (by decide))

/-- The attempt comes to the check of the password. -/
theorem login_attempt (issuer : Token.Issuer) (password : String) :
    Registry.login issuer noon (.text "ada") (.text "guess") (desk password) =
      (do
        if !(← Registry.checkPassword (user password) (.text "guess")) then
          fail Registry.badLogin
        Registry.issueFor issuer noon.now (user password) : Session Registry.Login)
        (desk password) := by
  have hk : Registry.lookupText (.text "ada") = .ok (some "ada") := rfl
  rw [Registry.login_of_lookup ⟨rfl, rfl, rfl⟩ rfl rfl hk]
  rfl

theorem attempt_fails {password : String} (hcomparable : Registry.IsComparable password)
    (hwrong : password ≠ Registry.hashPassword "guess") :
    outcome (gateway.service.perform noon attempt (desk password)) =
      .error (.failure Registry.badLogin) := by
  have hcheck : Registry.checkPassword (user password) (.text "guess") = .ok false :=
    (Registry.checkPassword_of_isComparable hcomparable "guess").trans
      (congrArg Except.ok (beq_false_of_ne hwrong))
  have hlogin := (login_attempt gateway.service.issuer password).trans (passed_ready hcheck)
  exact congrArg outcome (bind_stopped hlogin)

theorem attempt_stops {password : String} (hincomparable : ¬Registry.IsComparable password) :
    outcome (gateway.service.perform noon attempt (desk password)) = .error .badCall := by
  have hcheck : Registry.checkPassword (user password) (.text "guess") = .error .badCall :=
    Registry.checkPassword_of_not_isComparable hincomparable "guess"
  have hlogin : Registry.login gateway.service.issuer noon (.text "ada") (.text "guess")
      (desk password) = .error .badCall (desk password) := by
    rw [login_attempt, hcheck]
    rfl
  exact congrArg outcome (bind_stopped hlogin)

end Lockbox

open Session Gateway Lockbox in
open Turnstile (gateway noon request) in
/-- A login that fails with one password fails with the other one; and who removes the user
gets the same response, whichever password there was. -/
theorem passwords_stay_secret_lockbox :
    (locked "one").seen (Store.veil (· == "u1")) = (locked "two").seen (Store.veil (· == "u1")) ∧
      (locked "one").store.SameVerdict (locked "two").store (.text "ada") (.text "guess") ∧
      outcome (gateway.service.perform noon attempt (locked "two")) =
        .error (.failure Registry.badLogin) ∧
      ∃ token, let r := request "/v1/users/u1" token
        gateway.route r.method (Target.ofRaw r.target).path = .found .deleteUser ["u1"] ∧
          (gateway.respond noon r (locked "one")).1 =
            (gateway.respond noon r (locked "two")).1 := by
  have hseen : (locked "one").seen (Store.veil (· == "u1")) =
      (locked "two").seen (Store.veil (· == "u1")) := seen_desk _ _
  obtain ⟨hcalls, hrequests, -, -⟩ := passwords_stay_secret gateway noon hseen
  have hattempt := hcalls attempt fun key password hcall => by
    cases hcall
    exact sameVerdict_locked
  have hfails := attempt_fails (Registry.isComparable_hashPassword "one")
    (hashPassword_ne_guess (by decide))
  obtain ⟨token, -, -⟩ := Turnstile.exists_token "u1"
  have hroute : gateway.route "DELETE" (Target.ofRaw "/v1/users/u1").path =
      .found .deleteUser ["u1"] := by decide
  have hremoval := hrequests (request "/v1/users/u1" token) fun parameters fields hlogin => by
    cases hroute.symm.trans hlogin
  exact ⟨hseen, sameVerdict_locked, hattempt.1.symm.trans hfails, token, hroute,
    hremoval.1⟩

open Session Lockbox in
open Gateway.Turnstile (gateway noon) in
/-- What cannot be compared with a digest stops a login in another way than a wrong
password does, though neither of the two texts is the digest of the password given. -/
theorem login_tells_incomparable_password :
    ∃ (d d' : Desk) (p : String → Bool) (key : Value) (given : String),
      d.seen (Store.veil p) = d'.seen (Store.veil p) ∧
        (∀ u ∈ d.store.users, u.password ≠ Registry.hashPassword given) ∧
        (∀ u ∈ d'.store.users, u.password ≠ Registry.hashPassword given) ∧
        outcome (gateway.service.perform noon (.login key (.text given)) d) ≠
          outcome (gateway.service.perform noon (.login key (.text given)) d') := by
  have hplain : "plain" ≠ Registry.hashPassword "guess" := by decide +kernel
  have haccent : "\u00e9" ≠ Registry.hashPassword "guess" := by decide +kernel
  have hfails := attempt_fails (Registry.all_iff_isComparable.1 rfl) hplain
  have hstops := attempt_stops fun h : Registry.IsComparable "\u00e9" => absurd
    (Registry.all_iff_isComparable.2 h) (by decide)
  refine ⟨desk "plain", desk "\u00e9", (· == "u1"), .text "ada", "guess", seen_desk _ _, ?_, ?_,
    fun hsame => ?_⟩
  · rintro u (_ | ⟨_, ⟨⟩⟩)
    exact hplain
  · rintro u (_ | ⟨_, ⟨⟩⟩)
    exact haccent
  · cases hfails.symm.trans (hsame.trans hstops)

end Guildhall
