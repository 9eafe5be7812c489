/-
Guildhall/Proofs/Escape.lean

Where a stop escapes that no operation reports.  Operations are meant to stop with the
failures of `Stop.IsReported` only, and as long as the storage is there most of them do,
whatever they are given and however the tables have come about.  The exceptions are
numbers that no column and no message can hold, a refund that nobody has looked at, and
logins: with a password that is no text, at the end of the calendar, or for a service
that is told to sign by an unknown algorithm.  `Service.Escapes` lists them, and the list
is complete and correct:

    Reports service m call d  ↔  no stop escapes

Main statement: `Service.reports_iff`.
-/
import Guildhall.Proofs.Reporting

namespace Guildhall

open Session

/-- **The stops that escape** a call at a moment, with the tables of a store. -/
inductive Service.Escapes (service : Service) (m : Moment) (s : Store) : Call → Stop → Prop
  /-- The first argument that is not accepted is infinite. -/
  | infinite {call : Call} (hcheck : call.check = .error .overflow) :
      Escapes service m s call .overflow
  /-- The first argument that is not accepted has too many digits for the message. -/
  | unwritable {call : Call} (hcheck : call.check = .error (.badValue Input.tooManyDigits)) :
      Escapes service m s call (.badValue Input.tooManyDigits)
  /-- The slot of a new item does not fit its column. -/
  | newSlot {draft : Catalogue.Draft} {slot : Int}
      (hcheck : (Call.createItem draft).check = .ok ())
      (hslot : Input.integer draft.slot "type" (some 0) none = .ok slot)
      (hlarge : greatestStored < slot) :
      Escapes service m s (.createItem draft) .overflow
  /-- The new slot of an item does not fit its column. -/
  | changedSlot {id : Value} {change : Catalogue.Change} {k : String} {merge : Catalogue.Merge}
      (hid : Input.identifier id "id" = .ok k) (hmerge : change.check = .ok merge)
      (hitem : (s.item? k).isSome) (hlarge : greatestStored < merge.slot) :
      Escapes service m s (.updateItem id change) .overflow
  /-- A balance does not fit its column after an item has been given back. -/
  | refund {userId itemId : Value} {u i : String} {user : User} {item : Item}
      (huserId : Input.identifier userId "user_id" = .ok u)
      (hitemId : Input.identifier itemId "item_id" = .ok i)
      (huser : s.user? u = some user) (hitem : s.item? i = some item)
      (hheld : (s.possession? u i).isSome)
      (hlarge : greatestStored < user.coins + item.base.coins ∨
        greatestStored < user.gems + item.base.gems) :
      Escapes service m s (.throwAway userId itemId) .overflow
  /-- The key of a login is a number that fits no column. -/
  | longKey {n : Int} {password : Value} (hpassword : password.holds = true)
      (hlong : fits n = false) : Escapes service m s (.login (.int n) password) .overflow
  /-- The password for a user who is found is no text. -/
  | noPassword {key password : Value} {u : User} (hfinds : Registry.Finds s key password u)
      (hpassword : ∀ p, password ≠ .text p) : Escapes service m s (.login key password) .noText
  /-- The token for the right password would expire when there is no calendar any more. -/
  | noExpiry {key password : Value} {u : User} (hfinds : Registry.Finds s key password u)
      (hright : Registry.checkPassword u password = .ok true)
      (hexpiry : service.issuer.expiry? m.now = none) :
      Escapes service m s (.login key password) .overflow
  /-- The token for the right password is to be signed by an algorithm that is not known. -/
  | unknownAlgorithm {key password : Value} {u : User} {signingKey : Token.Key}
      (hfinds : Registry.Finds s key password u)
      (hright : Registry.checkPassword u password = .ok true)
      (hexpiry : service.issuer.expiry? m.now ≠ none)
      (hkey : service.issuer.key = .ok signingKey)
      (halgorithm : Token.Algorithm.ofName? service.issuer.algorithm = none) :
      Escapes service m s (.login key password) .unknownAlgorithm

/-- A call that gives an answer or reports what goes wrong. -/
def Service.Reports (service : Service) (m : Moment) (call : Call) (d : Desk) : Prop :=
  ∀ stop d', service.perform m call d = .error stop d' → stop.IsReported

/-- No stop that escapes is one that is reported. -/
theorem Service.Escapes.not_isReported {service : Service} {m : Moment} {s : Store} {call : Call}
    {stop : Stop} (h : service.Escapes m s call stop) : ¬stop.IsReported := by
  cases h <;> exact id

/-! ### Nothing else escapes -/

namespace Token

variable {settings : Settings} {files : Directory} {options : IssuerOptions} {issuer : Issuer}

theorem signingProblem_of_readKey (path setting : String) :
    Except.Only (Registry.isSigningProblem · = true) (readKey files path setting) := by
  unfold readKey
  split
  · exact .error rfl
  · split
    · exact .error rfl
    · split
      · exact .ok
      · exact .error rfl

theorem signingProblem_of_signingKey (algorithm : String) :
    Except.Only (Registry.isSigningProblem · = true) (signingKey settings files algorithm) := by
  unfold signingKey secretKey
  split
  · split
    · exact .error rfl
    · exact .ok
  · exact signingProblem_of_readKey _ _

/-- The key of an issuer is the one that it is told, or the one that is looked for. -/
theorem Issuer.key_of_make (h : make settings files options = .ok issuer) :
    issuer.key = options.signingKey.elim
      (signingKey settings files (orText options.algorithm settings.jwtAlgorithm)) .ok := by
  obtain ⟨told, -, h⟩ := Except.bind_eq_ok.1 h
  dsimp only at h
  generalize (if told = 0 then settings.tokenTtlHours * 3600000000 else told) = lifetime at h
  split at h
  · cases h
  · cases h
    rfl

/-- Where an issuer that has been set up has no key, this is a problem of signing. -/
theorem Issuer.signingProblem_of_make (h : make settings files options = .ok issuer) :
    Except.Only (Registry.isSigningProblem · = true) issuer.key := by
  rw [key_of_make h]
  cases options.signingKey with
  | none =>
    rw [Option.elim_none]
    exact signingProblem_of_signingKey _
  | some key =>
    rw [Option.elim_some]
    exact .ok

end Token

section Complete

variable {service : Service} {m : Moment} {d : Desk} {call : Call}

/-- **Where no stop escapes, a call gives an answer or reports**, on every calm desk with
columns in their domains, if passwords are kept as digests and a missing key is a
problem of signing. -/
theorem Service.stops_perform (hd : d.Calm) (hm : m.Calm) (hdomain : d.store.InDomain)
    (hdigests : ∀ u ∈ d.store.users, ∃ p, u.password = Registry.hashPassword p)
    (hkey : Except.Only (Registry.isSigningProblem · = true) service.issuer.key)
    (hwhole : call.Whole) (hno : ∀ stop, ¬service.Escapes m d.store call stop) :
    Stops Stop.IsReported (service.perform m call) d := by
  cases hcheck : call.check with
  | error stop =>
    -- The arguments are refused, which is where the call begins.
    unfold Stops
    rw [service.begins_perform m call d stop hcheck]
    cases call.complains_check stop hcheck with
    | complaint => trivial
    | infinite => exact absurd (.infinite hcheck) (hno _)
    | unwritable => exact absurd (.unwritable hcheck) (hno _)
  | ok _ =>
    cases call with
    | register => exact (Registry.stops_register hd hm hwhole hcheck).answer _
    | readUser => exact (Registry.stops_read hd hwhole hcheck).answer _
    | updateUser => exact Stops.answer (stops_fail trivial) _
    | deleteUser => exact (Registry.stops_delete hd hwhole hcheck).answer _
    | listUsers => exact Stops.answer (stops_fail trivial) _
    | login key password =>
      refine (Registry.stops_login hd hwhole hdigests hkey ?_ ?_ ?_).answer _
      · rintro n rfl hpassword
        exact Bool.of_not_eq_false fun hlong => hno _ (.longKey hpassword hlong)
      · intro u hfinds
        by_contra hpassword
        exact hno _ (.noPassword hfinds fun p hp => hpassword ⟨p, hp⟩)
      · intro u hfinds hright
        have hexpiry : service.issuer.expiry? m.now ≠ none := fun h =>
          hno _ (.noExpiry hfinds hright h)
        exact ⟨hexpiry, fun k hk h => hno _ (.unknownAlgorithm hfinds hright hexpiry hk h)⟩
    | version => exact stops_pure hd
    | grant => exact (Treasury.stops_grant hd hm hdomain hwhole hcheck).answer _
    | createItem =>
      refine (Catalogue.stops_create hd hm hwhole hcheck fun n hn => ?_).answer _
      exact Int.not_lt.1 fun hlarge => hno _ (.newSlot hcheck hn hlarge)
    | readItem => exact (Catalogue.stops_read hd hwhole hcheck).answer _
    | listItems => exact (Catalogue.stops_list hd).answer _
    | updateItem =>
      refine (Catalogue.stops_update hd hm hdomain hwhole hcheck
        fun k merge hk hmerge hitem => ?_).answer _
      exact Int.not_lt.1 fun hlarge => hno _ (.changedSlot hk hmerge hitem hlarge)
    | deleteItem => exact (Catalogue.stops_delete hd hwhole hcheck).answer _
    | userItems => exact (Catalogue.stops_possessions hd hwhole hcheck).answer _
    | equippedItems => exact (Catalogue.stops_possessions hd hwhole hcheck).answer _
    | buy => exact (Market.stops_buy hd hm hdomain hwhole hcheck).answer _
    | throwAway =>
      refine (Market.stops_throwAway hd hm hdomain hwhole hcheck
        fun u i user item hu hi huser hitem hheld => ?_).answer _
      have hno' := fun hlarge => hno _ (.refund hu hi huser hitem hheld hlarge)
      exact ⟨Int.not_lt.1 fun h => hno' (.inl h), Int.not_lt.1 fun h => hno' (.inr h)⟩
    | equip => exact (Wardrobe.stops_equip hd hm hwhole hcheck).answer _
    | readStats => exact (Scoreboard.stops_read hd hwhole hcheck).answer _
    | addStats => exact (Scoreboard.stops_add hd hm hdomain hwhole hcheck).answer _
    | createNews => exact (Bulletin.stops_create hd hm hwhole hcheck).answer _
    | readNews => exact (Bulletin.stops_read hd hwhole hcheck).answer _
    | listNews => exact (Bulletin.stops_list hd).answer _
    | updateNews => exact (Bulletin.stops_update hd hm hwhole hcheck).answer _

end Complete

/-! ### All of it escapes -/

section Correct

variable {service : Service} {m : Moment} {d : Desk} {stop : Stop}

/-- A slot that does not fit is handed to the storage before anything is looked up. -/
theorem Catalogue.ensureUnique_of_long {others : List Item} {givenName givenImage : Value}
    {name imageId : String} {slot : Int} (hname : checkBytes givenName = .ok ())
    (hslot : fits slot = false) :
    ensureUnique others givenName givenImage name slot imageId = .error .overflow := by
  have hfits : checkFits [slot] = .error .overflow :=
    checkFits_eq_error.2 ⟨rfl, slot, List.mem_singleton_self _, hslot⟩
  unfold ensureUnique
  rw [hname, hfits]
  rfl

theorem Catalogue.halts_create (hd : d.Ready) {draft : Draft} {slot : Int}
    (hwhole : (Call.createItem draft).Whole) (hcheck : (Call.createItem draft).check = .ok ())
    (hslot : Input.integer draft.slot "type" (some 0) none = .ok slot)
    (hlarge : greatestStored < slot) : Halts (create m draft) d .overflow := by
  have hlong : fits slot = false :=
    (fits_eq_false_iff ((Input.integer_eq_ok.1 hslot).2.1 0 rfl)).2 hlarge
  have hname := hwhole.checkBytes draft.name (by simp [Call.arguments])
  obtain ⟨n, hn, hcheck⟩ := Except.bind_eq_ok.1 hcheck
  obtain ⟨_, -, hcheck⟩ := Except.bind_eq_ok.1 hcheck
  obtain ⟨i, hi, hcheck⟩ := Except.bind_eq_ok.1 hcheck
  obtain ⟨description, hdescription, hcheck⟩ := Except.bind_eq_ok.1 hcheck
  obtain ⟨coins, hcoins, hcheck⟩ := Except.bind_eq_ok.1 hcheck
  obtain ⟨gems, hgems, hcheck⟩ := Except.bind_eq_ok.1 hcheck
  obtain ⟨saleCoins, hsaleCoins, hcheck⟩ := Except.bind_eq_ok.1 hcheck
  obtain ⟨saleGems, hsaleGems, -⟩ := Except.bind_eq_ok.1 hcheck
  unfold create
  refine .passed hn (.passed hslot (.passed hi (.passed hdescription ?_)))
  refine .passed hcoins (.passed hgems (.passed hsaleCoins (.passed hsaleGems ?_)))
  refine .reported hd.calm (.afterStore hd (.first ?_)) Stop.not_isStorage_overflow
  exact halts_lift (ensureUnique_of_long hname hlong)

theorem Catalogue.halts_update (hd : d.Ready) {id : Value} {change : Change} {k : String}
    {merge : Merge} (hwhole : (Call.updateItem id change).Whole)
    (hid : Input.identifier id "id" = .ok k) (hmerge : change.check = .ok merge)
    (hitem : (d.store.item? k).isSome) (hlarge : greatestStored < merge.slot) :
    Halts (update m id change) d .overflow := by
  have hidBytes := hwhole.checkBytes id (by simp [Call.arguments])
  have hname := hwhole.checkBytes change.name (by simp [Call.arguments])
  obtain ⟨item, hitem⟩ := Option.isSome_iff_exists.1 hitem
  -- The slot is not zero, so it is the one that is merged.
  have hne : merge.slot ≠ 0 := fun h => by
    rw [h] at hlarge
    exact absurd hlarge (by decide)
  have hlong : fits (merge.apply item).slot = false := by
    show fits (orNumber merge.slot item.slot) = false
    unfold orNumber
    rw [if_neg hne]
    exact (fits_eq_false_iff (Change.inDomain_of_check hmerge).slot).2 hlarge
  unfold update
  refine .passed hid (.passed hmerge ?_)
  refine .reported hd.calm (.afterStoreFor hd hidBytes ?_) Stop.not_isStorage_overflow
  rw [hitem]
  refine .afterStore hd (.first ?_)
  exact halts_lift (ensureUnique_of_long hname hlong)

/-- A user whose balances change is written, if they fit. -/
theorem Store.writeUser_of_long {s : Store} {now : Instant} {u old : User}
    (hold : s.user? u.id = some old) (hne : { u with updatedAt := old.updatedAt } ≠ old)
    (hlong : fits u.coins = false ∨ fits u.gems = false) :
    s.writeUser now u = .error .overflow := by
  have hfits : checkFits [u.coins, u.gems] = .error .overflow := checkFits_eq_error.2
    ⟨rfl, hlong.elim (fun h => ⟨u.coins, .head _, h⟩) fun h => ⟨u.gems, .tail _ (.head _), h⟩⟩
  unfold writeUser
  rw [hold]
  dsimp only
  rw [if_neg hne]
  unfold replaceUser
  show (checkFits [u.coins, u.gems] >>= _) = _
  rw [hfits]
  rfl

theorem Market.halts_throwAway (hd : d.Ready) (hdomain : d.store.InDomain)
    {userId itemId : Value} {u i : String} {user : User} {item : Item}
    (huserId : Input.Names userId "user_id" u) (hitemId : Input.Names itemId "item_id" i)
    (huser : d.store.user? u = some user) (hitem : d.store.item? i = some item)
    (hheld : (d.store.possession? u i).isSome)
    (hlarge : greatestStored < user.coins + item.base.coins ∨
      greatestStored < user.gems + item.base.gems) :
    Halts (throwAway m userId itemId) d .overflow := by
  have hbefore := hdomain.users user (Store.mem_of_user? huser)
  have hprice := hdomain.items item (Store.mem_of_item? hitem)
  have hpair : findPair userId itemId u i d = .ok (user, item) d :=
    findPair_ready hd huserId.bytes hitemId.bytes huser hitem
  have hold : d.store.user? user.id = some user := (Store.id_of_user? huser).symm ▸ huser
  have hwrite : d.store.writeUser m.now { user with
      coins := user.coins + item.base.coins
      gems := user.gems + item.base.gems } = .error .overflow := by
    refine Store.writeUser_of_long hold ?_ ?_
    · -- A balance that would not fit is another one than before.
      intro hsame
      have hcoins : user.coins + item.base.coins = user.coins := congrArg User.coins hsame
      have hgems : user.gems + item.base.gems = user.gems := congrArg User.gems hsame
      rw [hcoins, hgems] at hlarge
      exact hlarge.elim (Int.not_lt.2 hbefore.coins.2) (Int.not_lt.2 hbefore.gems.2)
    · exact hlarge.imp
        (fits_eq_false_iff (Int.add_nonneg hbefore.coins.1 hprice.baseCoins.1)).2
        (fits_eq_false_iff (Int.add_nonneg hbefore.gems.1 hprice.baseGems.1)).2
  have hnotNone : ¬(d.store.possession? u i).isNone = true := by
    rw [Option.isSome_iff_ne_none] at hheld
    exact fun h => hheld (Option.isNone_iff_eq_none.1 h)
  unfold throwAway
  refine .passed huserId.check (.passed hitemId.check ?_)
  refine .reported hd.calm (.rest hpair ?_) Stop.not_isStorage_overflow
  exact .afterStore hd (.guarded hnotNone (halts_run hd hwrite).first)

namespace Registry

variable {issuer : Token.Issuer} {key password : Value} {u : User}

theorem halts_login_of_long (hd : d.Ready) {n : Int} (hpassword : password.holds = true)
    (hlong : fits n = false) : Halts (login issuer m (.int n) password) d .overflow := by
  have hne : n ≠ 0 := fun h => by
    rw [h] at hlong
    exact absurd hlong (by decide)
  have hlookup : lookupText (.int n) = .error .overflow := by
    have hfits : checkFits [n] = .error .overflow :=
      checkFits_eq_error.2 ⟨rfl, n, List.mem_singleton_self _, hlong⟩
    unfold lookupText
    dsimp only
    rw [hfits]
    rfl
  have hkey : (Value.int n).holds = true := bne_iff_ne.2 hne
  unfold login
  refine .guarded (by simp [hkey, hpassword]) (.first ?_)
  exact .reported hd.calm (halts_lift hlookup).first Stop.not_isStorage_overflow

/-- A login that finds a user comes to the password and to the token. -/
theorem halts_login_of_finds (hd : d.Ready) (hfinds : Finds d.store key password u)
    (h : Halts (do
      if !(← checkPassword u password) then fail badLogin
      issueFor issuer m.now u) d stop) :
    Halts (login issuer m key password) d stop := by
  obtain ⟨k, hk, huser⟩ := hfinds.user
  obtain ⟨d', h⟩ := h
  refine ⟨d', ?_⟩
  rw [login_of_lookup hd hfinds.keyHolds hfinds.passwordHolds hk, huser]
  exact h

/-- A password that is neither a text nor torn is none. -/
theorem checkPassword_of_ne_text (hwhole : ∀ raw, password ≠ .torn raw)
    (htext : ∀ p, password ≠ .text p) : checkPassword u password = .error .noText := by
  cases password with
  | text p => exact absurd rfl (htext p)
  | torn raw => exact absurd rfl (hwhole raw)
  | _ => rfl

/-- Where the expiry is not in the calendar, no token is issued. -/
theorem issueFor_of_expiry {now : Instant} (hexpiry : issuer.expiry? now = none) :
    issueFor issuer now u d = .error .overflow d := by
  unfold issueFor issue
  rw [hexpiry]
  rfl

theorem halts_issueFor_of_algorithm {now : Instant} {k : Token.Key}
    (hexpiry : issuer.expiry? now ≠ none) (hkey : issuer.key = .ok k)
    (halgorithm : Token.Algorithm.ofName? issuer.algorithm = none) :
    Halts (issueFor issuer now u) d .unknownAlgorithm := by
  obtain ⟨expiresAt, hexpiresAt⟩ := Option.ne_none_iff_exists'.1 hexpiry
  have hsign : ∀ claims, issuer.sign claims = .error .unknownAlgorithm := by
    intro claims
    unfold Token.Issuer.sign Token.encode Token.sign
    rw [hkey, halgorithm]
    rfl
  refine ⟨{ d with supply := d.supply.nextToken.2 }, ?_⟩
  unfold issueFor issue
  rw [hexpiresAt]
  dsimp only
  rw [bind_ready takeTokenId_eq, hsign]
  rfl

end Registry

/-- **What escapes does**, at every desk where nothing is wrong with the storage. -/
theorem Service.Escapes.halts {call : Call} (h : service.Escapes m d.store call stop)
    (hd : d.Ready) (hdomain : d.store.InDomain) (hwhole : call.Whole) :
    Halts (service.perform m call) d stop := by
  cases h with
  | infinite hcheck => exact ⟨d, service.begins_perform m call d _ hcheck⟩
  | unwritable hcheck => exact ⟨d, service.begins_perform m call d _ hcheck⟩
  | newSlot hcheck hslot hlarge =>
    exact (Catalogue.halts_create hd hwhole hcheck hslot hlarge).first
  | changedSlot hid hmerge hitem hlarge =>
    exact (Catalogue.halts_update hd hwhole hid hmerge hitem hlarge).first
  | @refund userId itemId u i user item huserId hitemId huser hitem hheld hlarge =>
    have huserBytes := hwhole.checkBytes userId (by simp [Call.arguments])
    have hitemBytes := hwhole.checkBytes itemId (by simp [Call.arguments])
    exact (Market.halts_throwAway hd hdomain ⟨huserId, huserBytes⟩ ⟨hitemId, hitemBytes⟩ huser
      hitem hheld hlarge).first
  | longKey hpassword hlong => exact (Registry.halts_login_of_long hd hpassword hlong).first
  | @noPassword key password u hfinds htext =>
    have hpassword := Registry.checkPassword_of_ne_text (u := u)
      (hwhole password (by simp [Call.arguments])) htext
    exact (Registry.halts_login_of_finds hd hfinds (halts_lift hpassword).first).first
  | noExpiry hfinds hright hexpiry =>
    refine (Registry.halts_login_of_finds hd hfinds (.passed hright ?_)).first
    exact .guarded (by decide) ⟨d, Registry.issueFor_of_expiry hexpiry⟩
  | unknownAlgorithm hfinds hright hexpiry hkey halgorithm =>
    refine (Registry.halts_login_of_finds hd hfinds (.passed hright ?_)).first
    exact .guarded (by decide) (Registry.halts_issueFor_of_algorithm hexpiry hkey halgorithm)

end Correct

/-! ### The theorem -/

/-- Passwords are kept as digests. -/
theorem Chronicle.password_digest {es : List Event} {s : Store} (past : Chronicle {} es s) :
    ∀ u ∈ s.users, ∃ p, u.password = Registry.hashPassword p :=
  past.forall_identity (P := fun i => ∃ p, i.password = Registry.hashPassword p)
    fun {_ _ _ _ _ _ p} _ => ⟨p, rfl⟩

/-- **Operations report what goes wrong, except where a stop escapes.**  Whatever has been
asked of a service before, and however it is set up: as long as the storage is there, a
call whose texts are whole gives an answer or reports if no stop escapes it, even on a
storage that breaks down at its statements; and where nothing is wrong with the storage,
it does so only if no stop escapes it. -/
theorem Service.reports_iff {settings : Settings} {files : Token.Directory}
    {options : Token.IssuerOptions} (service : Service)
    (hissuer : Token.Issuer.make settings files options = .ok service.issuer) (desk : Desk)
    (steps : List Step) {d : Desk}
    (hstore : d.store = (service.run { desk with store := {} } steps).store) (hd : d.Calm)
    {m : Moment} (hm : m.Calm) {call : Call} (hwhole : call.Whole) :
    ((∀ stop, ¬service.Escapes m d.store call stop) → service.Reports m call d) ∧
      (d.Ready → (service.Reports m call d ↔ ∀ stop, ¬service.Escapes m d.store call stop)) := by
  have past : Chronicle {} (service.history { desk with store := {} } steps) d.store :=
    hstore ▸ service.chronicle { desk with store := {} } steps
  have hreports : (∀ stop, ¬service.Escapes m d.store call stop) → service.Reports m call d :=
    fun hno stop d' h => (Service.stops_perform hd hm past.inDomain past.password_digest
      (Token.Issuer.signingProblem_of_make hissuer) hwhole hno).stop h
  refine ⟨hreports, fun hready => ⟨fun hall stop hescapes => ?_, hreports⟩⟩
  obtain ⟨d', h⟩ := hescapes.halts hready past.inDomain hwhole
  exact hescapes.not_isReported (hall stop d' h)

/-! ### A new item and a login -/

namespace Smithy

/-- What an issuer is told: an algorithm, a secret and an hour. -/
def options (algorithm : String) : Token.IssuerOptions :=
  { algorithm, signingKey := some (.text "secret"), ttl := .whole 3600 }

/-- A service that signs by an algorithm. -/
def service (algorithm : String) : Service :=
  ⟨⟨algorithm, .ok (.text "secret"), 3600000000, "medieval", "users-service", {}⟩, ""⟩

/-- Empty tables, and ids to come. -/
def desk : Desk := { supply := { prepared := ["u1", "s1"] } }

/-- The moment of every call. -/
def noon : Moment := ⟨⟨1000000⟩, none⟩

/-- A new item for a slot. -/
def anvil (slot : Int) : Call :=
  .createItem { name := .text "anvil", slot := .int slot, imageId := .text "anvil" }

/-- Somebody registers. -/
def arrival : Step := ⟨noon, .register (.text "ada") (.text "a@b.c") (.text "pw")⟩

/-- Somebody logs in with the right password. -/
def login : Call := .login (.text "u1") (.text "pw")

/-- The desk after the registration. -/
def left : Desk :=
  { store :=
      { users := [Registry.member noon.now "u1" "ada" "a@b.c"]
        stats := [{ id := "s1", userId := "u1" }] } }

theorem rightLogin_ada : Registry.RightLogin left.store
    (Registry.member noon.now "u1" "ada" "a@b.c") "u1" "pw" :=
  ⟨by decide, by decide, rfl, Registry.hashPassword_pw.symm⟩

theorem whole_anvil (slot : Int) : (anvil slot).Whole := by
  intro v hv raw
  simp only [anvil, Call.arguments, List.mem_cons, List.not_mem_nil, or_false] at hv
  rcases hv with rfl | rfl | rfl | rfl | rfl | rfl | rfl | rfl | rfl <;> rintro ⟨⟩

/-- No stop escapes where a column can hold the slot. -/
theorem not_escapes_anvil (stop : Stop) :
    ¬(service "HS256").Escapes noon desk.store (anvil 3) stop := by
  have hcheck : (anvil 3).check = .ok () := rfl
  intro h
  cases h with
  | infinite h =>
    rw [hcheck] at h
    cases h
  | unwritable h =>
    rw [hcheck] at h
    cases h
  | newSlot _ hslot hlarge =>
    obtain rfl := Except.ok.inj hslot
    exact absurd hlarge (by decide)

end Smithy

open Smithy in
/-- An item for slot 3 is reported about; one for slot 2^63 is not. -/
theorem Service.reports_iff_anvil :
    Token.Issuer.make {} [] (options "HS256") = .ok (service "HS256").issuer ∧
      desk.store = ((service "HS256").run { desk with store := {} } []).store ∧
      desk.Calm ∧ desk.Ready ∧ noon.Calm ∧ (anvil 3).Whole ∧
      (service "HS256").Reports noon (anvil 3) desk ∧
      ¬(service "HS256").Reports noon (anvil 9223372036854775808) desk := by
  have hmake : Token.Issuer.make {} [] (options "HS256") = .ok (service "HS256").issuer := rfl
  have hready : desk.Ready := ⟨rfl, rfl, rfl⟩
  have hnoon : noon.Calm := Moment.calm_of_fault rfl
  refine ⟨hmake, rfl, hready.calm, hready, hnoon, whole_anvil 3, ?_, fun hreports => ?_⟩
  · exact (reports_iff _ hmake desk [] rfl hready.calm hnoon (whole_anvil 3)).1 not_escapes_anvil
  · have hslot : Input.integer (.int 9223372036854775808) "type" (some 0) none =
        .ok 9223372036854775808 := rfl
    exact ((reports_iff _ hmake desk [] rfl hready.calm hnoon (whole_anvil _)).2 hready).1 hreports
      .overflow (.newSlot rfl hslot (by decide))

open Smithy in
/-- A service that is told to sign by an algorithm that nobody knows does not report that
a token cannot be issued. -/
theorem Service.login_not_reported :
    Token.Issuer.make {} [] (options "HS999") = .ok (service "HS999").issuer ∧
      (service "HS999").run desk [arrival] = left ∧ left.Ready ∧
      (service "HS999").perform noon login left =
        .error .unknownAlgorithm { left with supply := { tokensNumbered := 1 } } ∧
      ¬Stop.IsReported .unknownAlgorithm := by
  have hrun : (service "HS999").run desk [arrival] = left :=
    (service "HS999").run_ada noon.now "u1" "s1" [] []
  have hready : left.Ready := ⟨rfl, rfl, rfl⟩
  have hlogin : Registry.login (service "HS999").issuer noon (.text "u1") (.text "pw") left =
      .error .unknownAlgorithm { left with supply := { tokensNumbered := 1 } } :=
    (Registry.login_of_credentials hready rightLogin_ada.credentials).trans rfl
  exact ⟨rfl, hrun, hready, bind_stopped hlogin, id⟩

end Guildhall
