/-
Guildhall/Proofs/Reporting.lean

Operations that report what goes wrong.  A stop is reported if it is a failure of one of
the kinds that callers of the service are meant to see (`Stop.IsReported`).  On a calm
desk whose store has its columns in their domains, an operation whose arguments have
passed their checks either gives a result or reports; four operations do so on a
condition, which their lemmas name: items are created and changed with a slot that a
column can hold, what a refund makes fits its column, and a login finds a user by a
short key, is given a text and can issue the token.
-/
import Guildhall.Proofs.Arguments
import Guildhall.Proofs.Calm
import Guildhall.Proofs.Domain
import Guildhall.Proofs.Numeral
import Guildhall.Proofs.Registration

namespace Guildhall

open Session

/-- A stop that callers of the service are meant to see: a failure about a field, a
balance, a clash, something that is not there, the storage or an operation that is not
offered. -/
def Stop.IsReported : Stop → Prop
  | .failure (.invalid ..) | .failure (.insufficient ..) | .failure (.alreadyExists _)
  | .failure (.notFound ..) | .failure (.internal ..) | .failure (.unimplemented ..) => True
  | _ => False

variable {m : Moment} {d : Desk}

/-! ### Numbers -/

theorem IsCount.fits {n : Int} (h : IsCount n) : fits n = true := fits_of_bounds h.1 h.2

theorem IsPrice.fits {n : Int} (h : IsPrice n) : Guildhall.fits n = true :=
  fits_of_bounds h.1 (Int.le_trans h.2 (by decide))

/-- An amount has few enough digits to be written. -/
theorem Input.isWritable_amount {v : Value} {field : String} {n : Int}
    (h : amount v field = .ok n) : (Value.int n).isWritable = true := by
  obtain ⟨hlow, hhigh⟩ := amount_bounds h
  exact Text.Numeral.isWritable_of_lt (by omega)

/-- A sum with an amount is turned down with a complaint, which can be written. -/
theorem Input.reported_total {v : Value} {field field' : String} {current delta : Int}
    (hdelta : amount v field = .ok delta) :
    Except.Only Stop.IsReported (total current delta field') := by
  unfold total
  split
  · unfold reject
    rw [if_pos (isWritable_amount hdelta)]
    exact .error trivial
  · exact .ok

/-! ### Accounts -/

namespace Registry

theorem reported_ensureFree {s : Store} {givenName givenEmail : Value} {name email : String}
    (hname : checkBytes givenName = .ok ()) (hemail : checkBytes givenEmail = .ok ()) :
    Except.Only Stop.IsReported (ensureFree s givenName givenEmail name email) := by
  unfold ensureFree
  refine (Except.Only.of_ok hname).bind fun _ _ => .guarded trivial ?_
  refine (Except.Only.of_ok hemail).bind fun _ _ => ?_
  split
  · exact .error trivial
  · exact .ok

theorem stops_register (hd : d.Calm) (hm : m.Calm) {name email password : Value}
    (hwhole : (Call.register name email password).Whole)
    (hcheck : (Call.register name email password).check = .ok ()) :
    Stops Stop.IsReported (register m name email password) d := by
  obtain ⟨n, hname, hcheck⟩ := Except.bind_eq_ok.1 hcheck
  obtain ⟨e, hemail, hcheck⟩ := Except.bind_eq_ok.1 hcheck
  obtain ⟨p, hpassword, -⟩ := Except.bind_eq_ok.1 hcheck
  have hnameBytes := hwhole.checkBytes name (by simp [Call.arguments])
  have hemailBytes := hwhole.checkBytes email (by simp [Call.arguments])
  have hpasswordBytes := hwhole.checkBytes password (by simp [Call.arguments])
  unfold register
  refine .passed hname (.passed hemail (.passed hpassword ?_))
  refine .reported hd ?_ trivial trivial
  refine .afterStore hd fun d₁ hd₁ _ => ?_
  refine .after hd₁ (inside (reported_ensureFree hnameBytes hemailBytes)) fun _ _ => ?_
  refine .passed hpasswordBytes ?_
  -- What is written are empty balances and empty counters.
  have hbalances : ∀ n ∈ [0, 0], fits n = true := by decide
  have hcounters : ∀ n ∈ [0, 0, 0, 0], fits n = true := by decide
  refine .afterRowId hd₁ fun id d₂ hd₂ _ => ?_
  refine .afterRun hd₂ (inside_of_fits Store.turnedDown_insertUser hbalances) fun d₃ hd₃ _ => ?_
  refine .afterFlush hd₃ hm fun d₄ hd₄ _ => ?_
  refine .afterRowId hd₄ fun statsId d₅ hd₅ _ => ?_
  refine .afterRun hd₅ (inside_of_fits Store.turnedDown_insertStats hcounters) fun d₆ hd₆ _ => ?_
  exact .afterFlush hd₆ hm fun d₇ hd₇ _ => stops_pure hd₇

theorem stops_read (hd : d.Calm) {key : Value} (hwhole : (Call.readUser key).Whole)
    (hcheck : (Call.readUser key).check = .ok ()) : Stops Stop.IsReported (read key) d := by
  obtain ⟨k, hkey, -⟩ := Except.bind_eq_ok.1 hcheck
  have hbytes := hwhole.checkBytes key (by simp [Call.arguments])
  unfold read
  refine .passed hkey (.reported hd ?_ trivial trivial)
  refine .afterStoreFor hd hbytes fun d₁ hd₁ _ => ?_
  cases d.store.userByKey? k with
  | none => exact stops_fail (.inr trivial)
  | some u => exact stops_pure hd₁

theorem stops_delete (hd : d.Calm) {id : Value} (hwhole : (Call.deleteUser id).Whole)
    (hcheck : (Call.deleteUser id).check = .ok ()) : Stops Stop.IsReported (delete id) d := by
  obtain ⟨k, hid, -⟩ := Except.bind_eq_ok.1 hcheck
  have hbytes := hwhole.checkBytes id (by simp [Call.arguments])
  unfold delete
  rw [hbytes]
  exact .passed hid (.reported hd (stops_run hd .ok) trivial trivial)

/-! ### Logins -/

/-- A login that comes to the password of a user. -/
structure Finds (s : Store) (key password : Value) (u : User) : Prop where
  keyHolds : key.holds = true
  passwordHolds : password.holds = true
  user : ∃ k, lookupText key = .ok (some k) ∧ s.userByKey? k = some u

section Logins

variable {issuer : Token.Issuer} {key password : Value}

/-- A key is compared as a text, turned down by the storage, or too long for it. -/
theorem stops_lookupText (hwhole : ∀ raw, key ≠ .torn raw)
    (hkey : ∀ n, key = .int n → fits n = true) :
    Except.Only (Inside Stop.IsReported) (lookupText key) := by
  intro stop h
  cases key with
  | torn raw => exact absurd rfl (hwhole raw)
  | int n =>
    have hfits : checkFits [n] = .ok () := checkFits_eq_ok.2 (by simpa [fits] using hkey n rfl)
    unfold lookupText at h
    dsimp only at h
    rw [hfits] at h
    cases h
  | float x => cases x <;> cases h
  | null => cases h; exact .inl .storage
  | list => cases h; exact .inl .storage
  | object => cases h; exact .inl .storage
  | _ => cases h

/-- A signature comes about, is refused with a problem of signing, or is asked for with
an unknown algorithm. -/
theorem signingProblem_of_sign {claims : Claims}
    (hkey : ∀ stop, issuer.key = .error stop → isSigningProblem stop = true)
    (halgorithm : ∀ k, issuer.key = .ok k → Token.Algorithm.ofName? issuer.algorithm ≠ none) :
    Except.Only (isSigningProblem · = true) (issuer.sign claims) := by
  refine Except.Only.bind hkey fun k hk => ?_
  have hsign : Except.Only (isSigningProblem · = true)
      (Token.sign issuer.library issuer.algorithm k
        (Token.signingInput issuer.algorithm claims.payload)) := by
    unfold Token.sign
    split
    · rename_i hnone
      exact absurd hnone (halgorithm k hk)
    · split
      · exact .error rfl
      · exact .ok
    · split
      · exact .ok
      · exact .error rfl
    · -- A key that does not go with its algorithm is refused.
      cases issuer.library.sign issuer.algorithm k _ with
      | none => exact .error rfl
      | some signature => exact .ok
  exact (hsign.bind fun _ _ => .ok).bind fun _ _ => .ok

theorem stops_issueFor (hd : d.Calm) {now : Instant} {u : User}
    (hexpiry : issuer.expiry? now ≠ none)
    (hkey : ∀ stop, issuer.key = .error stop → isSigningProblem stop = true)
    (halgorithm : ∀ k, issuer.key = .ok k → Token.Algorithm.ofName? issuer.algorithm ≠ none) :
    Stops Stop.IsReported (issueFor issuer now u) d := by
  obtain ⟨expiresAt, hexpiresAt⟩ := Option.ne_none_iff_exists'.1 hexpiry
  have hissue : Stops (isSigningProblem · = true)
      (issue issuer now ⟨u.id, u.name, u.email, u.isAdmin⟩) d := by
    unfold issue
    rw [hexpiresAt]
    refine Stops.bind (hd.of_kept rfl rfl (List.Subset.refl _)) fun tokenId d' h hd' => ?_
    exact stops_lift hd' (signingProblem_of_sign hkey halgorithm)
  unfold Stops issueFor
  dsimp only
  cases hend : issue issuer now ⟨u.id, u.name, u.email, u.isAdmin⟩ d with
  | ok issued d' => exact hissue.calm hend
  | error stop d' =>
    dsimp only
    rw [if_pos (hissue.stop hend)]
    trivial

/-- A login reports what goes wrong if its key is not too long, the password of a user
who is found is a text, and a token can be issued for whoever gives the right one. -/
theorem stops_login (hd : d.Calm) (hwhole : (Call.login key password).Whole)
    (hdigests : ∀ u ∈ d.store.users, ∃ p, u.password = hashPassword p)
    (hkey : ∀ stop, issuer.key = .error stop → isSigningProblem stop = true)
    (hshort : ∀ n, key = .int n → password.holds = true → fits n = true)
    (htext : ∀ u, Finds d.store key password u → ∃ p, password = .text p)
    (hissues : ∀ u, Finds d.store key password u → checkPassword u password = .ok true →
      issuer.expiry? m.now ≠ none ∧
        ∀ k, issuer.key = .ok k → Token.Algorithm.ofName? issuer.algorithm ≠ none) :
    Stops Stop.IsReported (login issuer m key password) d := by
  have hkeyWhole : ∀ raw, key ≠ .torn raw := hwhole key (by simp [Call.arguments])
  unfold login
  refine .guarded trivial fun hholds => ?_
  obtain ⟨hkeyHolds, hpasswordHolds⟩ : key.holds = true ∧ password.holds = true := by
    simpa using hholds
  -- The user is looked for in a unit of work of its own.
  have hlookup : Stops Stop.IsReported (reportingAs (storageFailure "login" "Unable to login"
      [("provided_id", key)]) (transaction do
        let key ← lookupText key
        return key.bind (← store).userByKey?)) d := by
    refine .reported hd ?_ trivial trivial
    refine .after hd (stops_lookupText hkeyWhole fun n hn => hshort n hn hpasswordHolds)
      fun _ _ => ?_
    exact .afterStore hd fun d₁ hd₁ _ => stops_pure hd₁
  refine hlookup.bind fun found d₁ hfound hd₁ => ?_
  obtain ⟨d₂, hfound, -⟩ := reported_eq_ok hfound
  obtain ⟨k?, hk, hfound⟩ := after_eq_ok.1 hfound
  obtain ⟨d₃, -, hfound⟩ := after_store_eq_ok hfound
  obtain ⟨rfl, -⟩ := pure_eq_ok.1 hfound
  cases k? with
  | none => exact stops_fail trivial
  | some k =>
    rw [Option.bind_some]
    cases huser : d.store.userByKey? k with
    | none => exact stops_fail trivial
    | some u =>
      have hfinds : Finds d.store key password u := ⟨hkeyHolds, hpasswordHolds, k, hk, huser⟩
      obtain ⟨p, rfl⟩ := htext u hfinds
      obtain ⟨q, hq⟩ := hdigests u (Store.mem_of_userByKey? huser)
      have hpassword := checkPassword_of_digest hq p
      refine .passed hpassword (.guarded trivial fun hright => ?_)
      have htrue : (hashPassword q == hashPassword p) = true := by simpa using hright
      rw [htrue] at hpassword
      obtain ⟨hexpiry, halgorithm⟩ := hissues u hfinds hpassword
      exact stops_issueFor hd₁ hexpiry hkey halgorithm

end Logins

end Registry

/-! ### Balances -/

/-- A grant looks at both sums before it writes. -/
theorem Treasury.stops_grant (hd : d.Calm) (hm : m.Calm) (hdomain : d.store.InDomain)
    {key addCoins addGems : Value} (hwhole : (Call.grant key addCoins addGems).Whole)
    (hcheck : (Call.grant key addCoins addGems).check = .ok ()) :
    Stops Stop.IsReported (grant m key addCoins addGems) d := by
  obtain ⟨k, hkey, hcheck⟩ := Except.bind_eq_ok.1 hcheck
  obtain ⟨c, hc, hcheck⟩ := Except.bind_eq_ok.1 hcheck
  obtain ⟨g, hg, -⟩ := Except.bind_eq_ok.1 hcheck
  have hbytes := hwhole.checkBytes key (by simp [Call.arguments])
  unfold grant
  refine .passed hkey (.passed hc (.passed hg (.reported hd ?_ trivial trivial)))
  refine .afterStoreFor hd hbytes fun d₁ hd₁ _ => ?_
  cases huser : d.store.userByKey? k with
  | none => exact stops_fail (.inr trivial)
  | some user =>
    have hbefore := hdomain.users user (Store.mem_of_userByKey? huser)
    refine .after hd₁ (inside (Input.reported_total hc)) fun coins hcoins => ?_
    refine .after hd₁ (inside (Input.reported_total hg)) fun gems hgems => ?_
    have hfits : ∀ n ∈ [coins, gems], fits n = true := List.forall_mem_cons.2
      ⟨(hbefore.coins.total hc hcoins).fits,
        List.forall_mem_singleton.2 (hbefore.gems.total hg hgems).fits⟩
    refine .afterRun hd₁ (inside_of_fits Store.turnedDown_writeUser hfits) fun d₂ hd₂ _ => ?_
    exact .afterFlush hd₂ hm fun d₃ hd₃ _ => stops_pure hd₃

namespace Market

/-- Looking for a user and an item reports which of them is not there. -/
theorem stops_findPair (hd : d.Calm) {userId itemId : Value} {u i : String}
    (huserBytes : checkBytes userId = .ok ()) (hitemBytes : checkBytes itemId = .ok ()) :
    Stops (Inside Stop.IsReported) (findPair userId itemId u i) d := by
  unfold findPair
  refine .afterStoreFor hd huserBytes fun d₁ hd₁ _ => ?_
  cases d.store.user? u with
  | none => exact stops_fail (.inr trivial)
  | some user =>
    refine .afterStoreFor hd₁ hitemBytes fun d₂ hd₂ _ => ?_
    cases d₁.store.item? i with
    | none => exact stops_fail (.inr trivial)
    | some item => exact stops_pure hd₂

/-- What is left after a purchase fits, since the price has been looked at. -/
theorem stops_buy (hd : d.Calm) (hm : m.Calm) (hdomain : d.store.InDomain)
    {userId itemId : Value} (hwhole : (Call.buy userId itemId).Whole)
    (hcheck : (Call.buy userId itemId).check = .ok ()) :
    Stops Stop.IsReported (buy m userId itemId) d := by
  obtain ⟨u, huserId, hcheck⟩ := Except.bind_eq_ok.1 hcheck
  obtain ⟨i, hitemId, -⟩ := Except.bind_eq_ok.1 hcheck
  have huserBytes := hwhole.checkBytes userId (by simp [Call.arguments])
  have hitemBytes := hwhole.checkBytes itemId (by simp [Call.arguments])
  unfold buy
  refine .passed huserId (.passed hitemId (.reported hd ?_ trivial trivial))
  refine (stops_findPair hd huserBytes hitemBytes).bind fun pair d₁ hpair hd₁ => ?_
  obtain ⟨user, item⟩ := pair
  obtain ⟨-, huser, hitem⟩ := findPair_eq_ok hpair
  have hbefore := hdomain.users user (Store.mem_of_user? huser)
  obtain ⟨⟨hpriceCoins, -⟩, hpriceGems, -⟩ :=
    (hdomain.items item (Store.mem_of_item? hitem)).price
  refine .guarded (.inr trivial) fun hgems => .guarded (.inr trivial) fun hcoins => ?_
  have hleft : ∀ {balance price : Int}, IsCount balance → 0 ≤ price → ¬balance < price →
      fits (balance - price) = true := by
    intro balance price hbalance hprice hpays
    have hmost : balance ≤ greatestStored := hbalance.2
    exact fits_of_bounds (by omega) (by omega)
  have hfits : ∀ n ∈ [user.coins - item.price.coins, user.gems - item.price.gems],
      fits n = true := List.forall_mem_cons.2 ⟨hleft hbefore.coins hpriceCoins hcoins,
        List.forall_mem_singleton.2 (hleft hbefore.gems hpriceGems hgems)⟩
  refine .afterRun hd₁ (inside_of_fits Store.turnedDown_writeUser hfits) fun d₂ hd₂ _ => ?_
  refine .afterFlush hd₂ hm fun d₃ hd₃ _ => ?_
  refine .afterStore hd₃ fun d₄ hd₄ _ => ?_
  split
  · refine .afterRun hd₄ (inside_of_constraint Store.turnedDown_insertPossession) fun d₅ hd₅ _ => ?_
    exact stops_flush hd₅ hm
  · exact stops_pure hd₄

/-- A refund is reported if what it makes fits. -/
theorem stops_throwAway (hd : d.Calm) (hm : m.Calm) (hdomain : d.store.InDomain)
    {userId itemId : Value} (hwhole : (Call.throwAway userId itemId).Whole)
    (hcheck : (Call.throwAway userId itemId).check = .ok ())
    (hrefund : ∀ u i user item, Input.identifier userId "user_id" = .ok u →
      Input.identifier itemId "item_id" = .ok i → d.store.user? u = some user →
      d.store.item? i = some item → (d.store.possession? u i).isSome →
        user.coins + item.base.coins ≤ greatestStored ∧
          user.gems + item.base.gems ≤ greatestStored) :
    Stops Stop.IsReported (throwAway m userId itemId) d := by
  obtain ⟨u, huserId, hcheck⟩ := Except.bind_eq_ok.1 hcheck
  obtain ⟨i, hitemId, -⟩ := Except.bind_eq_ok.1 hcheck
  have huserBytes := hwhole.checkBytes userId (by simp [Call.arguments])
  have hitemBytes := hwhole.checkBytes itemId (by simp [Call.arguments])
  unfold throwAway
  refine .passed huserId (.passed hitemId (.reported hd ?_ trivial trivial))
  refine (stops_findPair hd huserBytes hitemBytes).bind fun pair d₁ hpair hd₁ => ?_
  obtain ⟨user, item⟩ := pair
  obtain ⟨hd₁', huser, hitem⟩ := findPair_eq_ok hpair
  have hbefore := hdomain.users user (Store.mem_of_user? huser)
  have hprice := hdomain.items item (Store.mem_of_item? hitem)
  refine .afterStore hd₁ fun d₂ hd₂ _ => .guarded (.inr trivial) fun hheld => ?_
  rw [hd₁'] at hheld
  obtain ⟨hcoins, hgems⟩ := hrefund u i user item huserId hitemId huser hitem
    (Option.isSome_iff_ne_none.2 fun h => hheld (h ▸ rfl))
  have hfits : ∀ n ∈ [user.coins + item.base.coins, user.gems + item.base.gems],
      fits n = true := List.forall_mem_cons.2
    ⟨fits_of_bounds (Int.add_nonneg hbefore.coins.1 hprice.baseCoins.1) hcoins,
      List.forall_mem_singleton.2
        (fits_of_bounds (Int.add_nonneg hbefore.gems.1 hprice.baseGems.1) hgems)⟩
  refine .afterRun hd₂ (inside_of_fits Store.turnedDown_writeUser hfits) fun d₃ hd₃ _ => ?_
  refine .afterRun hd₃ .ok fun d₄ hd₄ _ => ?_
  exact stops_flush hd₄ hm

end Market

/-- Putting an item on writes no numbers. -/
theorem Wardrobe.stops_equip (hd : d.Calm) (hm : m.Calm) {userId itemId : Value}
    (hwhole : (Call.equip userId itemId).Whole)
    (hcheck : (Call.equip userId itemId).check = .ok ()) :
    Stops Stop.IsReported (equip m userId itemId) d := by
  obtain ⟨u, huserId, hcheck⟩ := Except.bind_eq_ok.1 hcheck
  obtain ⟨i, hitemId, -⟩ := Except.bind_eq_ok.1 hcheck
  have huserBytes := hwhole.checkBytes userId (by simp [Call.arguments])
  have hitemBytes := hwhole.checkBytes itemId (by simp [Call.arguments])
  unfold equip
  refine .passed huserId (.passed hitemId (.reported hd ?_ trivial trivial))
  refine .afterStoreFor hd hitemBytes fun d₁ hd₁ _ => ?_
  cases d.store.item? i with
  | none => exact stops_fail (.inr trivial)
  | some item =>
    refine .afterStoreFor hd₁ huserBytes fun d₂ hd₂ _ => ?_
    dsimp only
    cases (d₁.store.possessionsIn u item.slot).find? (·.itemId == i) with
    | none => exact stops_fail (.inr trivial)
    | some target =>
      dsimp only
      split
      · exact stops_pure hd₂
      · refine .afterRun hd₂ .ok fun d₃ hd₃ _ => ?_
        exact .afterFlush hd₃ hm fun d₄ hd₄ _ => stops_pure hd₄

/-! ### The catalogue -/

namespace Catalogue

/-- Names and images are turned down as taken, if a column can hold the slot. -/
theorem reported_ensureUnique {others : List Item} {givenName givenImage : Value}
    {name imageId : String} {slot : Int} (hname : checkBytes givenName = .ok ())
    (himage : checkBytes givenImage = .ok ()) (hslot : fits slot = true) :
    Except.Only Stop.IsReported
      (ensureUnique others givenName givenImage name slot imageId) := by
  have hfits : checkFits [slot] = .ok () := by
    unfold checkFits
    rw [List.all_cons, hslot]
    rfl
  unfold ensureUnique
  refine (Except.Only.of_ok hname).bind fun _ _ => (Except.Only.of_ok hfits).bind fun _ _ => ?_
  refine .guarded trivial ((Except.Only.of_ok himage).bind fun _ _ => ?_)
  split
  · exact .error trivial
  · exact .ok

/-- The numbers of an item in its domain fit. -/
theorem fits_itemNumbers {i : Item} (h : i.InDomain) :
    ∀ n ∈ Store.itemNumbers i, fits n = true := by
  unfold Store.itemNumbers
  simp only [List.forall_mem_cons]
  exact ⟨h.slot.fits, h.baseCoins.fits, h.baseGems.fits, h.saleCoins.fits, h.saleGems.fits,
    List.forall_mem_nil _⟩

/-- A new item is reported about if a column can hold its slot. -/
theorem stops_create (hd : d.Calm) (hm : m.Calm) {draft : Draft}
    (hwhole : (Call.createItem draft).Whole) (hcheck : (Call.createItem draft).check = .ok ())
    (hslot : ∀ n, Input.integer draft.slot "type" (some 0) none = .ok n → n ≤ greatestStored) :
    Stops Stop.IsReported (create m draft) d := by
  obtain ⟨name, hname, hcheck⟩ := Except.bind_eq_ok.1 hcheck
  obtain ⟨slot, hslot', hcheck⟩ := Except.bind_eq_ok.1 hcheck
  obtain ⟨imageId, himage, hcheck⟩ := Except.bind_eq_ok.1 hcheck
  obtain ⟨description, hdescription, hcheck⟩ := Except.bind_eq_ok.1 hcheck
  obtain ⟨coins, hcoins, hcheck⟩ := Except.bind_eq_ok.1 hcheck
  obtain ⟨gems, hgems, hcheck⟩ := Except.bind_eq_ok.1 hcheck
  obtain ⟨saleCoins, hsaleCoins, hcheck⟩ := Except.bind_eq_ok.1 hcheck
  obtain ⟨saleGems, hsaleGems, -⟩ := Except.bind_eq_ok.1 hcheck
  have hnameBytes := hwhole.checkBytes draft.name (by simp [Call.arguments])
  have himageBytes := hwhole.checkBytes draft.imageId (by simp [Call.arguments])
  have hdescriptionBytes := hwhole.checkBytes draft.description (by simp [Call.arguments])
  have hslotFits : fits slot = true :=
    fits_of_bounds ((Input.integer_eq_ok.1 hslot').2.1 0 rfl) (hslot slot hslot')
  unfold create
  refine .passed hname (.passed hslot' (.passed himage (.passed hdescription ?_)))
  refine .passed hcoins (.passed hgems (.passed hsaleCoins (.passed hsaleGems ?_)))
  refine .reported hd ?_ trivial trivial
  refine .afterStore hd fun d₁ hd₁ _ => ?_
  refine .after hd₁ (inside (reported_ensureUnique hnameBytes himageBytes hslotFits)) fun _ _ => ?_
  refine .afterRowId hd₁ fun id d₂ hd₂ _ => .passed hdescriptionBytes ?_
  have hnumbers : ∀ n ∈ [slot, coins, gems, saleCoins, saleGems], fits n = true := by
    simp only [List.forall_mem_cons]
    exact ⟨hslotFits, (isPrice_of_amount hcoins).fits, (isPrice_of_amount hgems).fits,
      (isPrice_of_amount hsaleCoins).fits, (isPrice_of_amount hsaleGems).fits,
      List.forall_mem_nil _⟩
  refine .afterRun hd₂ (inside_of_fits Store.turnedDown_insertItem hnumbers) fun d₃ hd₃ _ => ?_
  exact .afterFlush hd₃ hm fun d₄ hd₄ _ => stops_pure hd₄

theorem stops_read (hd : d.Calm) {id : Value} (hwhole : (Call.readItem id).Whole)
    (hcheck : (Call.readItem id).check = .ok ()) : Stops Stop.IsReported (read id) d := by
  obtain ⟨k, hid, -⟩ := Except.bind_eq_ok.1 hcheck
  have hbytes := hwhole.checkBytes id (by simp [Call.arguments])
  unfold read
  refine .passed hid (.reported hd ?_ trivial trivial)
  refine .afterStoreFor hd hbytes fun d₁ hd₁ _ => ?_
  cases d.store.item? k with
  | none => exact stops_fail (.inr trivial)
  | some item => exact stops_pure hd₁

theorem stops_list (hd : d.Calm) : Stops Stop.IsReported list d :=
  .reported hd (.afterStore hd fun _ hd₁ _ => stops_pure hd₁) trivial trivial

/-- A change of an item is reported about if a column can hold the new slot. -/
theorem stops_update (hd : d.Calm) (hm : m.Calm) (hdomain : d.store.InDomain) {id : Value}
    {change : Change} (hwhole : (Call.updateItem id change).Whole)
    (hcheck : (Call.updateItem id change).check = .ok ())
    (hslot : ∀ k merge, Input.identifier id "id" = .ok k → change.check = .ok merge →
      (d.store.item? k).isSome → merge.slot ≤ greatestStored) :
    Stops Stop.IsReported (update m id change) d := by
  obtain ⟨k, hid, hcheck⟩ := Except.bind_eq_ok.1 hcheck
  obtain ⟨merge, hmerge, -⟩ := Except.bind_eq_ok.1 hcheck
  have hidBytes := hwhole.checkBytes id (by simp [Call.arguments])
  have hnameBytes := hwhole.checkBytes change.name (by simp [Call.arguments])
  have himageBytes := hwhole.checkBytes change.imageId (by simp [Call.arguments])
  have hdescriptionBytes := hwhole.checkBytes change.description (by simp [Call.arguments])
  unfold update
  refine .passed hid (.passed hmerge (.reported hd ?_ trivial trivial))
  refine .afterStoreFor hd hidBytes fun d₁ hd₁ _ => ?_
  cases hitem : d.store.item? k with
  | none => exact stops_fail (.inr trivial)
  | some item =>
    -- The merged item is in its domain, the slot included.
    have hbefore := hdomain.items item (Store.mem_of_item? hitem)
    have hlarge : (merge.apply item).slot ≤ greatestStored :=
      orNumber_cases (P := (· ≤ greatestStored)) (hslot k merge hid hmerge (hitem ▸ rfl))
        hbefore.slot.2
    have hmerged : (merge.apply item).InDomain :=
      (Change.inDomain_of_check hmerge).apply hbefore hlarge
    refine .afterStore hd₁ fun d₂ hd₂ _ => ?_
    refine .after hd₂ (inside (reported_ensureUnique hnameBytes himageBytes hmerged.slot.fits))
      fun _ _ => .passed hdescriptionBytes ?_
    refine .afterRun hd₂ (inside_of_fits Store.turnedDown_writeItem (fits_itemNumbers hmerged))
      fun d₃ hd₃ _ => ?_
    refine .afterFlush hd₃ hm fun d₄ hd₄ _ => ?_
    exact .afterStore hd₄ fun d₅ hd₅ _ => stops_pure hd₅

theorem stops_delete (hd : d.Calm) {id : Value} (hwhole : (Call.deleteItem id).Whole)
    (hcheck : (Call.deleteItem id).check = .ok ()) : Stops Stop.IsReported (delete id) d := by
  obtain ⟨k, hid, -⟩ := Except.bind_eq_ok.1 hcheck
  have hbytes := hwhole.checkBytes id (by simp [Call.arguments])
  unfold delete
  rw [hbytes]
  exact .passed hid (.reported hd (stops_run hd .ok) trivial trivial)

theorem stops_possessions (hd : d.Calm) {operation : String} {equippedOnly : Bool}
    {userId : Value} (hwhole : (Call.userItems userId).Whole)
    (hcheck : (Call.userItems userId).check = .ok ()) :
    Stops Stop.IsReported (possessions operation equippedOnly userId) d := by
  obtain ⟨u, huserId, -⟩ := Except.bind_eq_ok.1 hcheck
  have hbytes := hwhole.checkBytes userId (by simp [Call.arguments])
  unfold possessions
  refine .passed huserId (.reported hd ?_ trivial trivial)
  refine .afterStoreFor hd hbytes fun d₁ hd₁ _ => ?_
  exact .guarded (.inr trivial) fun _ => stops_pure hd₁

end Catalogue

/-! ### Statistics and news -/

namespace Scoreboard

theorem reported_singleRow {s : Store} {username : String} :
    Except.Only Stop.IsReported (singleRow s username) := by
  unfold singleRow
  split
  · exact .ok
  · exact .error trivial

theorem stops_read (hd : d.Calm) {username : Value} (hwhole : (Call.readStats username).Whole)
    (hcheck : (Call.readStats username).check = .ok ()) :
    Stops Stop.IsReported (read username) d := by
  obtain ⟨name, hname, -⟩ := Except.bind_eq_ok.1 hcheck
  have hbytes := hwhole.checkBytes username (by simp [Call.arguments])
  unfold read
  refine .passed hname (.reported hd ?_ trivial trivial)
  refine .afterStoreFor hd hbytes fun d₁ hd₁ _ => ?_
  exact .after hd₁ (inside reported_singleRow) fun _ _ => stops_pure hd₁

/-- A match looks at all sums before it writes. -/
theorem stops_add (hd : d.Calm) (hm : m.Calm) (hdomain : d.store.InDomain) {username : Value}
    {deltas : Deltas} (hwhole : (Call.addStats username deltas).Whole)
    (hcheck : (Call.addStats username deltas).check = .ok ()) :
    Stops Stop.IsReported (add m username deltas) d := by
  obtain ⟨name, hname, hcheck⟩ := Except.bind_eq_ok.1 hcheck
  obtain ⟨k, hk, hcheck⟩ := Except.bind_eq_ok.1 hcheck
  obtain ⟨g, hg, hcheck⟩ := Except.bind_eq_ok.1 hcheck
  obtain ⟨t, ht, hcheck⟩ := Except.bind_eq_ok.1 hcheck
  obtain ⟨w, hw, -⟩ := Except.bind_eq_ok.1 hcheck
  have hbytes := hwhole.checkBytes username (by simp [Call.arguments])
  unfold add
  refine .passed hname (.passed hk (.passed hg (.passed ht (.passed hw ?_))))
  refine .reported hd ?_ trivial trivial
  refine .afterStoreFor hd hbytes fun d₁ hd₁ _ => ?_
  refine .after hd₁ (inside reported_singleRow) fun row hrow => ?_
  have hbefore := hdomain.stats row (mem_of_singleRow hrow)
  refine .after hd₁ (inside (Input.reported_total hk)) fun kills hkills => ?_
  refine .after hd₁ (inside (Input.reported_total hg)) fun games hgames => ?_
  refine .after hd₁ (inside (Input.reported_total ht)) fun top5 htop5 => ?_
  refine .after hd₁ (inside (Input.reported_total hw)) fun wins hwins => ?_
  have hfits : ∀ n ∈ [wins, top5, kills, games], fits n = true := by
    simp only [List.forall_mem_cons]
    exact ⟨(hbefore.wins.total hw hwins).fits, (hbefore.top5.total ht htop5).fits,
      (hbefore.kills.total hk hkills).fits, (hbefore.games.total hg hgames).fits,
      List.forall_mem_nil _⟩
  refine .afterRun hd₁ (inside_of_fits Store.turnedDown_writeStats hfits) fun d₂ hd₂ _ => ?_
  exact .afterFlush hd₂ hm fun d₃ hd₃ _ => stops_pure hd₃

end Scoreboard

namespace Bulletin

theorem reported_ensureFree {others : List News} {given : Value} {title : String}
    (hgiven : checkBytes given = .ok ()) :
    Except.Only Stop.IsReported (ensureFree others given title) := by
  unfold ensureFree
  refine (Except.Only.of_ok hgiven).bind fun _ _ => ?_
  split
  · exact .error trivial
  · exact .ok

theorem stops_create (hd : d.Calm) (hm : m.Calm) {title text link : Value}
    (hwhole : (Call.createNews title text link).Whole)
    (hcheck : (Call.createNews title text link).check = .ok ()) :
    Stops Stop.IsReported (create m title text link) d := by
  obtain ⟨t, htitle, hcheck⟩ := Except.bind_eq_ok.1 hcheck
  obtain ⟨description, hdescription, hcheck⟩ := Except.bind_eq_ok.1 hcheck
  obtain ⟨image, hlink, -⟩ := Except.bind_eq_ok.1 hcheck
  have htitleBytes := hwhole.checkBytes title (by simp [Call.arguments])
  have htextBytes := hwhole.checkBytes text (by simp [Call.arguments])
  have hlinkBytes := hwhole.checkBytes link (by simp [Call.arguments])
  unfold create
  refine .passed htitle (.passed hdescription (.passed hlink ?_))
  refine .reported hd ?_ trivial trivial
  refine .afterStore hd fun d₁ hd₁ _ => ?_
  refine .after hd₁ (inside (reported_ensureFree htitleBytes)) fun _ _ => ?_
  refine .afterRowId hd₁ fun id d₂ hd₂ _ => .passed htextBytes (.passed hlinkBytes ?_)
  refine .afterRun hd₂ (inside_of_constraint Store.turnedDown_insertNews) fun d₃ hd₃ _ => ?_
  exact .afterFlush hd₃ hm fun d₄ hd₄ _ => stops_pure hd₄

theorem stops_read (hd : d.Calm) {id : Value} (hwhole : (Call.readNews id).Whole)
    (hcheck : (Call.readNews id).check = .ok ()) : Stops Stop.IsReported (read id) d := by
  obtain ⟨k, hid, -⟩ := Except.bind_eq_ok.1 hcheck
  have hbytes := hwhole.checkBytes id (by simp [Call.arguments])
  unfold read
  refine .passed hid (.reported hd ?_ trivial trivial)
  refine .afterStoreFor hd hbytes fun d₁ hd₁ _ => ?_
  cases d.store.news? k with
  | none => exact stops_fail (.inr trivial)
  | some news => exact stops_pure hd₁

theorem stops_list (hd : d.Calm) : Stops Stop.IsReported list d :=
  .reported hd (.afterStore hd fun _ hd₁ _ => stops_pure hd₁) trivial trivial

theorem stops_update (hd : d.Calm) (hm : m.Calm) {id title text link : Value}
    (hwhole : (Call.updateNews id title text link).Whole)
    (hcheck : (Call.updateNews id title text link).check = .ok ()) :
    Stops Stop.IsReported (update m id title text link) d := by
  obtain ⟨k, hid, hcheck⟩ := Except.bind_eq_ok.1 hcheck
  obtain ⟨newTitle, htitle, hcheck⟩ := Except.bind_eq_ok.1 hcheck
  obtain ⟨description, hdescription, hcheck⟩ := Except.bind_eq_ok.1 hcheck
  obtain ⟨image, hlink, -⟩ := Except.bind_eq_ok.1 hcheck
  have hidBytes := hwhole.checkBytes id (by simp [Call.arguments])
  have htitleBytes := hwhole.checkBytes title (by simp [Call.arguments])
  have htextBytes := hwhole.checkBytes text (by simp [Call.arguments])
  have hlinkBytes := hwhole.checkBytes link (by simp [Call.arguments])
  -- Once the title is known to be free, the rest is the same with a title and without one.
  have hrest : ∀ (news : News) (d₁ : Desk), d₁.Calm → Stops (Inside Stop.IsReported) (do
      let merged := { news with
        title := newTitle.getD news.title
        description := description.getD news.description
        imageLink := image.getD news.imageLink }
      checkBytes text
      checkBytes link
      run (·.writeNews merged)
      flush m .news
      return merged) d₁ := by
    intro news d₁ hd₁
    refine .passed htextBytes (.passed hlinkBytes ?_)
    refine .afterRun hd₁ (inside_of_constraint Store.turnedDown_writeNews) fun d₂ hd₂ _ => ?_
    exact .afterFlush hd₂ hm fun d₃ hd₃ _ => stops_pure hd₃
  unfold update
  refine .passed hid (.passed htitle (.passed hdescription (.passed hlink ?_)))
  refine .reported hd ?_ trivial trivial
  refine .afterStoreFor hd hidBytes fun d₁ hd₁ _ => ?_
  cases d.store.news? k with
  | none => exact stops_fail (.inr trivial)
  | some news =>
    cases newTitle with
    | none => exact hrest news d₁ hd₁
    | some t =>
      refine .afterStore hd₁ fun d₂ hd₂ _ => ?_
      exact .after hd₂ (inside (reported_ensureFree htitleBytes)) fun _ _ => hrest news d₂ hd₂

end Bulletin

end Guildhall
