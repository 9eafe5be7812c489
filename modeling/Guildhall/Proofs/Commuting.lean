/-
Guildhall/Proofs/Commuting.lean

Calls that are aimed at different users commute.  A purchase, a return, a change of
clothes, a grant or an update of statistics is within the rows of its user: what it
comes to and what it does to these rows is the same whatever the rows of the others
are, and those it leaves alone.  So of two such calls each comes to the same end
whether it is made first or second, and the tables that both of them leave have the
same rows:

    rowsOf p (a then b) = rowsOf p (a) = rowsOf p (b then a)

if `p` is a test that the user of `a` passes and the user of `b` does not, and the
other way round.  A key or a name means the same user after the other call, which
changes balances, possessions and counters only.

Main statement: `aimed_calls_commute`.
-/
import Guildhall.Proofs.Keys
import Guildhall.Proofs.Statistics
import Guildhall.Proofs.Subject

namespace Guildhall

/-! ### What work leaves -/

namespace Session

variable {α β : Type} {d : Desk} {v : Store → Store} {m : Moment}

/-- The desk that some work leaves. -/
def left : EStateM.Result Stop Desk α → Desk
  | .ok _ d | .error _ d => d

/-- How some work ends, whatever it leaves. -/
def outcome : EStateM.Result Stop Desk α → Except Stop α
  | .ok a _ => .ok a
  | .error stop _ => .error stop

/-- Two ends of which a view shows the same. -/
theorem eq_of_seen {r r' : EStateM.Result Stop Desk α} (h : seen v r = seen v r') :
    outcome r = outcome r' ∧ (left r).seen v = (left r').seen v := by
  cases r with
  | ok a d =>
    cases r' with
    | ok a' d' =>
      obtain ⟨rfl, hd⟩ := EStateM.Result.ok.inj h
      exact ⟨rfl, hd⟩
    | error => cases h
  | error stop d =>
    cases r' with
    | ok => cases h
    | error stop' d' =>
      obtain ⟨rfl, hd⟩ := EStateM.Result.error.inj h
      exact ⟨rfl, hd⟩

/-- Work that takes no ids and leaves the connection alone: at a desk where no statement is
in for trouble, nothing but the store is another one afterwards. -/
def Steady (x : Session α) : Prop :=
  ∀ d : Desk, d.trouble = [] → ∃ s, left (x d) = { d with store := s }

theorem steady_pure {a : α} : Steady (pure a : Session α) := fun d _ => ⟨d.store, rfl⟩

theorem steady_fail {f : Failure} : Steady (fail f : Session α) := fun d _ => ⟨d.store, rfl⟩

theorem steady_lift {x : Except Stop α} : Steady (liftM x : Session α) := by
  intro d _
  cases x <;> exact ⟨d.store, rfl⟩

/-- Work in a row is steady if its parts are. -/
theorem Steady.bind {x : Session α} {f : α → Session β} (hx : Steady x)
    (hf : ∀ a, Steady (f a)) : Steady (x >>= f) := by
  intro d hd
  obtain ⟨s, hs⟩ := hx d hd
  show ∃ s, left (EStateM.bind x f d) = _
  unfold EStateM.bind
  cases h : x d with
  | ok a d' =>
    rw [h] at hs
    obtain rfl : d' = { d with store := s } := hs
    exact hf a _ hd
  | error stop d' =>
    rw [h] at hs
    exact ⟨s, hs⟩

theorem Steady.guarded {c : Prop} [Decidable c] {f : Failure} {x : Unit → Session α}
    (hx : Steady (x ())) : Steady (if c then fail f >>= x else x ()) := by
  split
  · exact steady_fail.bind fun _ => hx
  · exact hx

theorem steady_send : Steady send := by
  rintro ⟨store, supply, link, tables, trouble⟩ rfl
  exact ⟨store, rfl⟩

theorem steady_store : Steady store :=
  steady_send.bind fun _ d _ => ⟨d.store, rfl⟩

theorem steady_storeFor {given : Value} : Steady (storeFor given) :=
  steady_store.bind fun _ => steady_lift.bind fun _ => steady_pure

theorem steady_run {statement : Store → Except Stop Store} : Steady (run statement) :=
  steady_store.bind fun _ => steady_lift.bind fun s _ _ => ⟨s, rfl⟩

theorem steady_flush {site : Site} : Steady (flush m site) := by
  refine steady_send.bind fun _ d _ => ⟨d.store, ?_⟩
  cases m.fault with
  | none => rfl
  | some fault =>
    dsimp only
    split <;> rfl

/-- A unit of work is steady, since it gives back the store of before if it stops. -/
theorem Steady.transaction {work : Session α} (h : Steady work) : Steady (transaction work) := by
  intro d hd
  have hcommitting : Steady (committing work) :=
    h.bind fun _ => steady_send.bind fun _ => steady_pure
  obtain ⟨s, hs⟩ := hcommitting d hd
  unfold Session.transaction
  cases d.checkTables with
  | error stop => exact ⟨d.store, rfl⟩
  | ok _ =>
    dsimp only
    cases hdone : committing work d with
    | ok a d' =>
      rw [hdone] at hs
      exact ⟨s, hs⟩
    | error stop d' =>
      rw [hdone] at hs
      obtain rfl : d' = { d with store := s } := hs
      exact ⟨d.store, rfl⟩

theorem Steady.reportingAs {f : Failure} {work : Session α} (h : Steady work) :
    Steady (reportingAs f work) := by
  intro d hd
  obtain ⟨s, hs⟩ := h d hd
  refine ⟨s, ?_⟩
  unfold Session.reportingAs Session.reporting
  cases hdone : work d with
  | ok a d' =>
    rw [hdone] at hs
    exact hs
  | error stop d' =>
    rw [hdone] at hs
    cases stop <;> exact hs

end Session

/-! ### Calls that are aimed at a user -/

/-- A call is aimed at a user of a store: it names the user by the id, or by a key that
means the user, or by the name. -/
inductive Call.AimsAt (s : Store) (u : User) : Call → Prop
  | buy {userId itemId : Value} (hid : Input.identifier userId "user_id" = .ok u.id) :
      AimsAt s u (.buy userId itemId)
  | throwAway {userId itemId : Value} (hid : Input.identifier userId "user_id" = .ok u.id) :
      AimsAt s u (.throwAway userId itemId)
  | equip {userId itemId : Value} (hid : Input.identifier userId "user_id" = .ok u.id) :
      AimsAt s u (.equip userId itemId)
  | grant {key coins gems : Value} {k : String} (hkey : Input.identifier key "id" = .ok k)
      (huser : s.userByKey? k = some u) : AimsAt s u (.grant key coins gems)
  | addStats {username : Value} {deltas : Scoreboard.Deltas}
      (hname : Scoreboard.readName username = .ok u.name) : AimsAt s u (.addStats username deltas)

section Steady

open Session

variable {m : Moment}

theorem Market.steady_findPair {givenUser givenItem : Value} {u i : String} :
    Steady (findPair givenUser givenItem u i) := by
  refine steady_storeFor.bind fun s => ?_
  cases s.user? u with
  | none => exact steady_fail
  | some user =>
    refine steady_storeFor.bind fun s => ?_
    cases s.item? i with
    | none => exact steady_fail
    | some item => exact steady_pure

theorem Market.steady_buy {userId itemId : Value} : Steady (buy m userId itemId) := by
  refine steady_lift.bind fun u => steady_lift.bind fun i => .reportingAs (.transaction ?_)
  refine steady_findPair.bind fun pair => .guarded (.guarded ?_)
  refine steady_run.bind fun _ => steady_flush.bind fun _ => steady_store.bind fun s => ?_
  split
  · exact steady_run.bind fun _ => steady_flush
  · exact steady_pure

theorem Market.steady_throwAway {userId itemId : Value} : Steady (throwAway m userId itemId) := by
  refine steady_lift.bind fun u => steady_lift.bind fun i => .reportingAs (.transaction ?_)
  refine steady_findPair.bind fun pair => steady_store.bind fun s => .guarded ?_
  exact steady_run.bind fun _ => steady_run.bind fun _ => steady_flush

theorem Wardrobe.steady_equip {userId itemId : Value} : Steady (equip m userId itemId) := by
  refine steady_lift.bind fun u => steady_lift.bind fun i => .reportingAs (.transaction ?_)
  refine steady_storeFor.bind fun s => ?_
  cases s.item? i with
  | none => exact steady_fail
  | some item =>
    refine steady_storeFor.bind fun s => ?_
    dsimp only
    cases (s.possessionsIn u item.slot).find? (·.itemId == i) with
    | none => exact steady_fail
    | some target =>
      dsimp only
      split
      · exact steady_pure
      · exact steady_run.bind fun _ => steady_flush.bind fun _ => steady_pure

theorem Treasury.steady_grant {key coins gems : Value} : Steady (grant m key coins gems) := by
  refine steady_lift.bind fun k => steady_lift.bind fun c => steady_lift.bind fun g =>
    .reportingAs (.transaction (steady_storeFor.bind fun s => ?_))
  cases s.userByKey? k with
  | none => exact steady_fail
  | some user =>
    refine steady_lift.bind fun _ => steady_lift.bind fun _ => ?_
    exact steady_run.bind fun _ => steady_flush.bind fun _ => steady_pure

theorem Scoreboard.steady_add {username : Value} {deltas : Deltas} :
    Steady (add m username deltas) := by
  refine steady_lift.bind fun name => steady_lift.bind fun _ => steady_lift.bind fun _ =>
    steady_lift.bind fun _ => steady_lift.bind fun _ =>
    .reportingAs (.transaction (steady_storeFor.bind fun s => ?_))
  refine steady_lift.bind fun row => steady_lift.bind fun _ => steady_lift.bind fun _ =>
    steady_lift.bind fun _ => steady_lift.bind fun _ => ?_
  exact steady_run.bind fun _ => steady_flush.bind fun _ => steady_pure

/-- Calls that are aimed at a user take no ids and leave the connection alone. -/
theorem Service.steady_perform (service : Service) (m : Moment) {call : Call} {s : Store} {u : User}
    (haims : call.AimsAt s u) : Steady (service.perform m call) := by
  cases haims with
  | buy => exact Market.steady_buy.bind fun _ => steady_pure
  | throwAway => exact Market.steady_throwAway.bind fun _ => steady_pure
  | equip => exact Wardrobe.steady_equip.bind fun _ => steady_pure
  | grant => exact Treasury.steady_grant.bind fun _ => steady_pure
  | addStats => exact Scoreboard.steady_add.bind fun _ => steady_pure

end Steady

/-! ### What makes a difference -/

namespace Store

variable {p : String → Bool} {s : Store} {u : User}

/-- A key that means a user who is shown means the user on the view too. -/
theorem userByKey?_rowsOf {k : String} (hs : s.Sound) (hk : s.userByKey? k = some u)
    (hp : p u.id = true) : (s.rowsOf p).userByKey? k = some u := by
  obtain ⟨hu, hkey, hfirst⟩ := hs.userByKey?_iff.1 hk
  refine (hs.rowsOf p).userByKey?_iff.2 ⟨List.mem_filter.2 ⟨hu, hp⟩, hkey, fun v hv => ?_⟩
  exact hfirst v (List.mem_filter.1 hv).1

/-- The statistics of a user who is shown are found by the name. -/
theorem singleRow_rowsOf (hs : s.Sound) (hu : u ∈ s.users) (hp : p u.id = true) :
    Scoreboard.singleRow (s.rowsOf p) u.name = Scoreboard.singleRow s u.name := by
  have hshown : u ∈ (s.rowsOf p).users := List.mem_filter.2 ⟨hu, hp⟩
  have hrows : (s.rowsOf p).statsOf u.name = s.statsOf u.name := by
    rw [(hs.rowsOf p).statsOf_name hshown, hs.statsOf_name hu]
    exact filter_filter_of_imp s.stats fun _ hrow => (beq_iff_eq.1 hrow) ▸ hp
  unfold Scoreboard.singleRow
  rw [hrows]

/-- A row of statistics that is written stays with its user. -/
theorem Sound.stats_stay {row new : Stats} (hs : s.Sound) (hrow : row ∈ s.stats)
    (hid : new.id = row.id) (huser : new.userId = row.userId) :
    ∀ old ∈ s.stats, old.id = new.id → old.userId = new.userId := by
  intro old hold hsame
  rw [Rows.eq_of_key hs.statsIds hold hrow (hsame.trans hid), huser]

end Store

section Within

open Session

variable {m : Moment} {d : Desk} {p : String → Bool} {u : User}

theorem Market.within_throwAway {userId itemId : Value}
    (hk : ∀ k, Input.identifier userId "user_id" = .ok k → p k = true)
    (hnames : (d.store.users.map (·.name)).Nodup)
    (hemails : (d.store.users.map (·.email)).Nodup) :
    Within (Store.rowsOf p) (throwAway m userId itemId) d := by
  refine .after fun u hu => .after fun i _ => .reporting (.transaction ?_)
  have hpu := hk u hu
  refine (within_findPair hpu).bind fun pair d₁ hpair => ?_
  obtain ⟨user, item⟩ := pair
  obtain ⟨hd₁, huser, -⟩ := findPair_eq_ok hpair
  have hpuser : p user.id = true := Store.id_of_user? huser ▸ hpu
  have hmem := Store.mem_of_user? huser
  refine .reading ?_ fun d₂ hd₂ => .guarded fun _ => ?_
  · rw [Store.possession?_rowsOf hpu]
  · rw [← hd₁, ← hd₂] at hnames hemails hmem
    refine (within_run ?_).bind fun _ d₃ _ => (within_run ?_).bind fun _ _ _ => within_flush
    · exact Store.writeUser_rowsOf hpuser hnames hemails hmem rfl
    · exact congrArg Except.ok Store.deletePossession_rowsOf

theorem Treasury.within_grant {key coins gems : Value} (hs : d.store.Sound) {k : String}
    (hkey : Input.identifier key "id" = .ok k) (huser : d.store.userByKey? k = some u)
    (hp : p u.id = true) : Within (Store.rowsOf p) (grant m key coins gems) d := by
  refine .after fun k' hk' => .after fun c _ => .after fun g _ => .reporting (.transaction ?_)
  obtain rfl := Except.ok.inj (hkey.symm.trans hk')
  refine .readingFor ?_ fun d₁ hd₁ => ?_
  · rw [Store.userByKey?_rowsOf hs huser hp, huser]
  · rw [huser]
    refine .after fun coins _ => .after fun gems _ => (within_run ?_).bind
      fun _ _ _ => within_flush.bind fun _ _ _ => within_pure
    rw [hd₁]
    exact Store.writeUser_rowsOf hp hs.userNames hs.userEmails (Store.mem_of_userByKey? huser) rfl

theorem Scoreboard.within_add {username : Value} {deltas : Deltas} (hs : d.store.Sound)
    (hname : readName username = .ok u.name) (hu : u ∈ d.store.users) (hp : p u.id = true) :
    Within (Store.rowsOf p) (add m username deltas) d := by
  refine .after fun name hname' => .after fun k _ => .after fun g _ => .after fun t _ =>
    .after fun w _ => .reporting (.transaction ?_)
  obtain rfl := Except.ok.inj (hname.symm.trans hname')
  refine .readingFor ?_ fun d₁ hd₁ => .after fun row hrow => ?_
  · rw [Store.singleRow_rowsOf hs hu hp]
  · refine .after fun kills _ => .after fun games _ => .after fun top5 _ => .after fun wins _ =>
      (within_run ?_).bind fun _ _ _ => within_flush.bind fun _ _ _ => within_pure
    rw [hd₁]
    exact Store.writeStats_rowsOf (hs.stats_stay (mem_of_singleRow hrow) rfl rfl)

/-- **A call that is aimed at a user comes to the same end whatever the rows of other
users are**, and does the same to the rows of the user. -/
theorem Service.within_aimed (service : Service) (m : Moment) {call : Call} (hs : d.store.Sound)
    (haims : call.AimsAt d.store u) (hu : u ∈ d.store.users) (hp : p u.id = true) :
    Within (Store.rowsOf p) (service.perform m call) d := by
  have hown : ∀ {v : Value}, Input.identifier v "user_id" = .ok u.id →
      ∀ k, Input.identifier v "user_id" = .ok k → p k = true := by
    intro v hid k hk
    rwa [← Except.ok.inj (hid.symm.trans hk)]
  cases haims with
  | buy hid =>
    exact (Market.within_buy (hown hid) hs.userNames hs.userEmails).bind fun _ _ _ => within_pure
  | throwAway hid =>
    exact (Market.within_throwAway (hown hid) hs.userNames hs.userEmails).bind
      fun _ _ _ => within_pure
  | equip hid => exact (Wardrobe.within_equip (hown hid)).bind fun _ _ _ => within_pure
  | grant hkey huser => exact (Treasury.within_grant hs hkey huser hp).bind fun _ _ _ => within_pure
  | addStats hname => exact (Scoreboard.within_add hs hname hu hp).bind fun _ _ _ => within_pure

end Within

/-! ### What is changed -/

/-- What is left of a store after work on the rows of a user: the tables still fit
together, the rows of nobody else are changed, and the user is who the user was. -/
structure Store.WorkedOn (u : User) (s s' : Store) : Prop where
  sound : s'.Sound
  others : ∀ p : String → Bool, p u.id = false → s'.rowsOf p = s.rowsOf p
  keeps : ∃ v ∈ s'.users, v.identity = u.identity

namespace Store.WorkedOn

variable {s s' : Store} {u v : User}

/-- The other users are there as they were. -/
theorem mem_of_ne (h : s.WorkedOn u s') (hs : s.Sound) (hu : u ∈ s.users) (hv : v ∈ s.users)
    (hne : u ≠ v) : v ∈ s'.users := by
  have hid : u.id ≠ v.id := fun hid => hne (Rows.eq_of_key hs.userIds hu hv hid)
  have hrows := congrArg Store.users (h.others (· == v.id) (beq_false_of_ne hid))
  have hshown : v ∈ (s.rowsOf (· == v.id)).users := List.mem_filter.2 ⟨hv, beq_self_eq_true v.id⟩
  exact (List.mem_filter.1 (hrows ▸ hshown)).1

/-- Everybody who is there was there, and is who they were. -/
theorem exists_identity (h : s.WorkedOn u s') (hu : u ∈ s.users) (hv : v ∈ s'.users) :
    ∃ w ∈ s.users, w.identity = v.identity := by
  by_cases hid : u.id = v.id
  · -- The row of the user is the one that has the id.
    obtain ⟨w, hw, hidentity⟩ := h.keeps
    have hsame : w.id = v.id := (congrArg Identity.id hidentity).trans hid
    obtain rfl := Rows.eq_of_key h.sound.userIds hw hv hsame
    exact ⟨u, hu, hidentity.symm⟩
  · have hrows := congrArg Store.users (h.others (· == v.id) (beq_false_of_ne hid))
    have hshown : v ∈ (s'.rowsOf (· == v.id)).users :=
      List.mem_filter.2 ⟨hv, beq_self_eq_true v.id⟩
    exact ⟨v, (List.mem_filter.1 (hrows ▸ hshown)).1, rfl⟩

/-- A key that means another user still does: nobody has got a name or an address. -/
theorem userByKey? (h : s.WorkedOn u s') (hs : s.Sound) (hu : u ∈ s.users) (hne : u ≠ v)
    {k : String} (hk : s.userByKey? k = some v) : s'.userByKey? k = some v := by
  obtain ⟨hv, hkey, hfirst⟩ := hs.userByKey?_iff.1 hk
  refine h.sound.userByKey?_iff.2 ⟨h.mem_of_ne hs hu hv hne, hkey, fun w hw => ?_⟩
  obtain ⟨w', hw', hidentity⟩ := h.exists_identity hu hw
  have hcolumn : w'.column k = w.column k := by
    unfold User.column
    rw [show w'.id = w.id from congrArg Identity.id hidentity,
      show w'.name = w.name from congrArg Identity.name hidentity,
      show w'.email = w.email from congrArg Identity.email hidentity]
  exact hcolumn ▸ hfirst w' hw'

/-- What is aimed at another user still is. -/
theorem aimsAt (h : s.WorkedOn u s') (hs : s.Sound) (hu : u ∈ s.users) (hne : u ≠ v)
    {call : Call} (haims : call.AimsAt s v) : call.AimsAt s' v := by
  cases haims with
  | buy hid => exact .buy hid
  | throwAway hid => exact .throwAway hid
  | equip hid => exact .equip hid
  | grant hkey huser => exact .grant hkey (h.userByKey? hs hu hne huser)
  | addStats hname => exact .addStats hname

end Store.WorkedOn

/-- A deed that is aimed at a user changes no row of anybody else. -/
theorem Deed.rowsOf_aimed {m : Moment} {s s' : Store} {call : Call} {answer : Answer} {u : User}
    {p : String → Bool} (h : Deed m s call answer s') (hs : s.Sound) (hu : u ∈ s.users)
    (haims : call.AimsAt s u) (hp : p u.id = false) : s'.rowsOf p = s.rowsOf p := by
  have hown : ∀ {v : Value}, Input.identifier v "user_id" = .ok u.id →
      ∀ field k, Input.identifier v field = .ok k → p k = false := by
    intro v hid field k hk
    rwa [← Input.text_unique hid hk]
  cases haims with
  | buy hid => exact h.rowsOf_eq rfl (hown hid)
  | equip hid => exact h.rowsOf_eq rfl (hown hid)
  | throwAway hid =>
    cases h with
    | look hlooks => cases hlooks
    | throwAway hid' _ huser _ _ hwrite =>
      obtain rfl := Except.ok.inj (hid.symm.trans hid')
      rw [Store.rowsOf_deletePossession hp]
      refine Store.rowsOf_writeUser ?_ hwrite
      exact (congrArg p (Store.id_of_user? huser)).trans hp
  | grant hkey huser =>
    cases h with
    | look hlooks => cases hlooks
    | grant hkey' _ _ huser' _ _ hwrite =>
      obtain rfl := Except.ok.inj (hkey.symm.trans hkey')
      obtain rfl := Option.some.inj (huser.symm.trans huser')
      refine Store.rowsOf_writeUser ?_ hwrite
      exact hp
  | addStats hname =>
    cases h with
    | look hlooks => cases hlooks
    | addStats hname' _ _ _ _ hrow hid _ _ _ _ hwrite =>
      obtain rfl := Except.ok.inj (hname.symm.trans hname')
      -- The row is the one of the user.
      obtain ⟨row, hrow', huser⟩ := hs.singleRow_name hu
      obtain rfl := Except.ok.inj (hrow.symm.trans hrow')
      have hhidden := (congrArg p (hid.2.trans huser)).trans hp
      exact Store.rowsOf_writeStats hhidden
        (hs.stats_stay (Scoreboard.mem_of_singleRow hrow) hid.1 hid.2) hwrite

/-- **A call that is aimed at a user is work on the rows of the user**, if it gives an
answer and if it stops. -/
theorem Service.workedOn (service : Service) (m : Moment) {d : Desk} {call : Call} {u : User}
    (hs : d.store.Sound) (hu : u ∈ d.store.users) (haims : call.AimsAt d.store u) :
    d.store.WorkedOn u (Session.left (service.perform m call d)).store := by
  cases h : service.perform m call d with
  | ok answer d' =>
    have hdeed := Service.deed_of_perform h
    refine ⟨hs.deed hdeed, fun p hp => hdeed.rowsOf_aimed hs hu haims hp,
      hdeed.keeps_user hs hu ?_⟩
    rintro id rfl
    cases haims
  | error stop d' =>
    have hstore : d'.store = d.store := (service.atomic_perform m call d stop d' h).store
    show d.store.WorkedOn u d'.store
    rw [hstore]
    exact ⟨hs, fun _ _ => rfl, u, hu, rfl⟩

/-! ### Either order -/

open Session

/-- Two stores with the same rows in each of the five tables. -/
structure Store.SameRows (s s' : Store) : Prop where
  users : s.users.Perm s'.users
  items : s.items.Perm s'.items
  possessions : s.possessions.Perm s'.possessions
  stats : s.stats.Perm s'.stats
  news : s.news.Perm s'.news

/-- Two stores have the same rows if those that pass a test are the same and those that
do not are. -/
theorem Store.SameRows.of_rowsOf {s s' : Store} (p : String → Bool)
    (hpass : s.rowsOf p = s'.rowsOf p) (hrest : s.rowsOf (!p ·) = s'.rowsOf (!p ·)) :
    s.SameRows s' := by
  have hperm : ∀ {α : Type} {l l' : List α} (q : α → Bool), l.filter q = l'.filter q →
      l.filter (!q ·) = l'.filter (!q ·) → l.Perm l' := by
    intro α l l' q hq hnot
    have hparts := List.filter_append_perm q l
    rw [hq, hnot] at hparts
    exact hparts.symm.trans (List.filter_append_perm q l')
  exact
    { users := hperm _ (congrArg Store.users hpass) (congrArg Store.users hrest)
      items := .of_eq (Store.mk.inj hpass).2.1
      possessions := hperm _ (congrArg Store.possessions hpass) (congrArg Store.possessions hrest)
      stats := hperm _ (congrArg Store.stats hpass) (congrArg Store.stats hrest)
      news := .of_eq (Store.mk.inj hpass).2.2.2.2 }

/-- A call that is aimed at a user, after one that is aimed at another user, comes to the
end to which it comes without that.  Of the rows of its user it leaves what it leaves
without that, and of all other rows what has been left before. -/
theorem Service.after_aimed (service : Service) (m n : Moment) {d : Desk} {a b : Call}
    {u v : User} (hd : d.trouble = []) (hs : d.store.Sound) (hu : u ∈ d.store.users)
    (hv : v ∈ d.store.users) (hne : u ≠ v) (ha : a.AimsAt d.store u) (hb : b.AimsAt d.store v) :
    outcome (service.perform m a (left (service.perform n b d))) =
        outcome (service.perform m a d) ∧
      (∀ p : String → Bool, p u.id = true → p v.id = false →
        (left (service.perform m a (left (service.perform n b d)))).store.rowsOf p =
          (left (service.perform m a d)).store.rowsOf p) ∧
      ∀ p : String → Bool, p u.id = false →
        (left (service.perform m a (left (service.perform n b d)))).store.rowsOf p =
          (left (service.perform n b d)).store.rowsOf p := by
  have hworked := service.workedOn n hs hv hb
  obtain ⟨s, hleft⟩ := service.steady_perform n hb d hd
  rw [hleft] at hworked ⊢
  have hu' := hworked.mem_of_ne hs hv hu hne.symm
  have ha' := hworked.aimsAt hs hv hne.symm ha
  -- A view of the user alone shows the same of both desks.
  have hseen : ∀ p : String → Bool, p u.id = true → p v.id = false →
      seen (Store.rowsOf p) (service.perform m a { d with store := s }) =
        seen (Store.rowsOf p) (service.perform m a d) := by
    intro p hpu hpv
    have hbefore : Desk.seen { d with store := s } (Store.rowsOf p) = d.seen (Store.rowsOf p) :=
      congrArg (fun s => { d with store := s }) (hworked.others p hpv)
    have hafter : Within _ _ { d with store := s } :=
      service.within_aimed m hworked.sound ha' hu' hpu
    have halone : Within _ _ d := service.within_aimed m hs ha hu hpu
    unfold Within at hafter halone
    rw [← hafter, ← halone, hbefore]
  have hid : v.id ≠ u.id := fun hid => hne (Rows.eq_of_key hs.userIds hu hv hid.symm)
  refine ⟨?_, fun p hpu hpv => ?_, ?_⟩
  · exact (eq_of_seen (hseen (· == u.id) (beq_self_eq_true _) (beq_false_of_ne hid))).1
  · exact congrArg Desk.store (eq_of_seen (hseen p hpu hpv)).2
  · exact (service.workedOn m hworked.sound hu' ha').others

/-- A run goes on from the desk that its first call leaves. -/
theorem Service.run_cons (service : Service) (d : Desk) (m : Moment) (call : Call)
    (steps : List Step) :
    service.run d (⟨m, call⟩ :: steps) = service.run (left (service.perform m call d)) steps := by
  have htake : (service.take d ⟨m, call⟩).2 = left (service.perform m call d) := by
    unfold Service.take
    cases service.perform m call d <;> rfl
  exact congrArg (service.run · steps) htake

/-- **Calls that are aimed at different users commute.**  A run from empty tables has
reached a desk that is in for no trouble with its next statements.  Each of the two calls
is a purchase, a return, a change of clothes, a grant or an update of statistics, with any
other arguments, and each is made at a moment of its own, which may be the same.  Then
each comes to the same end, an answer or a stop, whether the other has been made before it
or not, and in the end each table holds the same rows in either order. -/
theorem aimed_calls_commute (service : Service) (desk : Desk) (steps : List Step) (m n : Moment)
    {d : Desk} (hd : service.run { desk with store := {} } steps = d) (htrouble : d.trouble = [])
    {u v : User} (hu : u ∈ d.store.users) (hv : v ∈ d.store.users) (hne : u ≠ v) {a b : Call}
    (ha : a.AimsAt d.store u) (hb : b.AimsAt d.store v) :
    outcome (service.perform m a (service.run d [⟨n, b⟩])) = outcome (service.perform m a d) ∧
      outcome (service.perform n b (service.run d [⟨m, a⟩])) = outcome (service.perform n b d) ∧
      (service.run d [⟨m, a⟩, ⟨n, b⟩]).store.SameRows (service.run d [⟨n, b⟩, ⟨m, a⟩]).store := by
  have hs : d.store.Sound := hd ▸ (service.chronicle { desk with store := {} } steps).sound .empty
  obtain ⟨haEnd, haOwn, haOthers⟩ := service.after_aimed m n htrouble hs hu hv hne ha hb
  obtain ⟨hbEnd, hbOwn, hbOthers⟩ := service.after_aimed n m htrouble hs hv hu hne.symm hb ha
  refine ⟨?_, ?_, ?_⟩
  · rw [service.run_cons]
    exact haEnd
  · rw [service.run_cons]
    exact hbEnd
  · have hid : v.id ≠ u.id := fun hid => hne (Rows.eq_of_key hs.userIds hu hv hid.symm)
    have hu' : (u.id == u.id) = true := beq_self_eq_true u.id
    have hv' : (v.id == u.id) = false := beq_false_of_ne hid
    rw [service.run_cons, service.run_cons, service.run_cons, service.run_cons]
    -- In either order the rows of the first user are those that the call aimed at the user
    -- leaves, and all other rows are those that the other call leaves.
    refine .of_rowsOf (· == u.id) ?_ ?_
    · exact (hbOthers (· == u.id) hv').trans (haOwn (· == u.id) hu' hv').symm
    · exact (hbOwn (! · == u.id) (congrArg not hv') (congrArg not hu')).trans
        (haOthers (! · == u.id) (congrArg not hu')).symm

namespace Postbox

open Namesake

/-- A victory for the first user. -/
def victory : Call := .addStats (.text "ada") { wins := .int 1 }

/-- A gift for the user whose name is the address of the first one. -/
def gift : Call := .grant (.text "a@b.c") (.int 5) (.int 0)

end Postbox

open Namesake Postbox in
/-- A gift under the address of the first user is aimed at the second one, so it commutes
with a victory of the first. -/
theorem aimed_calls_commute_postbox :
    service.run { desk with store := {} } arrivals = { store := tables } ∧
      victory.AimsAt tables ada ∧ gift.AimsAt tables bob ∧
      outcome (service.perform noon gift (service.run { store := tables } [⟨noon, victory⟩])) =
        .ok (.balance { userId := "u2", coins := 5, gems := 0 }) ∧
      (service.run { store := tables } [⟨noon, victory⟩, ⟨noon, gift⟩]).store.SameRows
        (service.run { store := tables } [⟨noon, gift⟩, ⟨noon, victory⟩]).store := by
  have hvictory : victory.AimsAt tables ada := .addStats rfl
  have hgift : gift.AimsAt tables bob := .grant rfl rfl
  obtain ⟨-, hend, hrows⟩ := aimed_calls_commute service desk arrivals noon noon run_arrivals rfl
    (u := ada) (v := bob) (.head _) (.tail _ (.head _)) (by decide) hvictory hgift
  exact ⟨run_arrivals, hvictory, hgift, hend.trans rfl, hrows⟩

end Guildhall
