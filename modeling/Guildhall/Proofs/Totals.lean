/-
Guildhall/Proofs/Totals.lean

What is added, in full.  A grant adds to the two balances of a user, an update of
statistics to the four counters of a row.  Both look at all of the sums before they write
any of them: if a column can hold every sum, all are written, and else the first one that
it cannot hold is reported and nothing is (`Service.AllOrNothing`).

What comes of many such calls is decided by the total.  No amount is negative, so where
the total fits, the sum of some of the amounts does, in whatever order they come:

    x + (is.map amount).sum ≤ most  →  every step is answered, and in the end the desk
                                        holds x + (is.map amount).sum

(`Service.run_adds`), and the total is the same in every order.

Main statement: `totals_exact`.
-/
import Guildhall.Proofs.Keys
import Guildhall.Proofs.Purchase
import Guildhall.Proofs.Reporting
import Guildhall.Proofs.Statistics
import Mathlib.Algebra.Order.BigOperators.Group.List
import Mathlib.Algebra.Order.Group.Int
import Mathlib.Algebra.Order.Monoid.Prod

namespace Guildhall

open Session

variable {m : Moment} {d : Desk} {s : Store} {user : User} {row : Stats}

/-! ### Sums -/

namespace Input

variable {v : Value} {field given : String} {current delta : Int}

theorem total_of_le (h : current + delta ≤ greatestStored) :
    total current delta field = .ok (current + delta) := total_eq_ok.2 ⟨h, rfl⟩

theorem total_of_lt (hdelta : amount v given = .ok delta)
    (h : greatestStored < current + delta) :
    total current delta field = .error (.failure (.invalid field .totalTooLarge)) := by
  unfold total reject
  rw [if_pos h, if_pos (isWritable_amount hdelta)]
  rfl

end Input

/-- Work that begins with a sum stops at the first sum that is too large. -/
theorem Session.stopped_total {β : Type} {f : Int → Session β} {v : Value}
    {field given first : String} {current delta large : Int} {sums : List (String × Int)}
    (hdelta : Input.amount v given = .ok delta)
    (hfirst : ((field, current + delta) :: sums).find? (greatestStored < ·.2) =
      some (first, large))
    (hrest : sums.find? (greatestStored < ·.2) = some (first, large) →
      f (current + delta) d = .error (.failure (.invalid first .totalTooLarge)) d) :
    ((liftM (Input.total current delta field) : Session Int) >>= f) d =
      .error (.failure (.invalid first .totalTooLarge)) d := by
  by_cases hlarge : greatestStored < current + delta
  · rw [List.find?_cons_of_pos (by simpa using hlarge)] at hfirst
    obtain ⟨rfl, -⟩ := Prod.mk.inj (Option.some.inj hfirst)
    rw [Input.total_of_lt hdelta hlarge]
    rfl
  · rw [List.find?_cons_of_neg (by simpa using hlarge)] at hfirst
    rw [Input.total_of_le (Int.not_lt.1 hlarge)]
    exact hrest hfirst

/-- A step that makes some sums, each for a field: all of them or none. -/
structure Service.AllOrNothing (service : Service) (step : Step) (d : Desk)
    (sums : List (String × Int)) (answer : Answer) (after : Store → Prop) : Prop where
  succeeds_iff : (∃ answer d', service.perform step.moment step.call d = .ok answer d') ↔
    ∀ sum ∈ sums, sum.2 ≤ greatestStored
  all : (∀ sum ∈ sums, sum.2 ≤ greatestStored) →
    ∃ s, after s ∧ service.perform step.moment step.call d = .ok answer { d with store := s }
  /-- The first sum that a column cannot hold is reported, and the desk is as it was. -/
  nothing : ∀ field sum, sums.find? (greatestStored < ·.2) = some (field, sum) →
    service.perform step.moment step.call d =
      .error (.failure (.invalid field .totalTooLarge)) d

/-- Either all sums fit or there is a first one that does not. -/
theorem Service.AllOrNothing.of_cases {service : Service} {step : Step}
    {sums : List (String × Int)} {answer : Answer} {after : Store → Prop}
    (hall : (∀ sum ∈ sums, sum.2 ≤ greatestStored) →
      ∃ s, after s ∧ service.perform step.moment step.call d = .ok answer { d with store := s })
    (hnothing : ∀ field sum, sums.find? (greatestStored < ·.2) = some (field, sum) →
      service.perform step.moment step.call d =
        .error (.failure (.invalid field .totalTooLarge)) d) :
    service.AllOrNothing step d sums answer after where
  succeeds_iff := by
    constructor
    · rintro ⟨answer', d', h⟩
      cases hfirst : sums.find? (greatestStored < ·.2) with
      | none => simpa using hfirst
      | some sum => cases (hnothing sum.1 sum.2 hfirst).symm.trans h
    · intro hfits
      obtain ⟨s, -, h⟩ := hall hfits
      exact ⟨answer, _, h⟩
  all := hall
  nothing := hnothing

/-! ### Many steps -/

/-- The sum of pairs is the pair of the sums. -/
theorem sum_map_pair {ι α β : Type} [AddMonoid α] [AddMonoid β] (is : List ι) (f : ι → α)
    (g : ι → β) : (is.map fun i => (f i, g i)).sum = ((is.map f).sum, (is.map g).sum) := by
  induction is with
  | nil => rfl
  | cons i is ih =>
    rw [List.map_cons, List.sum_cons, ih, List.map_cons, List.sum_cons, List.map_cons,
      List.sum_cons]
    rfl

/-- **Steps that add amounts are all answered if the total fits**, and then the total has
been added.  A step is answered where what it makes fits, and no amount is negative. -/
theorem Service.run_adds {ι α : Type} [AddCommMonoid α] [PartialOrder α] [IsOrderedAddMonoid α]
    (service : Service) (step : ι → Step) (amount : ι → α) (most : α) (Holds : Desk → α → Prop)
    {is : List ι} (hamount : ∀ i ∈ is, 0 ≤ amount i)
    (hstep : ∀ i ∈ is, ∀ d x, Holds d x → x + amount i ≤ most →
      ∃ answer d', service.perform (step i).moment (step i).call d = .ok answer d' ∧
        Holds d' (x + amount i))
    {x : α} (hd : Holds d x) (hfits : x + (is.map amount).sum ≤ most) :
    (∀ e ∈ service.history d (is.map step), e.answer ≠ none) ∧
      Holds (service.run d (is.map step)) (x + (is.map amount).sum) := by
  induction is generalizing d x with
  | nil =>
    have hsum : x + (([] : List ι).map amount).sum = x := by
      rw [List.map_nil, List.sum_nil, add_zero]
    rw [hsum]
    exact ⟨List.forall_mem_nil _, hd⟩
  | cons i is ih =>
    have hsum : x + ((i :: is).map amount).sum = x + amount i + (is.map amount).sum := by
      rw [List.map_cons, List.sum_cons, add_assoc]
    rw [hsum] at hfits ⊢
    obtain ⟨hi, his⟩ := List.forall_mem_cons.1 hamount
    obtain ⟨hfirst, hrest⟩ := List.forall_mem_cons.1 hstep
    -- The rest only adds to the sum that is made first.
    have hnonneg : 0 ≤ (is.map amount).sum :=
      List.sum_nonneg (List.forall_mem_map.2 his)
    obtain ⟨answer, d', h, hd'⟩ :=
      hfirst d x hd ((le_add_of_nonneg_right hnonneg).trans hfits)
    have htake : service.take d (step i) =
        (⟨(step i).moment, (step i).call, d.store, some answer, d'.store⟩, d') := by
      unfold Service.take
      rw [h]
    obtain ⟨hanswers, hend⟩ := ih his hrest hd' hfits
    show (∀ e ∈ (service.take d (step i)).1 :: service.history (service.take d (step i)).2 _, _) ∧
      Holds (service.run (service.take d (step i)).2 _) _
    rw [htake]
    exact ⟨List.forall_mem_cons.2 ⟨nofun, hanswers⟩, hend⟩

/-! ### Grants -/

namespace Treasury

/-- A grant, with the amounts that its arguments mean. -/
structure Gift where
  moment : Moment
  key : Value
  addCoins : Value
  addGems : Value
  coins : Int
  gems : Int

def Gift.step (g : Gift) : Step := ⟨g.moment, .grant g.key g.addCoins g.addGems⟩

/-- Coins and gems. -/
def Gift.amounts (g : Gift) : Int × Int := (g.coins, g.gems)

/-- A grant that is in order and is for a user: the key means the user, the amounts pass
their checks, and nothing breaks down at the moment. -/
structure Gift.IsFor (g : Gift) (s : Store) (u : User) : Prop where
  calm : g.moment.fault = none
  key : ∃ k, Input.Names g.key "id" k ∧ s.userByKey? k = some u
  coins : Input.amount g.addCoins "add_coins" = .ok g.coins
  gems : Input.amount g.addGems "add_gems" = .ok g.gems

end Treasury

/-- A user with more on the balances, and some time of the last change. -/
def User.credited (u : User) (coins gems : Int) (stamp : Instant) : User :=
  { u with coins := u.coins + coins, gems := u.gems + gems, updatedAt := stamp }

/-- A store in which a user has more on the balances. -/
def Store.credited (s : Store) (u : User) (coins gems : Int) (stamp : Instant) : Store :=
  { s with users := Rows.put (·.id) (u.credited coins gems stamp) s.users }

theorem User.credited_credited (u : User) (c g c' g' : Int) (t t' : Instant) :
    (u.credited c g t).credited c' g' t' = u.credited (c + c') (g + g') t' := by
  unfold credited
  dsimp only
  rw [Int.add_assoc, Int.add_assoc]

theorem Store.credited_credited (s : Store) (u : User) (c g c' g' : Int) (t t' : Instant) :
    (s.credited u c g t).credited (u.credited c g t) c' g' t' =
      s.credited u (c + c') (g + g') t' := by
  unfold credited
  dsimp only
  rw [User.credited_credited]
  congr 1
  exact Rows.put_put rfl

/-- Adding nothing changes nothing. -/
theorem Store.credited_zero (hs : s.Sound) (huser : user ∈ s.users) :
    s.credited user 0 0 user.updatedAt = s := by
  unfold credited User.credited
  rw [Int.add_zero, Int.add_zero, Rows.put_of_mem hs.userIds huser]

theorem Store.mem_credited {c g : Int} {stamp : Instant} (huser : user ∈ s.users) :
    user.credited c g stamp ∈ (s.credited user c g stamp).users := Rows.mem_put_of_mem huser rfl

/-- A key means the same user after a grant. -/
theorem Store.userByKey?_credited {k : String} {c g : Int} {stamp : Instant} (hs : s.Sound)
    (hs' : (s.credited user c g stamp).Sound) (hk : s.userByKey? k = some user) :
    (s.credited user c g stamp).userByKey? k = some (user.credited c g stamp) := by
  obtain ⟨huser, hkey, hfirst⟩ := hs.userByKey?_iff.1 hk
  refine hs'.userByKey?_iff.2 ⟨mem_credited huser, hkey, fun v hv => ?_⟩
  rcases Rows.mem_put hv with rfl | ⟨hv, -⟩
  · exact Nat.le_refl _
  · exact hfirst v hv

namespace Treasury

variable {key addCoins addGems : Value} {k : String} {c g : Int}

/-- **A grant that fits.** -/
theorem grant_ready (hd : d.Ready) (hm : m.fault = none) (hs : d.store.Sound)
    (hdomain : d.store.InDomain) (hkey : Input.Names key "id" k)
    (huser : d.store.userByKey? k = some user)
    (haddCoins : Input.amount addCoins "add_coins" = .ok c)
    (haddGems : Input.amount addGems "add_gems" = .ok g)
    (hcoins : user.coins + c ≤ greatestStored) (hgems : user.gems + g ≤ greatestStored) :
    ∃ stamp, (stamp = user.updatedAt ∨ stamp = m.now) ∧ grant m key addCoins addGems d =
      .ok { userId := user.id, coins := user.coins + c, gems := user.gems + g }
        { d with store := d.store.credited user c g stamp } := by
  have hmem := Store.mem_of_userByKey? huser
  have hbefore := hdomain.users user hmem
  have hwrite := Store.writeUser_withBalances m.now hs hmem
    ⟨Int.add_nonneg hbefore.coins.1 (Input.amount_bounds haddCoins).1, hcoins⟩
    ⟨Int.add_nonneg hbefore.gems.1 (Input.amount_bounds haddGems).1, hgems⟩
  refine ⟨_, user.withBalances_updatedAt m.now (user.coins + c) (user.gems + g), ?_⟩
  unfold grant
  rw [hkey.check, haddCoins, haddGems]
  refine reporting_ready (transaction_ready hd ?_ (hd.holding _ _))
  rw [bind_ready (storeFor_ready hd hkey.bytes), huser]
  dsimp only
  rw [Input.total_of_le hcoins, Input.total_of_le hgems]
  show (run _ >>= _) d = _
  rw [bind_ready (run_ready hd hwrite)]
  exact bind_ready (flush_ready (hd.holding _ _) hm)

/-- A grant that does not fit. -/
theorem grant_refused (hd : d.Ready) (hkey : Input.Names key "id" k)
    (huser : d.store.userByKey? k = some user)
    (haddCoins : Input.amount addCoins "add_coins" = .ok c)
    (haddGems : Input.amount addGems "add_gems" = .ok g) {field : String} {large : Int}
    (hfirst : [("add_coins", user.coins + c), ("add_gems", user.gems + g)].find?
      (greatestStored < ·.2) = some (field, large)) :
    grant m key addCoins addGems d = .error (.failure (.invalid field .totalTooLarge)) d := by
  unfold grant
  rw [hkey.check, haddCoins, haddGems]
  refine refused_ready hd ?_
  rw [bind_ready (storeFor_ready hd hkey.bytes), huser]
  exact stopped_total haddCoins hfirst fun hfirst => stopped_total haddGems hfirst nofun

variable {service : Service} {gift : Gift} {gifts : List Gift}

/-- **A grant adds both amounts or none.** -/
theorem Gift.IsFor.allOrNothing (service : Service) (h : gift.IsFor d.store user) (hd : d.Ready)
    (hs : d.store.Sound) (hdomain : d.store.InDomain) :
    service.AllOrNothing gift.step d
      [("add_coins", user.coins + gift.coins), ("add_gems", user.gems + gift.gems)]
      (.balance
        { userId := user.id, coins := user.coins + gift.coins, gems := user.gems + gift.gems })
      fun s => ∃ stamp, (stamp = user.updatedAt ∨ stamp = gift.moment.now) ∧
        s = d.store.credited user gift.coins gift.gems stamp := by
  obtain ⟨k, hkey, huser⟩ := h.key
  refine .of_cases (fun hfits => ?_) fun field large hfirst => ?_
  · obtain ⟨hcoins, hgems, -⟩ := by simpa only [List.forall_mem_cons] using hfits
    obtain ⟨stamp, hstamp, hdone⟩ :=
      grant_ready hd h.calm hs hdomain hkey huser h.coins h.gems hcoins hgems
    exact ⟨_, ⟨stamp, hstamp, rfl⟩, bind_ready hdone⟩
  · exact bind_stopped (grant_refused hd hkey huser h.coins h.gems hfirst)

/-- What a grant is for stays the user after another one. -/
theorem Gift.IsFor.credited {c g : Int} {stamp : Instant} (h : gift.IsFor s user) (hs : s.Sound)
    (hs' : (s.credited user c g stamp).Sound) :
    gift.IsFor (s.credited user c g stamp) (user.credited c g stamp) where
  calm := h.calm
  key := by
    obtain ⟨k, hkey, huser⟩ := h.key
    exact ⟨k, hkey, Store.userByKey?_credited hs hs' huser⟩
  coins := h.coins
  gems := h.gems

/-- A desk at which a user has been credited with some amounts. -/
structure Credited (d : Desk) (user : User) (d' : Desk) (amounts : Int × Int) : Prop where
  sound : d'.store.Sound
  inDomain : d'.store.InDomain
  desk : ∃ stamp, d' = { d with store := d.store.credited user amounts.1 amounts.2 stamp }

/-- How much the balances of a user have room for. -/
def room (u : User) : Int × Int := (greatestStored - u.coins, greatestStored - u.gems)

/-- One more grant. -/
theorem Credited.step {d' : Desk} {x : Int × Int} (h : Credited d user d' x) (hd : d.Ready)
    (hs : d.store.Sound) (hgift : gift.IsFor d.store user) (hfits : x + gift.amounts ≤ room user) :
    ∃ answer d'', service.perform gift.step.moment gift.step.call d' = .ok answer d'' ∧
      Credited d user d'' (x + gift.amounts) := by
  obtain ⟨hs', hdomain, stamp, rfl⟩ := h
  have hcoins : user.coins + (x.1 + gift.coins) ≤ greatestStored :=
    Int.add_le_of_le_sub_left hfits.1
  have hgems : user.gems + (x.2 + gift.gems) ≤ greatestStored :=
    Int.add_le_of_le_sub_left hfits.2
  have hall := (hgift.credited hs hs').allOrNothing service (hd.holding _ _) hs' hdomain
  obtain ⟨_, ⟨stamp', -, rfl⟩, hdone⟩ := hall.all (by
    simp only [List.forall_mem_cons]
    refine ⟨?_, ?_, List.forall_mem_nil _⟩
    · exact (Int.add_assoc _ _ _).trans_le hcoins
    · exact (Int.add_assoc _ _ _).trans_le hgems)
  have hdeed := Service.deed_of_perform hdone
  refine ⟨_, _, hdone, hs'.deed hdeed, hdomain.deed hdeed hs', stamp', ?_⟩
  rw [Store.credited_credited]
  rfl

/-- **Grants whose total fits are all made**, one after the other. -/
theorem run_gifts (service : Service) (hd : d.Ready) (hs : d.store.Sound)
    (hdomain : d.store.InDomain) (huser : user ∈ d.store.users)
    (hgifts : ∀ gift ∈ gifts, gift.IsFor d.store user)
    (hcoins : user.coins + (gifts.map (·.coins)).sum ≤ greatestStored)
    (hgems : user.gems + (gifts.map (·.gems)).sum ≤ greatestStored) :
    (∀ e ∈ service.history d (gifts.map (·.step)), e.answer ≠ none) ∧
      ∃ stamp, service.run d (gifts.map (·.step)) = { d with
        store := d.store.credited user (gifts.map (·.coins)).sum (gifts.map (·.gems)).sum
          stamp } := by
  have hstart : Credited d user d 0 := by
    refine ⟨hs, hdomain, user.updatedAt, ?_⟩
    exact congrArg (fun s => { d with store := s }) (Store.credited_zero hs huser).symm
  have hnonneg : ∀ gift ∈ gifts, 0 ≤ gift.amounts := fun gift hgift =>
    ⟨(Input.amount_bounds (hgifts gift hgift).coins).1,
      (Input.amount_bounds (hgifts gift hgift).gems).1⟩
  have hsum : 0 + (gifts.map (·.amounts)).sum =
      ((gifts.map (·.coins)).sum, (gifts.map (·.gems)).sum) := by
    rw [zero_add]
    exact sum_map_pair gifts (·.coins) (·.gems)
  have hfits : 0 + (gifts.map (·.amounts)).sum ≤ room user := by
    rw [hsum]
    exact ⟨Int.le_sub_left_of_add_le hcoins, Int.le_sub_left_of_add_le hgems⟩
  obtain ⟨hanswers, hend⟩ := service.run_adds (·.step) (·.amounts) (room user) (Credited d user)
    hnonneg (fun gift hgift d' x hx hle => hx.step hd hs (hgifts gift hgift) hle) hstart hfits
  rw [hsum] at hend
  exact ⟨hanswers, hend.desk⟩

end Treasury

/-! ### Updates of statistics -/

namespace Scoreboard

/-- An update of statistics, with the amounts that its arguments mean. -/
structure Tally where
  moment : Moment
  username : Value
  deltas : Deltas
  kills : Int
  games : Int
  top5 : Int
  wins : Int

def Tally.step (t : Tally) : Step := ⟨t.moment, .addStats t.username t.deltas⟩

/-- Kills, games, finishes among the first five, and wins. -/
def Tally.amounts (t : Tally) : Int × Int × Int × Int := (t.kills, t.games, t.top5, t.wins)

/-- An update that is in order and is for a user: it gives the name of the user, the
amounts pass their checks, and nothing breaks down at the moment. -/
structure Tally.IsFor (t : Tally) (u : User) : Prop where
  calm : t.moment.fault = none
  name : readName t.username = .ok u.name
  bytes : checkBytes t.username = .ok ()
  kills : Input.amount t.deltas.kills "add_kills" = .ok t.kills
  games : Input.amount t.deltas.games "add_games" = .ok t.games
  top5 : Input.amount t.deltas.top5 "add_top5" = .ok t.top5
  wins : Input.amount t.deltas.wins "add_wins" = .ok t.wins

end Scoreboard

/-- A row of statistics with more on the counters. -/
def Stats.raised (row : Stats) (kills games top5 wins : Int) : Stats :=
  { row with
    kills := row.kills + kills
    games := row.games + games
    top5 := row.top5 + top5
    wins := row.wins + wins }

/-- A store in which a row of statistics has more on the counters. -/
def Store.raised (s : Store) (row : Stats) (kills games top5 wins : Int) : Store :=
  { s with stats := Rows.put (·.id) (row.raised kills games top5 wins) s.stats }

theorem Stats.raised_raised (row : Stats) (k g t w k' g' t' w' : Int) :
    (row.raised k g t w).raised k' g' t' w' = row.raised (k + k') (g + g') (t + t') (w + w') := by
  unfold raised
  dsimp only
  rw [Int.add_assoc, Int.add_assoc, Int.add_assoc, Int.add_assoc]

theorem Store.raised_raised (s : Store) (row : Stats) (k g t w k' g' t' w' : Int) :
    (s.raised row k g t w).raised (row.raised k g t w) k' g' t' w' =
      s.raised row (k + k') (g + g') (t + t') (w + w') := by
  unfold raised
  dsimp only
  rw [Stats.raised_raised]
  congr 1
  exact Rows.put_put rfl

/-- Adding nothing changes nothing. -/
theorem Store.raised_zero (hs : s.Sound) (hrow : row ∈ s.stats) : s.raised row 0 0 0 0 = s := by
  unfold raised Stats.raised
  rw [Int.add_zero, Int.add_zero, Int.add_zero, Int.add_zero, Rows.put_of_mem hs.statsIds hrow]

namespace Scoreboard

variable {username : Value} {deltas : Deltas} {k g t w : Int}

/-- **An update that fits.** -/
theorem add_ready (hd : d.Ready) (hm : m.fault = none) (hdomain : row.InDomain)
    (hname : readName username = .ok user.name) (hbytes : checkBytes username = .ok ())
    (hrow : singleRow d.store user.name = .ok row)
    (haddKills : Input.amount deltas.kills "add_kills" = .ok k)
    (haddGames : Input.amount deltas.games "add_games" = .ok g)
    (haddTop5 : Input.amount deltas.top5 "add_top5" = .ok t)
    (haddWins : Input.amount deltas.wins "add_wins" = .ok w)
    (hkills : row.kills + k ≤ greatestStored) (hgames : row.games + g ≤ greatestStored)
    (htop5 : row.top5 + t ≤ greatestStored) (hwins : row.wins + w ≤ greatestStored) :
    add m username deltas d = .ok (score user.name (row.raised k g t w))
      { d with store := d.store.raised row k g t w } := by
  have hfits : ∀ {before delta : Int} {v : Value} {field : String}, IsCount before →
      Input.amount v field = .ok delta → before + delta ≤ greatestStored →
      leastStored ≤ before + delta ∧ before + delta ≤ greatestStored :=
    fun hbefore hdelta hle => ⟨Int.le_trans (by decide)
      (Int.add_nonneg hbefore.1 (Input.amount_bounds hdelta).1), hle⟩
  have hwrite : d.store.writeStats (row.raised k g t w) = .ok (d.store.raised row k g t w) := by
    refine Store.writeStats_eq_ok.2 ⟨?_, rfl⟩
    unfold Store.statsNumbers
    simp only [List.forall_mem_cons]
    exact ⟨hfits hdomain.wins haddWins hwins, hfits hdomain.top5 haddTop5 htop5,
      hfits hdomain.kills haddKills hkills, hfits hdomain.games haddGames hgames,
      List.forall_mem_nil _⟩
  unfold add
  rw [hname, haddKills, haddGames, haddTop5, haddWins]
  refine reporting_ready (transaction_ready hd ?_ (hd.holding _ _))
  rw [bind_ready (storeFor_ready hd hbytes), passed_ready hrow,
    passed_ready (Input.total_of_le hkills), passed_ready (Input.total_of_le hgames),
    passed_ready (Input.total_of_le htop5), passed_ready (Input.total_of_le hwins)]
  exact (bind_ready (run_ready hd hwrite)).trans (bind_ready (flush_ready (hd.holding _ _) hm))

/-- An update that does not fit. -/
theorem add_refused (hd : d.Ready) (hname : readName username = .ok user.name)
    (hbytes : checkBytes username = .ok ())
    (hrow : singleRow d.store user.name = .ok row)
    (haddKills : Input.amount deltas.kills "add_kills" = .ok k)
    (haddGames : Input.amount deltas.games "add_games" = .ok g)
    (haddTop5 : Input.amount deltas.top5 "add_top5" = .ok t)
    (haddWins : Input.amount deltas.wins "add_wins" = .ok w) {field : String} {large : Int}
    (hfirst : [("add_kills", row.kills + k), ("add_games", row.games + g),
      ("add_top5", row.top5 + t), ("add_wins", row.wins + w)].find? (greatestStored < ·.2) =
        some (field, large)) :
    add m username deltas d = .error (.failure (.invalid field .totalTooLarge)) d := by
  unfold add
  rw [hname, haddKills, haddGames, haddTop5, haddWins]
  refine refused_ready hd ?_
  rw [bind_ready (storeFor_ready hd hbytes), hrow]
  exact stopped_total haddKills hfirst fun hfirst => stopped_total haddGames hfirst fun hfirst =>
    stopped_total haddTop5 hfirst fun hfirst => stopped_total haddWins hfirst nofun

variable {service : Service} {tally : Tally} {tallies : List Tally}

/-- **An update adds all four amounts or none.** -/
theorem Tally.IsFor.allOrNothing (service : Service) (h : tally.IsFor user) (hd : d.Ready)
    (hs : d.store.Sound) (hdomain : d.store.InDomain) (huser : user ∈ d.store.users)
    (hrow : row ∈ d.store.stats) (hid : row.userId = user.id) :
    service.AllOrNothing tally.step d
      [("add_kills", row.kills + tally.kills), ("add_games", row.games + tally.games),
        ("add_top5", row.top5 + tally.top5), ("add_wins", row.wins + tally.wins)]
      (.score (score user.name (row.raised tally.kills tally.games tally.top5 tally.wins)))
      (· = d.store.raised row tally.kills tally.games tally.top5 tally.wins) := by
  have hfound := hs.singleRow_of_mem huser hrow hid
  refine .of_cases (fun hfits => ?_) fun field large hfirst => ?_
  · obtain ⟨hkills, hgames, htop5, hwins, -⟩ := by simpa only [List.forall_mem_cons] using hfits
    exact ⟨_, rfl, bind_ready (add_ready hd h.calm (hdomain.stats row hrow) h.name h.bytes hfound
      h.kills h.games h.top5 h.wins hkills hgames htop5 hwins)⟩
  · exact bind_stopped
      (add_refused hd h.name h.bytes hfound h.kills h.games h.top5 h.wins hfirst)

/-- A desk at which a row of statistics has been raised by some amounts. -/
structure Raised (d : Desk) (row : Stats) (d' : Desk) (amounts : Int × Int × Int × Int) : Prop where
  sound : d'.store.Sound
  inDomain : d'.store.InDomain
  desk : d' = { d with
    store := d.store.raised row amounts.1 amounts.2.1 amounts.2.2.1 amounts.2.2.2 }

/-- How much the counters of a row have room for. -/
def room (row : Stats) : Int × Int × Int × Int :=
  (greatestStored - row.kills, greatestStored - row.games, greatestStored - row.top5,
    greatestStored - row.wins)

/-- One more update. -/
theorem Raised.step {d' : Desk} {x : Int × Int × Int × Int} (h : Raised d row d' x) (hd : d.Ready)
    (huser : user ∈ d.store.users) (hrow : row ∈ d.store.stats) (hid : row.userId = user.id)
    (htally : tally.IsFor user) (hfits : x + tally.amounts ≤ room row) :
    ∃ answer d'', service.perform tally.step.moment tally.step.call d' = .ok answer d'' ∧
      Raised d row d'' (x + tally.amounts) := by
  obtain ⟨hs', hdomain, rfl⟩ := h
  have hkills : row.kills + (x.1 + tally.kills) ≤ greatestStored :=
    Int.add_le_of_le_sub_left hfits.1
  have hgames : row.games + (x.2.1 + tally.games) ≤ greatestStored :=
    Int.add_le_of_le_sub_left hfits.2.1
  have htop5 : row.top5 + (x.2.2.1 + tally.top5) ≤ greatestStored :=
    Int.add_le_of_le_sub_left hfits.2.2.1
  have hwins : row.wins + (x.2.2.2 + tally.wins) ≤ greatestStored :=
    Int.add_le_of_le_sub_left hfits.2.2.2
  have hrow' : row.raised x.1 x.2.1 x.2.2.1 x.2.2.2 ∈
      (d.store.raised row x.1 x.2.1 x.2.2.1 x.2.2.2).stats := Rows.mem_put_of_mem hrow rfl
  have hall := htally.allOrNothing service (hd.holding _ _) hs' hdomain huser hrow' hid
  obtain ⟨_, rfl, hdone⟩ := hall.all (by
    simp only [List.forall_mem_cons]
    refine ⟨?_, ?_, ?_, ?_, List.forall_mem_nil _⟩
    · exact (Int.add_assoc _ _ _).trans_le hkills
    · exact (Int.add_assoc _ _ _).trans_le hgames
    · exact (Int.add_assoc _ _ _).trans_le htop5
    · exact (Int.add_assoc _ _ _).trans_le hwins)
  have hdeed := Service.deed_of_perform hdone
  refine ⟨_, _, hdone, hs'.deed hdeed, hdomain.deed hdeed hs', ?_⟩
  rw [Store.raised_raised]
  rfl

/-- **Updates whose total fits are all made**, one after the other. -/
theorem run_tallies (service : Service) (hd : d.Ready) (hs : d.store.Sound)
    (hdomain : d.store.InDomain) (huser : user ∈ d.store.users) (hrow : row ∈ d.store.stats)
    (hid : row.userId = user.id) (htallies : ∀ tally ∈ tallies, tally.IsFor user)
    (hkills : row.kills + (tallies.map (·.kills)).sum ≤ greatestStored)
    (hgames : row.games + (tallies.map (·.games)).sum ≤ greatestStored)
    (htop5 : row.top5 + (tallies.map (·.top5)).sum ≤ greatestStored)
    (hwins : row.wins + (tallies.map (·.wins)).sum ≤ greatestStored) :
    (∀ e ∈ service.history d (tallies.map (·.step)), e.answer ≠ none) ∧
      service.run d (tallies.map (·.step)) = { d with
        store := d.store.raised row (tallies.map (·.kills)).sum (tallies.map (·.games)).sum
          (tallies.map (·.top5)).sum (tallies.map (·.wins)).sum } := by
  have hstart : Raised d row d 0 := by
    refine ⟨hs, hdomain, ?_⟩
    exact congrArg (fun s => { d with store := s }) (Store.raised_zero hs hrow).symm
  have hnonneg : ∀ tally ∈ tallies, 0 ≤ tally.amounts := fun tally htally =>
    ⟨(Input.amount_bounds (htallies tally htally).kills).1,
      (Input.amount_bounds (htallies tally htally).games).1,
      (Input.amount_bounds (htallies tally htally).top5).1,
      (Input.amount_bounds (htallies tally htally).wins).1⟩
  have hsum : 0 + (tallies.map (·.amounts)).sum =
      ((tallies.map (·.kills)).sum, (tallies.map (·.games)).sum, (tallies.map (·.top5)).sum,
        (tallies.map (·.wins)).sum) := by
    unfold Tally.amounts
    rw [zero_add, sum_map_pair, sum_map_pair, sum_map_pair]
  have hfits : 0 + (tallies.map (·.amounts)).sum ≤ room row := by
    rw [hsum]
    exact ⟨Int.le_sub_left_of_add_le hkills, Int.le_sub_left_of_add_le hgames,
      Int.le_sub_left_of_add_le htop5, Int.le_sub_left_of_add_le hwins⟩
  obtain ⟨hanswers, hend⟩ := service.run_adds (·.step) (·.amounts) (room row) (Raised d row)
    hnonneg (fun tally htally d' x hx hle => hx.step hd huser hrow hid (htallies tally htally) hle)
    hstart hfits
  rw [hsum] at hend
  exact ⟨hanswers, hend.desk⟩

end Scoreboard

/-! ### The theorem -/

/-- **What is added is exact, all or nothing, and the same in every order**, at every store
that a run from empty tables reaches and for all amounts that pass their checks.  A grant
adds to both balances of the user whom its key means, and an update to the four counters of
the user whose name it gives; the first sum that a column cannot hold is reported instead.
Grants whose total fits are all made in every order, and so are updates; each order ends
with what the total makes. -/
theorem totals_exact {service : Service} {desk : Desk} {steps : List Step}
    (hstore : d.store = (service.run { desk with store := {} } steps).store) (hd : d.Ready) :
    ∀ user ∈ d.store.users,
      (∀ gift : Treasury.Gift, gift.IsFor d.store user →
        service.AllOrNothing gift.step d
          [("add_coins", user.coins + gift.coins), ("add_gems", user.gems + gift.gems)]
          (.balance
            { userId := user.id, coins := user.coins + gift.coins, gems := user.gems + gift.gems })
          fun s => ∃ stamp, (stamp = user.updatedAt ∨ stamp = gift.moment.now) ∧
            s = d.store.credited user gift.coins gift.gems stamp) ∧
      (∀ gifts order : List Treasury.Gift, (∀ gift ∈ gifts, gift.IsFor d.store user) →
        user.coins + (gifts.map (·.coins)).sum ≤ greatestStored →
        user.gems + (gifts.map (·.gems)).sum ≤ greatestStored → order.Perm gifts →
        (∀ e ∈ service.history d (order.map (·.step)), e.answer ≠ none) ∧
          ∃ stamp, service.run d (order.map (·.step)) = { d with
            store := d.store.credited user (gifts.map (·.coins)).sum (gifts.map (·.gems)).sum
              stamp }) ∧
      ∃ row ∈ d.store.stats, row.userId = user.id ∧
        (∀ tally : Scoreboard.Tally, tally.IsFor user →
          service.AllOrNothing tally.step d
            [("add_kills", row.kills + tally.kills), ("add_games", row.games + tally.games),
              ("add_top5", row.top5 + tally.top5), ("add_wins", row.wins + tally.wins)]
            (.score (Scoreboard.score user.name
              (row.raised tally.kills tally.games tally.top5 tally.wins)))
            (· = d.store.raised row tally.kills tally.games tally.top5 tally.wins)) ∧
        ∀ tallies order : List Scoreboard.Tally, (∀ tally ∈ tallies, tally.IsFor user) →
          row.kills + (tallies.map (·.kills)).sum ≤ greatestStored →
          row.games + (tallies.map (·.games)).sum ≤ greatestStored →
          row.top5 + (tallies.map (·.top5)).sum ≤ greatestStored →
          row.wins + (tallies.map (·.wins)).sum ≤ greatestStored → order.Perm tallies →
          (∀ e ∈ service.history d (order.map (·.step)), e.answer ≠ none) ∧
            service.run d (order.map (·.step)) = { d with
              store := d.store.raised row (tallies.map (·.kills)).sum (tallies.map (·.games)).sum
                (tallies.map (·.top5)).sum (tallies.map (·.wins)).sum } := by
  have hs : d.store.Sound := hstore ▸ (service.chronicle _ steps).sound .empty
  have hdomain : d.store.InDomain :=
    hstore ▸ (service.chronicle { desk with store := {} } steps).inDomain
  intro user huser
  obtain ⟨row, hfound, hid⟩ := hs.singleRow_name huser
  have hrow := Scoreboard.mem_of_singleRow hfound
  refine ⟨fun gift hgift => hgift.allOrNothing service hd hs hdomain,
    fun gifts order hgifts hcoins hgems hperm => ?_, row, hrow, hid,
    fun tally htally => htally.allOrNothing service hd hs hdomain huser hrow hid,
    fun tallies order htallies hkills hgames htop5 hwins hperm => ?_⟩
  · -- The sums are the same in every order.
    have hsumCoins := (hperm.map (·.coins)).sum_eq
    have hsumGems := (hperm.map (·.gems)).sum_eq
    rw [← hsumCoins] at hcoins ⊢
    rw [← hsumGems] at hgems ⊢
    exact Treasury.run_gifts service hd hs hdomain huser
      (fun gift hgift => hgifts gift (hperm.subset hgift)) hcoins hgems
  · have hsumKills := (hperm.map (·.kills)).sum_eq
    have hsumGames := (hperm.map (·.games)).sum_eq
    have hsumTop5 := (hperm.map (·.top5)).sum_eq
    have hsumWins := (hperm.map (·.wins)).sum_eq
    rw [← hsumKills] at hkills ⊢
    rw [← hsumGames] at hgames ⊢
    rw [← hsumTop5] at htop5 ⊢
    rw [← hsumWins] at hwins ⊢
    exact Scoreboard.run_tallies service hd hs hdomain huser hrow hid
      (fun tally htally => htallies tally (hperm.subset htally)) hkills hgames htop5 hwins

namespace Vault

/-- A user with 2^62 coins. -/
def ada : User := { Savings.ada with coins := 4611686018427387904 }

/-- The desk after a registration and a grant of as much as can be granted at once. -/
def desk : Desk := { store := { users := [ada], stats := [{ id := "stats", userId := "ada" }] } }

/-- Ids to come. -/
def start : Desk := { supply := { prepared := ["ada", "stats"] } }

/-- The calls that lead there. -/
def steps : List Step :=
  [⟨Savings.noon, .register (.text "ada") (.text "a@b.c") (.text "pw")⟩,
    ⟨Savings.noon, .grant (.text "ada") (.int 4611686018427387904) (.int 0)⟩]

theorem run_steps :
    desk.store = (Savings.service.run { start with store := {} } steps).store :=
  .symm (congrArg (·.store) (Savings.service.run_ada Savings.noon.now "ada" "stats" [] _))

/-- A grant of some coins at noon. -/
def gift (key : String) (coins : Int) : Treasury.Gift :=
  { moment := Savings.noon, key := .text key, addCoins := .int coins, addGems := .int 0, coins
    gems := 0 }

/-- A user won a game. -/
def victory : Scoreboard.Tally :=
  { moment := Savings.noon, username := .text "ada", deltas := { games := .int 1, wins := .int 1 }
    kills := 0, games := 1, top5 := 0, wins := 1 }

theorem isFor_ada {coins : Int} (hcoins : Input.amount (.int coins) "add_coins" = .ok coins) :
    (gift "ada" coins).IsFor desk.store ada :=
  ⟨rfl, ⟨"ada", Input.names_text rfl, rfl⟩, hcoins, rfl⟩

theorem isFor_ada_of_email : (gift " a@b.c" 4611686018427387900).IsFor desk.store ada :=
  ⟨rfl, ⟨"a@b.c", Input.names_text rfl, rfl⟩, rfl, rfl⟩

end Vault

open Vault in
/-- As much again does not fit, and one coin less does, in two grants. -/
theorem totals_exact_vault :
    Savings.service.perform Savings.noon (.grant (.text "ada") (.int 4611686018427387904) (.int 0))
        desk = .error (.failure (.invalid "add_coins" .totalTooLarge)) desk ∧
      (∃ stamp, Savings.service.run desk
          [(gift "ada" 3).step, (gift " a@b.c" 4611686018427387900).step] =
        { desk with store := desk.store.credited ada 4611686018427387903 0 stamp }) ∧
      ∃ s, Savings.service.perform Savings.noon
          (.addStats (.text "ada") { games := .int 1, wins := .int 1 }) desk =
        .ok (.score { username := "ada", wins := 1, top5 := 0, kills := 0, games := 1 })
          { desk with store := s } := by
  obtain ⟨hgift, hgifts, row, hrow, -, htally, -⟩ :=
    totals_exact run_steps ⟨rfl, rfl, rfl⟩ ada (.head _)
  obtain rfl := List.mem_singleton.1 hrow
  refine ⟨(hgift _ (isFor_ada rfl)).nothing "add_coins" _ rfl, ?_, ?_⟩
  · have hboth : ∀ g ∈ [gift " a@b.c" 4611686018427387900, gift "ada" 3],
        g.IsFor desk.store ada :=
      List.forall_mem_cons.2 ⟨isFor_ada_of_email, List.forall_mem_singleton.2 (isFor_ada rfl)⟩
    exact (hgifts _ _ hboth (by decide) (by decide) (.swap _ _ [])).2
  · obtain ⟨s, -, h⟩ := (htally victory ⟨rfl, rfl, rfl, rfl, rfl, rfl, rfl⟩).all (by decide)
    exact ⟨s, h⟩

end Guildhall
