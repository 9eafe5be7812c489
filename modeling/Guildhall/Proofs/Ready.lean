/-
Guildhall/Proofs/Ready.lean

Work on a desk at which nothing goes wrong: the storage can be reached, the
tables exist, and no statement is in for trouble.  There a statement that
passes its checks is carried out, and a unit of work gives the result of its
work.
-/
import Guildhall.Proofs.Session
import Guildhall.Registry
import Guildhall.Wardrobe

namespace Guildhall

/-- A desk at which nothing goes wrong. -/
structure Desk.Ready (d : Desk) : Prop where
  link : d.link = .up
  tables : d.tables = true
  trouble : d.trouble = []

/-- A ready desk with another store or supply is ready. -/
theorem Desk.Ready.holding {d : Desk} (hd : d.Ready) (store : Store) (supply : Supply) :
    Desk.Ready { d with store, supply } := ⟨hd.link, hd.tables, hd.trouble⟩

/-- The tables can be reached where there are some. -/
theorem Desk.checkTables_of_up {d : Desk} (hlink : d.link = .up) (htables : d.tables = true) :
    d.checkTables = .ok () := by
  unfold checkTables checkLink
  rw [hlink, htables]
  rfl

/-- A value that names a key: it passes its check, and it has bytes to be looked up by. -/
structure Input.Names (given : Value) (field key : String) : Prop where
  check : identifier given field = .ok key
  bytes : checkBytes given = .ok ()

/-- A text that passes its check names a key, for half a pair is no text. -/
theorem Input.names_text {given field key : String}
    (h : identifier (.text given) field = .ok key) : Names (.text given) field key := ⟨h, rfl⟩

namespace Session

variable {α β : Type} {d d' : Desk} {m : Moment} {a : α}

theorem bind_ready {x : Session α} {f : α → Session β} (h : x d = .ok a d') :
    (x >>= f) d = f a d' := by
  show EStateM.bind x f d = _
  unfold EStateM.bind
  rw [h]

/-- Work after a check that passes. -/
theorem passed_ready {x : Except Stop α} {f : α → Session β} (h : x = .ok a) :
    ((liftM x : Session α) >>= f) d = f a d := by
  rw [h]
  rfl

theorem send_ready (hd : d.Ready) : send d = .ok () d := by
  unfold send
  rw [hd.trouble]

theorem store_ready (hd : d.Ready) : store d = .ok d.store d := by
  unfold store
  rw [bind_ready (send_ready hd)]
  rfl

theorem storeFor_ready {given : Value} (hd : d.Ready) (hgiven : checkBytes given = .ok ()) :
    storeFor given d = .ok d.store d := by
  unfold storeFor
  rw [bind_ready (store_ready hd), hgiven]
  rfl

theorem run_ready {statement : Store → Except Stop Store} {s : Store} (hd : d.Ready)
    (hs : statement d.store = .ok s) : run statement d = .ok () { d with store := s } := by
  unfold run
  rw [bind_ready (store_ready hd), hs]
  rfl

theorem flush_ready {site : Site} (hd : d.Ready) (hm : m.fault = none) :
    flush m site d = .ok () d := by
  unfold flush
  rw [bind_ready (send_ready hd), hm]
  rfl

theorem transaction_ready {work : Session α} (hd : d.Ready) (hwork : work d = .ok a d')
    (hd' : d'.Ready) : transaction work d = .ok a d' := by
  have hcommitting : committing work d = .ok a d' := by
    unfold committing
    rw [bind_ready hwork, bind_ready (send_ready hd')]
    rfl
  unfold transaction
  rw [Desk.checkTables_of_up hd.link hd.tables, hcommitting]

theorem reporting_ready {f g : Failure} {work : Session α} (h : work d = .ok a d') :
    reporting f g work d = .ok a d' := by
  unfold reporting
  rw [h]

/-- Work stops where its first part does. -/
theorem bind_stopped {x : Session α} {f : α → Session β} {stop : Stop}
    (h : x d = .error stop d') : (x >>= f) d = .error stop d' := by
  show EStateM.bind x f d = _
  unfold EStateM.bind
  rw [h]

/-- A unit of work that is refused before it has changed anything leaves the desk as it
was, and the refusal is passed on as it is. -/
theorem refused_ready {f f₁ f₂ : Failure} {work : Session α} (hd : d.Ready)
    (hwork : work d = .error (.failure f) d) :
    reporting f₁ f₂ (transaction work) d = .error (.failure f) d := by
  have hcommitting : committing work d = .error (.failure f) d := bind_stopped hwork
  unfold reporting transaction
  rw [Desk.checkTables_of_up hd.link hd.tables]
  dsimp only
  rw [hcommitting]

end Session

open Session

/-- Looking for a user and an item who are there. -/
theorem Market.findPair_ready {d : Desk} {givenUser givenItem : Value} {u i : String}
    {user : User} {item : Item} (hd : d.Ready) (huserBytes : checkBytes givenUser = .ok ())
    (hitemBytes : checkBytes givenItem = .ok ()) (huser : d.store.user? u = some user)
    (hitem : d.store.item? i = some item) :
    findPair givenUser givenItem u i d = .ok (user, item) d := by
  unfold findPair
  rw [bind_ready (storeFor_ready hd huserBytes), huser]
  dsimp only
  rw [bind_ready (storeFor_ready hd hitemBytes), hitem]
  rfl

/-- Reading the profile of a user whom the key means. -/
theorem Registry.read_ready {d : Desk} {key : Value} {k : String} {u : User} (hd : d.Ready)
    (hkey : Input.Names key "id" k) (huser : d.store.userByKey? k = some u) :
    read key d = .ok (profile u) d := by
  unfold read
  rw [hkey.check]
  refine reporting_ready (transaction_ready hd ?_ hd)
  rw [bind_ready (storeFor_ready hd hkey.bytes), huser]
  rfl

/-- Putting on an item that the user has and does not wear. -/
theorem Wardrobe.equip_ready {m : Moment} {d : Desk} {userId itemId : Value} {u i : String}
    {item : Item} {target : Possession} (hd : d.Ready) (hm : m.fault = none)
    (huserId : Input.Names userId "user_id" u) (hitemId : Input.Names itemId "item_id" i)
    (hitem : d.store.item? i = some item)
    (htarget : (d.store.possessionsIn u item.slot).find? (·.itemId == i) = some target)
    (hoff : target.equipped = false) :
    equip m userId itemId d =
      .ok { userId := u, itemId := i,
            previousItemId :=
              ((d.store.possessionsIn u item.slot).find? (·.equipped)).map (·.itemId),
            changed := true }
        { d with store := wear d.store (d.store.possessionsIn u item.slot) target } := by
  have hd' : Desk.Ready { d with
      store := wear d.store (d.store.possessionsIn u item.slot) target } :=
    ⟨hd.link, hd.tables, hd.trouble⟩
  have hrun : run (fun s => .ok (wear s (d.store.possessionsIn u item.slot) target)) d =
      .ok () { d with store := wear d.store (d.store.possessionsIn u item.slot) target } :=
    run_ready hd rfl
  unfold equip
  rw [huserId.check, hitemId.check]
  refine reporting_ready (transaction_ready hd ?_ hd')
  rw [bind_ready (storeFor_ready hd hitemId.bytes), hitem]
  show (storeFor userId >>= _) d = _
  rw [bind_ready (storeFor_ready hd huserId.bytes)]
  simp only [htarget, hoff]
  exact (bind_ready hrun).trans (bind_ready (flush_ready hd' hm))

end Guildhall
