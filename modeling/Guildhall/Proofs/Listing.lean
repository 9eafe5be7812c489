/-
Guildhall/Proofs/Listing.lean

The four listings: every item, every announcement, what a user possesses and what the user
wears of it.  A listing holds each row once, and it stands in strictly increasing order of a
rank, which for an announcement counts the time backwards:

    item  ↦  (name, slot),      announcement  ↦  (time, title),      possession  ↦  item id.

The rank of a row occurs once in a table, because the columns in it are unique.  So there is
one such listing of a set of rows only, and the order in which they have come into the table
leaves no trace in it: two stores whose tables have the same sets of rows, whatever has been
added, changed and removed in either, are listed alike.

Main statement: `listings_complete`.
-/
import Guildhall.Proofs.Calm
import Guildhall.Proofs.Clash
import Guildhall.Proofs.Commuting
import Mathlib.Data.List.Sort
import Mathlib.Data.Prod.Lex
import Mathlib.Data.String.Basic

namespace Guildhall

open Session

/-! ### Listings of rows -/

namespace Rows

variable {α κ : Type} [LinearOrder κ] {rank : α → κ} {rows rows' listing listing' : List α}

/-- A listing holds each of some rows once, in strictly increasing order of rank. -/
structure ListedBy (rank : α → κ) (rows listing : List α) : Prop where
  perm : listing.Perm rows
  increasing : listing.Pairwise fun x y => rank x < rank y

/-- Rows whose ranks are unique are listed by sorting them. -/
theorem listedBy_mergeSort {le : α → α → Bool} (hle : ∀ x y, le x y = true ↔ rank x ≤ rank y)
    (hranks : (rows.map rank).Nodup) : ListedBy rank rows (rows.mergeSort le) := by
  refine ⟨List.mergeSort_perm rows le, ?_⟩
  have hsorted : (rows.mergeSort le).Pairwise fun x y => le x y = true := by
    apply List.pairwise_mergeSort
    · intro x y z hxy hyz
      exact (hle x z).2 (((hle x y).1 hxy).trans ((hle y z).1 hyz))
    · intro x y
      simp only [Bool.or_eq_true, hle]
      exact le_total _ _
  have hdistinct : (rows.mergeSort le).Pairwise fun x y => rank x ≠ rank y := by
    rw [← List.pairwise_map]
    exact ((List.mergeSort_perm rows le).map rank).nodup_iff.2 hranks
  refine (hsorted.and hdistinct).imp ?_
  rintro x y ⟨hxy, hne⟩
  exact lt_of_le_of_ne ((hle x y).1 hxy) hne

/-- A set of rows has one listing only. -/
theorem ListedBy.unique (h : ListedBy rank rows listing) (h' : ListedBy rank rows' listing')
    (hrows : ∀ x, x ∈ rows ↔ x ∈ rows') : listing = listing' := by
  have : Std.Irrefl fun x y : α => rank x < rank y := ⟨fun x => lt_irrefl (rank x)⟩
  have : Std.Antisymm fun x y : α => rank x < rank y :=
    ⟨fun _ _ hxy hyx => absurd hyx hxy.asymm⟩
  refine h.increasing.eq_of_mem_iff h'.increasing fun x => ?_
  rw [h.perm.mem_iff, h'.perm.mem_iff]
  exact hrows x

end Rows

/-! ### The order of each table -/

/-- Items are listed by name, and those of one name by slot. -/
def Item.rank (i : Item) : String ×ₗ Int := toLex (i.name, i.slot)

/-- Announcements are listed from the newest to the oldest, and those of one instant by
title. -/
def News.rank (n : News) : Intᵒᵈ ×ₗ String := toLex (OrderDual.toDual n.createdAt.micros, n.title)

/-- Two stores of which each table has the same set of rows. -/
structure Store.SameSets (s s' : Store) : Prop where
  users : ∀ u, u ∈ s.users ↔ u ∈ s'.users
  items : ∀ i, i ∈ s.items ↔ i ∈ s'.items
  possessions : ∀ p, p ∈ s.possessions ↔ p ∈ s'.possessions
  stats : ∀ row, row ∈ s.stats ↔ row ∈ s'.stats
  news : ∀ n, n ∈ s.news ↔ n ∈ s'.news

namespace Store

variable {s s' : Store}

/-- The same rows are the same sets of rows. -/
theorem SameRows.sameSets (h : s.SameRows s') : s.SameSets s' where
  users _ := h.users.mem_iff
  items _ := h.items.mem_iff
  possessions _ := h.possessions.mem_iff
  stats _ := h.stats.mem_iff
  news _ := h.news.mem_iff

theorem Sound.listedBy_sortedItems (hs : s.Sound) :
    Rows.ListedBy Item.rank s.items s.sortedItems := by
  apply Rows.listedBy_mergeSort
  · intro i j
    simp [Item.rank, Prod.Lex.toLex_le_toLex]
  · exact hs.itemNames

theorem Sound.listedBy_sortedNews (hs : s.Sound) :
    Rows.ListedBy News.rank s.news s.sortedNews := by
  apply Rows.listedBy_mergeSort
  · intro m n
    have htimes : m.createdAt = n.createdAt ↔ m.createdAt.micros = n.createdAt.micros :=
      ⟨congrArg Instant.micros, congrArg Instant.mk⟩
    simp [News.rank, Prod.Lex.toLex_le_toLex, Instant.lt_def, htimes]
  · -- The title alone is unique.
    apply List.Nodup.of_map fun rank => (ofLex rank).2
    rw [List.map_map]
    exact hs.newsTitles

theorem Sound.listedBy_possessionsOf (hs : s.Sound) (u : String) :
    Rows.ListedBy Possession.itemId (s.possessions.filter (·.userId == u)) (s.possessionsOf u) := by
  apply Rows.listedBy_mergeSort
  · intro p q
    exact decide_eq_true_iff
  · -- The possessions of one user differ in the items.
    apply List.Nodup.of_map fun itemId => (u, itemId)
    have hkeys := Rows.nodup_filter (·.userId == u) hs.possessionKeys
    rw [List.map_map]
    convert hkeys using 1
    refine List.map_congr_left fun p hp => ?_
    obtain rfl := beq_iff_eq.1 (List.mem_filter.1 hp).2
    rfl

theorem SameSets.sortedItems (h : s.SameSets s') (hs : s.Sound) (hs' : s'.Sound) :
    s.sortedItems = s'.sortedItems :=
  hs.listedBy_sortedItems.unique hs'.listedBy_sortedItems h.items

theorem SameSets.sortedNews (h : s.SameSets s') (hs : s.Sound) (hs' : s'.Sound) :
    s.sortedNews = s'.sortedNews :=
  hs.listedBy_sortedNews.unique hs'.listedBy_sortedNews h.news

theorem SameSets.possessionsOf (h : s.SameSets s') (hs : s.Sound) (hs' : s'.Sound) (u : String) :
    s.possessionsOf u = s'.possessionsOf u := by
  refine (hs.listedBy_possessionsOf u).unique (hs'.listedBy_possessionsOf u) fun p => ?_
  rw [List.mem_filter, List.mem_filter, h.possessions]

theorem SameSets.user? (h : s.SameSets s') (hs : s.Sound) (hs' : s'.Sound) (u : String) :
    s.user? u = s'.user? u := by
  ext v
  rw [user?_eq_some_iff hs.userIds, user?_eq_some_iff hs'.userIds, h.users]

end Store

/-! ### The calls -/

/-- A call ends as the work that it answers with. -/
theorem Session.outcome_answer {α β : Type} {x : Session α} {d : Desk} {f : α → β} :
    outcome ((x >>= fun a => pure (f a)) d) = (outcome (x d)).map f := by
  show outcome (EStateM.bind x _ d) = _
  unfold EStateM.bind
  cases x d <;> rfl

/-- The calls that list rows. -/
inductive Call.Lists : Call → Prop
  | items : Lists .listItems
  | news : Lists .listNews
  | userItems (userId : Value) : Lists (.userItems userId)
  | equippedItems (userId : Value) : Lists (.equippedItems userId)

section Ready

variable {d d' : Desk} {m m' : Moment}

/-- What is made of the store is answered. -/
theorem Session.reading_ready {α : Type} {f : Failure} {g : Store → α} (hd : d.Ready) :
    reportingAs f (transaction (do return g (← store))) d = .ok (g d.store) d := by
  apply reporting_ready
  apply transaction_ready hd _ hd
  rw [bind_ready (store_ready hd)]
  rfl

theorem Catalogue.list_ready (hd : d.Ready) : list d = .ok d.store.sortedItems d :=
  reading_ready hd

theorem Bulletin.list_ready (hd : d.Ready) : list d = .ok d.store.sortedNews d :=
  reading_ready hd

/-- What a user possesses, or wears. -/
theorem Catalogue.possessions_ready {operation : String} (equippedOnly : Bool) {userId : Value}
    {u : String} {user : User} (hd : d.Ready) (hid : Input.Names userId "user_id" u)
    (huser : d.store.user? u = some user) :
    possessions operation equippedOnly userId d =
      .ok (if equippedOnly then (d.store.possessionsOf u).filter (·.equipped)
        else d.store.possessionsOf u) d := by
  unfold possessions
  rw [passed_ready hid.check]
  apply reporting_ready
  apply transaction_ready hd _ hd
  rw [bind_ready (storeFor_ready hd hid.bytes), huser]
  cases equippedOnly <;> rfl

theorem Catalogue.possessions_noUser {operation : String} (equippedOnly : Bool) {userId : Value}
    {u : String} (hd : d.Ready) (hid : Input.Names userId "user_id" u)
    (huser : d.store.user? u = none) :
    possessions operation equippedOnly userId d =
      .error (.failure (.notFound "User" (.text u))) d := by
  unfold possessions
  rw [passed_ready hid.check]
  apply refused_ready hd
  rw [bind_ready (storeFor_ready hd hid.bytes), huser]
  cases equippedOnly <;> rfl

/-- Nothing is listed for an id that has no bytes. -/
theorem Catalogue.possessions_unread {operation : String} (equippedOnly : Bool) {userId : Value}
    {u : String} (hd : d.Ready) (hid : Input.identifier userId "user_id" = .ok u)
    (hbytes : checkBytes userId = .error .unencodable) :
    Halts (possessions operation equippedOnly userId) d .unencodable :=
  .passed hid (.reported hd.calm (.atStoreFor hd hbytes) nofun)

/-- **Listings depend on the sets of rows only.** -/
theorem Store.SameSets.outcome_eq (service service' : Service) {call : Call}
    (hrows : d.store.SameSets d'.store) (hs : d.store.Sound) (hs' : d'.store.Sound) (hd : d.Ready)
    (hd' : d'.Ready) (hcall : call.Lists) :
    outcome (service.perform m call d) = outcome (service'.perform m' call d') := by
  have hpossessions : ∀ (operation : String) (equippedOnly : Bool) (userId : Value),
      outcome (Catalogue.possessions operation equippedOnly userId d) =
        outcome (Catalogue.possessions operation equippedOnly userId d') := by
    intro operation equippedOnly userId
    cases hid : Input.identifier userId "user_id" with
    | error stop =>
      unfold Catalogue.possessions
      rw [hid]
      rfl
    | ok u =>
      have huser := hrows.user? hs hs' u
      rcases checkBytes_eq userId with hbytes | hbytes
      · cases hfound : d.store.user? u with
        | none =>
          rw [Catalogue.possessions_noUser _ hd ⟨hid, hbytes⟩ hfound,
            Catalogue.possessions_noUser _ hd' ⟨hid, hbytes⟩ (huser ▸ hfound)]
          rfl
        | some user =>
          rw [Catalogue.possessions_ready _ hd ⟨hid, hbytes⟩ hfound,
            Catalogue.possessions_ready _ hd' ⟨hid, hbytes⟩ (huser ▸ hfound),
            hrows.possessionsOf hs hs']
          rfl
      · obtain ⟨e, he⟩ := Catalogue.possessions_unread equippedOnly hd hid hbytes
        obtain ⟨e', he'⟩ := Catalogue.possessions_unread equippedOnly hd' hid hbytes
        rw [he, he']
        rfl
  cases hcall with
  | items =>
    show outcome ((Catalogue.list >>= _) d) = outcome ((Catalogue.list >>= _) d')
    rw [outcome_answer, outcome_answer, Catalogue.list_ready hd, Catalogue.list_ready hd',
      hrows.sortedItems hs hs']
    rfl
  | news =>
    show outcome ((Bulletin.list >>= _) d) = outcome ((Bulletin.list >>= _) d')
    rw [outcome_answer, outcome_answer, Bulletin.list_ready hd, Bulletin.list_ready hd',
      hrows.sortedNews hs hs']
    rfl
  | userItems userId =>
    show outcome ((Catalogue.userItems userId >>= _) d) = outcome ((Catalogue.userItems _ >>= _) d')
    rw [outcome_answer, outcome_answer]
    exact congrArg _ (hpossessions _ _ _)
  | equippedItems userId =>
    show outcome ((Catalogue.equippedItems userId >>= _) d) =
      outcome ((Catalogue.equippedItems _ >>= _) d')
    rw [outcome_answer, outcome_answer]
    exact congrArg _ (hpossessions _ _ _)

end Ready

/-- **Listings are complete and in order, and the past leaves no trace in them.**  A run from
empty tables has reached the store of a desk at which nothing goes wrong.  There the four
listings change nothing; the items, the announcements and what a user possesses are listed
by their ranks, and what the user wears is what of that is marked as worn.  And on two such
desks whose tables have the same sets of rows, at whatever moments and of whatever services,
every listing comes to the same end. -/
theorem listings_complete (service : Service) (desk : Desk) (steps : List Step) (m : Moment)
    {d : Desk} (hstore : d.store = (service.run { desk with store := {} } steps).store)
    (hd : d.Ready) :
    (∃ listing, service.perform m .listItems d = .ok (.items listing) d ∧
      Rows.ListedBy Item.rank d.store.items listing) ∧
    (∃ listing, service.perform m .listNews d = .ok (.newsList listing) d ∧
      Rows.ListedBy News.rank d.store.news listing) ∧
    (∀ user ∈ d.store.users, ∀ given, Input.identifier (.text given) "user_id" = .ok user.id →
      ∃ listing,
        service.perform m (.userItems (.text given)) d = .ok (.possessions listing) d ∧
        service.perform m (.equippedItems (.text given)) d =
          .ok (.possessions (listing.filter (·.equipped))) d ∧
        Rows.ListedBy Possession.itemId (d.store.possessions.filter (·.userId == user.id))
          listing) ∧
    ∀ (service' : Service) (desk' : Desk) (steps' : List Step) (m' : Moment) (d' : Desk),
      d'.store = (service'.run { desk' with store := {} } steps').store → d'.Ready →
        d.store.SameSets d'.store → ∀ call : Call, call.Lists →
          outcome (service.perform m call d) = outcome (service'.perform m' call d') := by
  have hs : d.store.Sound := hstore ▸ (service.chronicle _ steps).sound .empty
  refine ⟨?_, ?_, ?_, ?_⟩
  · exact ⟨_, bind_ready (Catalogue.list_ready hd), hs.listedBy_sortedItems⟩
  · exact ⟨_, bind_ready (Bulletin.list_ready hd), hs.listedBy_sortedNews⟩
  · intro user huser given hid
    have hfound := (Store.user?_eq_some_iff hs.userIds).2 ⟨huser, rfl⟩
    exact ⟨_, bind_ready (Catalogue.possessions_ready false hd (Input.names_text hid) hfound),
      bind_ready (Catalogue.possessions_ready true hd (Input.names_text hid) hfound),
      hs.listedBy_possessionsOf _⟩
  · intro service' desk' steps' m' d' hstore' hd' hrows call hcall
    have hs' : d'.store.Sound := hstore' ▸ (service'.chronicle _ steps').sound .empty
    exact hrows.outcome_eq service service' hs hs' hd hd' hcall

namespace Backwards

open TwoHats

/-- The ids in the order in which they are taken here. -/
def desk : Desk := { supply := { prepared := ["ada", "stats", "hat", "cap"] } }

/-- The hat is added and bought before the cap is there. -/
def shopping : List Step :=
  [⟨noon, .register (.text "ada") (.text "a@b.c") (.text "pw")⟩,
    ⟨noon, .createItem { name := .text "hat", slot := .int 1, imageId := .text "p" }⟩,
    ⟨noon, .buy (.text "ada") (.text "hat")⟩,
    ⟨noon, .createItem { name := .text "cap", slot := .int 2, imageId := .text "q" }⟩,
    ⟨noon, .buy (.text "ada") (.text "cap")⟩]

/-- The wardrobe, with the hat before the cap. -/
def wardrobe : Desk :=
  { store :=
      { users := [ada]
        items := [piece "hat" "p" 1, piece "cap" "q" 2]
        possessions := [⟨"ada", "hat", false⟩, ⟨"ada", "cap", false⟩]
        stats := [{ id := "stats", userId := "ada" }] } }

theorem run_shopping : service.run { desk with store := {} } shopping = wardrobe :=
  service.run_ada ⟨0⟩ "ada" "stats" ["hat", "cap"] _

theorem sameRows : (TwoHats.wardrobe 2 false false).store.SameRows wardrobe.store where
  users := .refl _
  items := .swap _ _ _
  possessions := .swap _ _ _
  stats := .refl _
  news := .refl _

end Backwards

open TwoHats in
/-- What a user has bought is listed the same way whichever was bought first. -/
theorem listings_complete_wardrobe :
    (∃ listing, service.perform noon .listItems (wardrobe 2 false false) =
        .ok (.items listing) (wardrobe 2 false false) ∧
      Rows.ListedBy Item.rank (wardrobe 2 false false).store.items listing) ∧
    outcome (service.perform noon (.userItems (.text "ada")) (wardrobe 2 false false)) =
      outcome (service.perform noon (.userItems (.text "ada")) Backwards.wardrobe) := by
  have hstore : (wardrobe 2 false false).store =
      (service.run { desk with store := {} } shopping).store :=
    (congrArg Desk.store run_shopping).symm
  obtain ⟨hitems, -, -, halike⟩ :=
    listings_complete service desk shopping noon hstore (wardrobe_ready _ _ _)
  refine ⟨hitems, ?_⟩
  exact halike service Backwards.desk Backwards.shopping noon Backwards.wardrobe
    (congrArg Desk.store Backwards.run_shopping).symm ⟨rfl, rfl, rfl⟩ Backwards.sameRows.sameSets _
    (.userItems _)

end Guildhall
