/-
Guildhall/Proofs/Merging.lean

What an update makes of an item or of an announcement, in full.  An argument may be left
out; a blank text and a zero say as little as an argument that is not there:

    column after = if what is said is empty then column before else what is said

for texts without the white space around them and for numbers.  The sale is one thing of
three columns, which are set together if one of the two sale prices is not zero.

Merging is idempotent (`Merge.apply_apply`), and a row that comes out as it was is not
written with another time.  So a second update with the same arguments leaves the tables as
the first one did.

Main statement: `update_merges`.
-/
import Guildhall.Proofs.Purchase
import Guildhall.Proofs.Vacancy

namespace Guildhall

open Session

variable {m : Moment} {d : Desk} {s : Store} {now : Instant} {item : Item}

/-! ### What arguments say -/

/-- A text, or the one before if it is empty. -/
def orText (t before : String) : String := if t = "" then before else t

theorem orText_orText (t before : String) : orText t (orText t before) = orText t before := by
  unfold orText
  split <;> rfl

theorem getD_eq_orText (t before : String) :
    (if t = "" then none else some t).getD before = orText t before := by
  unfold orText
  split <;> rfl

namespace Input

variable {most : Option Int} {v : Value} {t field : String}

/-- What an argument says that is a text or left out: nothing if it is left out, else the
text without the white space around it, which is not too long. -/
inductive Says (most : Option Int) : Value → String → Prop
  | nothing : Says most .null ""
  | text {raw : String} (hlength : ∀ high ∈ most, ((Text.strip raw).length : Int) ≤ high) :
      Says most (.text raw) (Text.strip raw)

/-- What an argument says that is a number or left out: zero if it is left out, else the
number, which is not negative and not too large. -/
inductive Counts (field : String) (most : Int) : Value → Int → Prop
  | nothing : Counts field most .null 0
  | number {v : Value} {n : Int} (hread : toInteger v field = .ok n) (hlow : 0 ≤ n)
      (hhigh : n ≤ most) : Counts field most v n

theorem Says.checkBytes (h : Says most v t) : Guildhall.checkBytes v = .ok () := by
  cases h <;> rfl

/-- An empty text counts as left out. -/
theorem Says.optionalText (h : Says most v t) :
    optionalText v field most = .ok (if t = "" then none else some t) := by
  cases h with
  | nothing => rfl
  | @text raw hlength =>
    unfold Input.optionalText
    dsimp only
    by_cases hblank : Text.strip raw = ""
    · rw [if_pos hblank, if_pos (String.isEmpty_iff.2 hblank)]
    · rw [if_neg hblank, if_neg (mt String.isEmpty_iff.1 hblank), text_of_strip hblank hlength]
      rfl

theorem Counts.optionalNumber {high : Int} {n : Int} {limit : Option Int}
    (h : Counts field high v n) (hlimit : ∀ k ∈ limit, n ≤ k) :
    (Catalogue.optionalNumber v fun v => integer v field (some 0) limit) = .ok n := by
  cases h with
  | nothing => rfl
  | number hread hlow hhigh =>
    have hinteger : integer v field (some 0) limit = .ok n :=
      integer_eq_ok.2 ⟨hread, fun low hlow' => Option.mem_some_iff.1 hlow' ▸ hlow, hlimit⟩
    unfold Catalogue.optionalNumber
    split
    · cases hread
    · exact hinteger

theorem Counts.le {high n : Int} (h : Counts field high v n) (hhigh : 0 ≤ high) : n ≤ high := by
  cases h with
  | nothing => exact hhigh
  | number _ _ hle => exact hle

end Input

/-! ### Merged items -/

namespace Catalogue

/-- What a change says: texts without the white space around them, empty if they are left
out, and numbers, zero if they are. -/
structure Reading where
  name : String
  slot : Int
  imageId : String
  description : String
  coins : Int
  gems : Int
  saleCoins : Int
  saleGems : Int

/-- What the arguments of a change say if all of them are in order: texts are within their
limits, amounts too, and a column can hold the slot. -/
structure Change.Reads (c : Change) (r : Reading) : Prop where
  name : Input.Says (some nameLimit) c.name r.name
  slot : Input.Counts "type" greatestStored c.slot r.slot
  imageId : Input.Says (some imageLimit) c.imageId r.imageId
  description : Input.Says none c.description r.description
  coins : Input.Counts "coins_price" Input.greatestAmount c.coins r.coins
  gems : Input.Counts "gems_price" Input.greatestAmount c.gems r.gems
  saleCoins : Input.Counts "sale_coins_price" Input.greatestAmount c.saleCoins r.saleCoins
  saleGems : Input.Counts "sale_gems_price" Input.greatestAmount c.saleGems r.saleGems

/-- What an update leaves of an item. -/
structure Reading.Merged (now : Instant) (r : Reading) (old new : Item) : Prop where
  id : new.id = old.id
  name : new.name = orText r.name old.name
  imageId : new.imageId = orText r.imageId old.imageId
  description : new.description = orText r.description old.description
  slot : new.slot = orNumber r.slot old.slot
  coins : new.base.coins = orNumber r.coins old.base.coins
  gems : new.base.gems = orNumber r.gems old.base.gems
  /-- A sale price that is not zero puts the item on sale for both of them. -/
  sale : r.saleCoins ≠ 0 ∨ r.saleGems ≠ 0 →
    new.onSale = true ∧ new.sale = ⟨r.saleCoins, r.saleGems⟩
  noSale : r.saleCoins = 0 → r.saleGems = 0 → new.onSale = old.onSale ∧ new.sale = old.sale
  createdAt : new.createdAt = old.createdAt
  updatedAt : new.updatedAt = old.updatedAt ∨ new.updatedAt = now

/-- The checked change. -/
def Reading.merge (r : Reading) : Merge where
  name := if r.name = "" then none else some r.name
  slot := r.slot
  imageId := if r.imageId = "" then none else some r.imageId
  description := if r.description = "" then none else some r.description
  coins := r.coins
  gems := r.gems
  saleCoins := r.saleCoins
  saleGems := r.saleGems

/-- Arguments that are in order pass their checks. -/
theorem Change.Reads.check {c : Change} {r : Reading} (h : c.Reads r) : c.check = .ok r.merge := by
  have hamount : ∀ {v : Value} {field : String} {n : Int},
      Input.Counts field Input.greatestAmount v n →
      (optionalNumber v fun v => Input.amount v field) = .ok n :=
    fun hn => hn.optionalNumber fun k hk => Option.mem_some_iff.1 hk ▸ hn.le (by decide)
  have hslot : (optionalNumber c.slot fun v => Input.integer v "type" (some 0) none) = .ok r.slot :=
    h.slot.optionalNumber nofun
  unfold Change.check
  rw [h.name.optionalText, h.imageId.optionalText, h.description.optionalText, hslot,
    hamount h.coins, hamount h.gems, hamount h.saleCoins,
    hamount h.saleGems]
  rfl

theorem orNumber_orNumber (n before : Int) :
    orNumber n (orNumber n before) = orNumber n before := by
  unfold orNumber
  split <;> rfl

theorem getD_getD (t? : Option String) (before : String) :
    t?.getD (t?.getD before) = t?.getD before := by
  cases t? <;> rfl

/-- **Merging a change twice is merging it once.** -/
theorem Merge.apply_apply (c : Merge) (i : Item) : c.apply (c.apply i) = c.apply i := by
  unfold Merge.apply
  dsimp only
  rw [getD_getD, getD_getD, getD_getD, orNumber_orNumber, orNumber_orNumber, orNumber_orNumber]
  cases (decide (c.saleCoins ≠ 0) || decide (c.saleGems ≠ 0)) <;> rfl

end Catalogue

/-! ### Items that are written -/

/-- An item that is written in the place of an old one: it is the old one if nothing but
the time of the last change is different. -/
def Item.rewritten (now : Instant) (old i : Item) : Item :=
  if { i with updatedAt := old.updatedAt } = old then old else { i with updatedAt := now }

theorem Item.rewritten_eq (now : Instant) (old i : Item) :
    ∃ stamp, (stamp = old.updatedAt ∨ stamp = now) ∧
      old.rewritten now i = { i with updatedAt := stamp } := by
  unfold rewritten
  by_cases h : { i with updatedAt := old.updatedAt } = old
  · exact ⟨old.updatedAt, .inl rfl, (if_pos h).trans h.symm⟩
  · exact ⟨now, .inr rfl, if_neg h⟩

theorem Item.rewritten_self (now : Instant) (i : Item) : i.rewritten now i = i := if_pos rfl

theorem Store.writeItem_rewritten (now : Instant) {i : Item} (hs : s.Sound) (hitem : item ∈ s.items)
    (hid : i.id = item.id) (hfits : ∀ n ∈ itemNumbers i, leastStored ≤ n ∧ n ≤ greatestStored)
    (hfree : ∀ j ∈ s.items, j.id ≠ i.id →
      (j.name, j.slot) ≠ (i.name, i.slot) ∧ j.imageId ≠ i.imageId) :
    s.writeItem now i =
      .ok { s with items := Rows.put (·.id) (item.rewritten now i) s.items } := by
  unfold writeItem Item.rewritten
  rw [(item?_eq_some_iff hs.itemIds).2 ⟨hitem, hid.symm⟩]
  dsimp only
  by_cases hsame : { i with updatedAt := item.updatedAt } = item
  · -- The row is the old one, which stands there already.
    rw [if_pos hsame, if_pos hsame, Rows.put_of_mem hs.itemIds hitem]
  · rw [if_neg hsame, if_neg hsame]
    exact replaceItem_eq_ok.2 ⟨hfits, hfree, rfl⟩

namespace Catalogue

variable {id : Value} {change : Change} {merge : Merge} {r : Reading}

/-- The look at the other items passes if none of them has the name and the slot, or the
image. -/
theorem ensureUnique_ok {others : List Item} {givenName givenImage : Value}
    {name imageId : String} {slot : Int} (hname : checkBytes givenName = .ok ())
    (himage : checkBytes givenImage = .ok ()) (hslot : fits slot = true)
    (hfree : ∀ j ∈ others, (j.name, j.slot) ≠ (name, slot) ∧ j.imageId ≠ imageId) :
    ensureUnique others givenName givenImage name slot imageId = .ok () := by
  rw [ensureUnique_eq hname himage hslot, firstTaken_eq_ok]
  simp only [List.forall_mem_cons, List.any_eq_false]
  refine ⟨fun j hj hsame => ?_, fun j hj hsame => ?_, List.forall_mem_nil _⟩
  · obtain ⟨hn, hk⟩ := Bool.and_eq_true_iff.1 hsame
    exact (hfree j hj).1 (Prod.ext (beq_iff_eq.1 hn) (beq_iff_eq.1 hk))
  · exact (hfree j hj).2 (beq_iff_eq.1 hsame)

/-- **Updating an item** with arguments that are in order and collide with no other item. -/
theorem update_ready (hd : d.Ready) (hm : m.fault = none) (hs : d.store.Sound)
    (hreads : change.Reads r) (hid : Input.Names id "id" item.id)
    (hitem : item ∈ d.store.items) (hdomain : (r.merge.apply item).InDomain)
    (hfree : ∀ j ∈ d.store.items, j.id ≠ item.id →
      (j.name, j.slot) ≠ ((r.merge.apply item).name, (r.merge.apply item).slot) ∧
        j.imageId ≠ (r.merge.apply item).imageId) :
    update m id change d = .ok (item.rewritten m.now (r.merge.apply item)) { d with
      store := { d.store with
        items := Rows.put (·.id) (item.rewritten m.now (r.merge.apply item)) d.store.items } } := by
  have hold : d.store.item? item.id = some item :=
    (Store.item?_eq_some_iff hs.itemIds).2 ⟨hitem, rfl⟩
  have hunique : ensureUnique (d.store.items.filter (·.id != item.id)) change.name change.imageId
      (r.merge.apply item).name (r.merge.apply item).slot (r.merge.apply item).imageId =
        .ok () := by
    refine ensureUnique_ok hreads.name.checkBytes hreads.imageId.checkBytes hdomain.slot.fits ?_
    intro j hj
    obtain ⟨hmem, hne⟩ := List.mem_filter.1 hj
    exact hfree j hmem (bne_iff_ne.1 hne)
  have hwrite : d.store.writeItem m.now (r.merge.apply item) = .ok { d.store with
      items := Rows.put (·.id) (item.rewritten m.now (r.merge.apply item)) d.store.items } :=
    Store.writeItem_rewritten m.now hs hitem rfl
      (fun n hn => by simpa [fits] using fits_itemNumbers hdomain n hn) hfree
  have hidentity : (item.rewritten m.now (r.merge.apply item)).id = item.id := by
    obtain ⟨stamp, -, heq⟩ := Item.rewritten_eq m.now item (r.merge.apply item)
    rw [heq]
    rfl
  -- What is read back in the end is the row that has been written.
  have hnew : Store.item? { d.store with
      items := Rows.put (·.id) (item.rewritten m.now (r.merge.apply item)) d.store.items }
      item.id = some (item.rewritten m.now (r.merge.apply item)) := by
    unfold Store.item? at hold ⊢
    rw [Rows.find?_put fun _ => beq_iff_eq, if_pos hidentity, hold]
    rfl
  unfold update
  rw [hid.check, hreads.check]
  refine reporting_ready (transaction_ready hd ?_ (hd.holding _ _))
  rw [bind_ready (storeFor_ready hd hid.bytes), hold]
  show (store >>= _) d = _
  rw [bind_ready (store_ready hd), hunique, hreads.description.checkBytes]
  show (run _ >>= _) d = _
  rw [bind_ready (run_ready hd hwrite), bind_ready (flush_ready (hd.holding _ _) hm),
    bind_ready (store_ready (hd.holding _ _)), hnew]
  rfl

/-- What is written is the item with what the change says. -/
theorem merged_rewritten (r : Reading) (now : Instant) (item : Item) :
    r.Merged now item (item.rewritten now (r.merge.apply item)) := by
  obtain ⟨stamp, hstamp, heq⟩ := Item.rewritten_eq now item (r.merge.apply item)
  rw [heq]
  refine
    { id := rfl
      name := getD_eq_orText _ _
      imageId := getD_eq_orText _ _
      description := getD_eq_orText _ _
      slot := rfl
      coins := rfl
      gems := rfl
      sale := fun h => ?_
      noSale := fun hcoins hgems => ?_
      createdAt := rfl
      updatedAt := hstamp }
  · have hsale : (decide (r.saleCoins ≠ 0) || decide (r.saleGems ≠ 0)) = true := by simpa using h
    exact ⟨congrArg (· || item.onSale) hsale, if_pos hsale⟩
  · have hsale : (decide (r.saleCoins ≠ 0) || decide (r.saleGems ≠ 0)) = false := by
      simp [hcoins, hgems]
    exact ⟨congrArg (· || item.onSale) hsale, if_neg (ne_of_eq_of_ne hsale Bool.false_ne_true)⟩

/-- Merging a change into an item that has been written with it leaves the item. -/
theorem apply_rewritten (c : Merge) (now : Instant) (item : Item) :
    c.apply (item.rewritten now (c.apply item)) = item.rewritten now (c.apply item) := by
  obtain ⟨stamp, -, heq⟩ := Item.rewritten_eq now item (c.apply item)
  rw [heq]
  show { c.apply (c.apply item) with updatedAt := stamp } = { c.apply item with updatedAt := stamp }
  rw [Merge.apply_apply]

/-- **A second update with the same arguments changes nothing** and gives the same item, at
whatever moment. -/
theorem update_again (hd : d.Ready) (hm : m.fault = none) (hs : d.store.Sound)
    (hreads : change.Reads r) (hid : Input.Names id "id" item.id)
    (hitem : item ∈ d.store.items) (hdomain : item.InDomain) (hmerged : r.merge.apply item = item) :
    update m id change d = .ok item d := by
  have hfree : ∀ j ∈ d.store.items, j.id ≠ item.id →
      (j.name, j.slot) ≠ (item.name, item.slot) ∧ j.imageId ≠ item.imageId := by
    intro j hj hne
    refine ⟨fun hname => hne ?_, fun himage => hne ?_⟩
    · exact (Rows.eq_of_key hs.itemNames hj hitem hname : j = item) ▸ rfl
    · exact (Rows.eq_of_key hs.itemImages hj hitem himage : j = item) ▸ rfl
  have h := update_ready hd hm hs hreads hid hitem (hmerged.symm ▸ hdomain)
    (hmerged.symm ▸ hfree)
  rwa [hmerged, Item.rewritten_self, Rows.put_of_mem hs.itemIds hitem] at h

end Catalogue

/-! ### Announcements -/

/-- An announcement with what an update says. -/
def News.merged (n : News) (title description imageLink : String) : News :=
  { n with
    title := orText title n.title
    description := orText description n.description
    imageLink := orText imageLink n.imageLink }

theorem News.merged_merged (n : News) (t x l : String) :
    (n.merged t x l).merged t x l = n.merged t x l := by
  unfold merged
  rw [orText_orText, orText_orText, orText_orText]

namespace Bulletin

variable {id title description imageLink : Value} {t x l : String} {news : News}

/-- **Updating an announcement** with arguments that are in order and a title that no other
one has. -/
theorem update_ready (hd : d.Ready) (hm : m.fault = none) (hs : d.store.Sound)
    (htitle : Input.Says (some Input.titleLimit) title t)
    (hdescription : Input.Says none description x)
    (hlink : Input.Says (some linkLimit) imageLink l)
    (hid : Input.Names id "id" news.id) (hnews : news ∈ d.store.news)
    (hfree : ∀ n ∈ d.store.news, n.id ≠ news.id → n.title ≠ (news.merged t x l).title) :
    update m id title description imageLink d = .ok (news.merged t x l) { d with
      store := { d.store with
        news := Rows.put (·.id) (news.merged t x l) d.store.news } } := by
  have hold : d.store.news? news.id = some news :=
    (Rows.find?_eq_some_iff hs.newsIds fun _ => beq_iff_eq).2 ⟨hnews, rfl⟩
  have hwrite : d.store.writeNews (news.merged t x l) = .ok { d.store with
      news := Rows.put (·.id) (news.merged t x l) d.store.news } :=
    Store.writeNews_eq_ok.2 ⟨hfree, rfl⟩
  have hlook : t ≠ "" →
      ensureFree (d.store.news.filter (·.id != news.id)) title t = .ok () := by
    intro hne
    rw [ensureFree_eq htitle.checkBytes, firstTaken_eq_ok]
    refine List.forall_mem_singleton.2 (List.any_eq_false.2 fun n hn hsame => ?_)
    obtain ⟨hmem, hother⟩ := List.mem_filter.1 hn
    refine hfree n hmem (bne_iff_ne.1 hother) ((beq_iff_eq.1 hsame).trans ?_)
    exact (if_neg hne).symm
  unfold update
  rw [hid.check, htitle.optionalText, hdescription.optionalText, hlink.optionalText]
  refine reporting_ready (transaction_ready hd ?_ (hd.holding _ _))
  have hrest : (do
      checkBytes description
      checkBytes imageLink
      run (·.writeNews (news.merged t x l))
      flush m .news
      return news.merged t x l : Session News) d = .ok (news.merged t x l) { d with
        store := { d.store with news := Rows.put (·.id) (news.merged t x l) d.store.news } } := by
    rw [hdescription.checkBytes, hlink.checkBytes]
    show (run _ >>= _) d = _
    rw [bind_ready (run_ready hd hwrite)]
    exact bind_ready (flush_ready (hd.holding _ _) hm)
  rw [bind_ready (storeFor_ready hd hid.bytes), hold]
  dsimp only
  rw [getD_eq_orText, getD_eq_orText, getD_eq_orText]
  -- The title is looked at only if there is one.
  by_cases hblank : t = ""
  · rw [if_pos hblank]
    exact hrest
  · rw [if_neg hblank]
    dsimp only
    rw [bind_ready (store_ready hd), hlook hblank]
    exact hrest

theorem update_again (hd : d.Ready) (hm : m.fault = none) (hs : d.store.Sound)
    (htitle : Input.Says (some Input.titleLimit) title t)
    (hdescription : Input.Says none description x)
    (hlink : Input.Says (some linkLimit) imageLink l)
    (hid : Input.Names id "id" news.id) (hnews : news ∈ d.store.news)
    (hmerged : news.merged t x l = news) :
    update m id title description imageLink d = .ok news d := by
  have hfree : ∀ n ∈ d.store.news, n.id ≠ news.id → n.title ≠ (news.merged t x l).title := by
    intro n hn hne hsame
    rw [hmerged] at hsame
    exact hne ((Rows.eq_of_key hs.newsTitles hn hnews hsame : n = news) ▸ rfl)
  have h := update_ready hd hm hs htitle hdescription hlink hid hnews hfree
  rwa [hmerged, Rows.put_of_mem hs.newsIds hnews] at h

end Bulletin

/-! ### The theorem -/

/-- **What an update makes of an item or of an announcement**, at every store that a run
from empty tables reaches and for all arguments that are in order and collide with no other
row.  What is said replaces what was there and the rest is kept, in this row and in all of
the tables; the row is the answer.  The same update made again gives the same answer and
leaves the desk as it is. -/
theorem update_merges {service : Service} {desk : Desk} {steps : List Step}
    (hstore : d.store = (service.run { desk with store := {} } steps).store) (hd : d.Ready)
    (hm : m.fault = none) :
    (∀ id change r, Catalogue.Change.Reads change r →
      ∀ item ∈ d.store.items, Input.Names id "id" item.id →
        (∀ j ∈ d.store.items, j.id ≠ item.id →
          (j.name, j.slot) ≠ (orText r.name item.name, Catalogue.orNumber r.slot item.slot) ∧
            j.imageId ≠ orText r.imageId item.imageId) →
        ∃ new s, r.Merged m.now item new ∧
          s = { d.store with items := Rows.put (·.id) new d.store.items } ∧
          service.perform m (.updateItem id change) d = .ok (.item new) { d with store := s } ∧
          ∀ m', m'.fault = none →
            service.perform m' (.updateItem id change) { d with store := s } =
              .ok (.item new) { d with store := s }) ∧
    ∀ id title description imageLink t x l,
      Input.Says (some Input.titleLimit) title t → Input.Says none description x →
      Input.Says (some Bulletin.linkLimit) imageLink l →
      ∀ news ∈ d.store.news, Input.Names id "id" news.id →
        (∀ n ∈ d.store.news, n.id ≠ news.id → n.title ≠ orText t news.title) →
        ∃ new s, new = { news with
            title := orText t news.title
            description := orText x news.description
            imageLink := orText l news.imageLink } ∧
          s = { d.store with news := Rows.put (·.id) new d.store.news } ∧
          service.perform m (.updateNews id title description imageLink) d =
            .ok (.news new) { d with store := s } ∧
          ∀ m', m'.fault = none →
            service.perform m' (.updateNews id title description imageLink) { d with store := s } =
              .ok (.news new) { d with store := s } := by
  have hs : d.store.Sound := hstore ▸ (service.chronicle _ steps).sound .empty
  have hdomain : d.store.InDomain :=
    hstore ▸ (service.chronicle { desk with store := {} } steps).inDomain
  constructor
  · intro id change r hreads item hitem hid hfree
    have hslot : (r.merge.apply item).slot ≤ greatestStored :=
      Catalogue.orNumber_cases (P := (· ≤ greatestStored)) (hreads.slot.le (by decide))
        (hdomain.items item hitem).slot.2
    have hin := (Catalogue.Change.inDomain_of_check hreads.check).apply (hdomain.items item hitem)
      hslot
    have hmerged := Catalogue.merged_rewritten r m.now item
    have hfirst : service.perform m (.updateItem id change) d = _ :=
      bind_ready (Catalogue.update_ready hd hm hs hreads hid hitem hin fun j hj hne => ?_)
    · have hdeed := Service.deed_of_perform hfirst
      have hnew := Rows.mem_put_of_mem (k := (·.id)) hitem hmerged.id.symm
      refine ⟨_, _, hmerged, rfl, hfirst, fun m' hm' => bind_ready ?_⟩
      exact Catalogue.update_again (hd.holding _ _) hm' (hs.deed hdeed) hreads
        (hmerged.id.symm ▸ hid) hnew ((hdomain.deed hdeed hs).items _ hnew)
        (Catalogue.apply_rewritten _ _ _)
    · have hothers := hfree j hj hne
      rwa [← getD_eq_orText, ← getD_eq_orText] at hothers
  · intro id title description imageLink t x l htitle hdescription hlink news hnews hid hfree
    have hfirst : service.perform m (.updateNews id title description imageLink) d = _ :=
      bind_ready (Bulletin.update_ready hd hm hs htitle hdescription hlink hid hnews hfree)
    have hdeed := Service.deed_of_perform hfirst
    have hnew : news.merged t x l ∈ Rows.put (·.id) (news.merged t x l) d.store.news :=
      Rows.mem_put_of_mem hnews rfl
    refine ⟨news.merged t x l, _, rfl, rfl, hfirst, fun m' hm' => bind_ready ?_⟩
    exact Bulletin.update_again (hd.holding _ _) hm' (hs.deed hdeed) htitle hdescription hlink hid
      hnew (News.merged_merged news t x l)

namespace Poster

/-- An announcement. -/
def news : News := { id := "news", title := "Sale", imageLink := "p", createdAt := ⟨0⟩ }

/-- The desk with the hat on sale and the announcement. -/
def desk : Desk := { store := { items := [Savings.hat], news := [news] } }

/-- Ids to come. -/
def start : Desk := { supply := { prepared := ["hat", "news"] } }

/-- The calls that lead there. -/
def steps : List Step :=
  [⟨Savings.noon, .createItem { name := .text "hat", slot := .int 1, imageId := .text "p",
                                coins := .int 5, onSale := .bool true, saleCoins := .int 3 }⟩,
    ⟨Savings.noon, .createNews (.text "Sale") .null (.text "p")⟩]

theorem run_steps :
    desk.store = (Savings.service.run { start with store := {} } steps).store := rfl

/-- A change that gives a name, a blank description, no slot and prices. -/
def change : Catalogue.Change :=
  { name := .text " cap ", description := .text " ", slot := .int 0, coins := .int 7,
    saleGems := .int 1 }

theorem reads_change : change.Reads
    { name := "cap", slot := 0, imageId := "", description := "", coins := 7, gems := 0,
      saleCoins := 0, saleGems := 1 } where
  name := .text (by decide)
  slot := .number rfl (by decide) (by decide)
  imageId := .nothing
  description := .text nofun
  coins := .number rfl (by decide) (by decide)
  gems := .nothing
  saleCoins := .nothing
  saleGems := .number rfl (by decide) (by decide)

end Poster

open Poster in
/-- The hat becomes a cap for 7 coins that is on sale for a gem; the announcement gets a
text and keeps its title. -/
theorem update_merges_poster :
    (∃ new s, new.name = "cap" ∧ new.slot = 1 ∧ new.base.coins = 7 ∧ new.sale = ⟨0, 1⟩ ∧
      Savings.service.perform Savings.noon (.updateItem (.text "hat") change) desk =
        .ok (.item new) { desk with store := s }) ∧
    ∃ new s, new = { news with description := "Hats" } ∧
      Savings.service.perform Savings.noon
          (.updateNews (.text "news") (.text " ") (.text "Hats ") .null) desk =
        .ok (.news new) { desk with store := s } := by
  obtain ⟨hitems, hnews⟩ := update_merges (m := Savings.noon) run_steps ⟨rfl, rfl, rfl⟩ rfl
  constructor
  · obtain ⟨new, s, hmerged, -, hperform, -⟩ :=
      hitems (.text "hat") _ _ reads_change Savings.hat (.head _) (Input.names_text rfl) (by decide)
    exact ⟨new, s, hmerged.name, hmerged.slot, hmerged.coins, (hmerged.sale (by decide)).2,
      hperform⟩
  · obtain ⟨new, s, hmerged, -, hperform, -⟩ :=
      hnews (.text "news") (.text " ") (.text "Hats ") .null "" "Hats" "" (.text (by decide))
        (.text nofun) .nothing news (.head _) (Input.names_text rfl) (by decide)
    exact ⟨new, s, hmerged, hperform⟩

end Guildhall
