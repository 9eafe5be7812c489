/-
Guildhall/Proofs/Statistics.lean

Statistics in tables that fit together.  Users and rows of statistics belong
together one by one, so the statistics of a name are one row if a user has the
name; a profile is reported as corrupted only for a name that nobody has.

Main statement: `tables_fit_together`, about the tables that any run from empty
ones reaches.
-/
import Guildhall.Proofs.Arrival
import Guildhall.Proofs.Integrity
import Guildhall.Proofs.Stopping

namespace Guildhall

/-! ### Rows of a user -/

namespace Store.Sound

variable {s : Store} {u : User} {row : Stats}

theorem statsUserIds (hs : s.Sound) : (s.stats.map (·.userId)).Nodup :=
  hs.statsUsers.nodup_iff.2 hs.userIds

/-- Statistics are of a user who exists. -/
theorem exists_user_of_stats (hs : s.Sound) (hrow : row ∈ s.stats) :
    ∃ u ∈ s.users, u.id = row.userId :=
  List.mem_map.1 (hs.statsUsers.subset (List.mem_map.2 ⟨row, hrow, rfl⟩))

/-- A user has statistics, and they are one row. -/
theorem exists_stats_of_user (hs : s.Sound) (hu : u ∈ s.users) :
    ∃ row, row.userId = u.id ∧ s.stats.filter (·.userId == u.id) = [row] := by
  have hmem : u.id ∈ s.stats.map (·.userId) :=
    hs.statsUsers.symm.subset (List.mem_map.2 ⟨u, hu, rfl⟩)
  obtain ⟨row, hrow, hid⟩ := List.mem_map.1 hmem
  refine ⟨row, hid, ?_⟩
  rw [← hid]
  exact Rows.filter_key hs.statsUserIds hrow

/-- The statistics of a name are those of the user who has it. -/
theorem statsOf_name (hs : s.Sound) (hu : u ∈ s.users) :
    s.statsOf u.name = s.stats.filter (·.userId == u.id) := by
  unfold statsOf
  apply List.filter_congr
  intro row hrow
  obtain ⟨v, hv, hid⟩ := hs.exists_user_of_stats hrow
  rw [(user?_eq_some_iff hs.userIds).2 ⟨hv, hid⟩, Option.any_some, ← hid, Bool.eq_iff_iff,
    beq_iff_eq, beq_iff_eq]
  -- Names and ids are both unique.
  constructor
  · intro hname
    rw [Rows.eq_of_key hs.userNames hv hu hname]
  · intro hid
    rw [Rows.eq_of_key hs.userIds hv hu hid]

/-- The statistics of a user are found by the name. -/
theorem singleRow_name (hs : s.Sound) (hu : u ∈ s.users) :
    ∃ row, Scoreboard.singleRow s u.name = .ok row ∧ row.userId = u.id := by
  obtain ⟨row, hid, hrows⟩ := hs.exists_stats_of_user hu
  refine ⟨row, ?_, hid⟩
  unfold Scoreboard.singleRow
  rw [hs.statsOf_name hu, hrows]

/-- They are the row of the user. -/
theorem singleRow_of_mem (hs : s.Sound) (hu : u ∈ s.users) (hrow : row ∈ s.stats)
    (huser : row.userId = u.id) : Scoreboard.singleRow s u.name = .ok row := by
  obtain ⟨row', hrow', huser'⟩ := hs.singleRow_name hu
  have hmem := Scoreboard.mem_of_singleRow hrow'
  rw [hrow', Rows.eq_of_key hs.statsUserIds hmem hrow (huser'.trans huser.symm)]

end Store.Sound

/-! ### Corrupted profiles -/

namespace Scoreboard

open Session

variable {m : Moment} {d : Desk} {username : Value}

/-- The failure that tells of a corrupted profile. -/
def IsCorruption (f : Failure) : Prop := ∃ details, f = .internal corrupted details

/-- A complaint about a field does not tell of a corrupted profile. -/
theorem not_isCorruption {α : Type} (args : List Value) {x : Except Stop α}
    (hx : Input.Complains args x) :
    ∀ f, x = .error (.failure f) → ¬IsCorruption f := by
  rintro f h ⟨details, rfl⟩
  cases hx _ h

theorem not_isCorruption_storageFailure {operation message : String}
    {details : List (String × Value)} (h : message ≠ corrupted) :
    ¬IsCorruption (storageFailure operation message details) := by
  rintro ⟨_, heq⟩
  injection heq with hmessage
  exact h hmessage

/-- Reading the row of a name that a user has. -/
theorem avoids_singleRow (hs : d.store.Sound) {name : String}
    (hname : ∃ u ∈ d.store.users, u.name = name) :
    ∀ f, singleRow d.store name = .error (.failure f) → ¬IsCorruption f := by
  obtain ⟨u, hu, rfl⟩ := hname
  obtain ⟨row, hrow, -⟩ := hs.singleRow_name hu
  intro f h
  rw [hrow] at h
  cases h

theorem avoids_read (m : Moment) (hs : d.store.Sound)
    (hname : ∀ name, readName username = .ok name → ∃ u ∈ d.store.users, u.name = name) :
    Avoids IsCorruption m (read username) d := by
  refine .after (not_isCorruption [] Input.complains_text) fun name hread => ?_
  refine .reportingAs (.transaction ?_) (not_isCorruption_storageFailure (by decide))
  refine avoids_storeFor.bind fun s d' hstore => ?_
  obtain ⟨rfl, -⟩ := storeFor_eq_ok hstore
  exact .after (avoids_singleRow hs (hname name hread)) fun _ _ => avoids_pure

theorem avoids_add (m : Moment) (deltas : Deltas) (hs : d.store.Sound)
    (hname : ∀ name, readName username = .ok name → ∃ u ∈ d.store.users, u.name = name) :
    Avoids IsCorruption m (add m username deltas) d := by
  refine .after (not_isCorruption [] Input.complains_text) fun name hread => ?_
  refine .after (not_isCorruption [_] (Input.complains_amount (.head _))) fun _ _ => ?_
  refine .after (not_isCorruption [_] (Input.complains_amount (.head _))) fun _ _ => ?_
  refine .after (not_isCorruption [_] (Input.complains_amount (.head _))) fun _ _ => ?_
  refine .after (not_isCorruption [_] (Input.complains_amount (.head _))) fun _ _ => ?_
  refine .reportingAs (.transaction ?_) (not_isCorruption_storageFailure (by decide))
  refine avoids_storeFor.bind fun s d' hstore => ?_
  obtain ⟨rfl, -⟩ := storeFor_eq_ok hstore
  refine .after (avoids_singleRow hs (hname name hread)) fun _ _ => ?_
  refine .after (not_isCorruption [] Input.complains_total) fun _ _ => ?_
  refine .after (not_isCorruption [] Input.complains_total) fun _ _ => ?_
  refine .after (not_isCorruption [] Input.complains_total) fun _ _ => ?_
  refine .after (not_isCorruption [] Input.complains_total) fun _ _ => ?_
  -- A statement stops with the limits of its columns, and with no failure.
  have hwrite : ∀ (s : Store) (row : Stats) (f : Failure),
      s.writeStats row = .error (.failure f) → ¬IsCorruption f := by
    intro s row f h
    unfold Store.writeStats checkFits at h
    split at h <;> cases h
  exact (avoids_run (hwrite _ _)).bind fun _ _ _ => avoids_flush.bind fun _ _ _ => avoids_pure

end Scoreboard

/-- A profile is reported as corrupted by a call that reads or adds to the statistics
of a name. -/
def Service.ReportsCorruption (service : Service) (m : Moment) (d : Desk) (username : Value)
    (f : Failure) : Prop :=
  Scoreboard.IsCorruption f ∧ ∃ call d',
    (call = .readStats username ∨ ∃ deltas, call = .addStats username deltas) ∧
      service.perform m call d = .error (.failure f) d'

/-- In tables that fit together, a profile that is reported as corrupted is that of a
name nobody has; unless the storage says so itself. -/
theorem Service.ReportsCorruption.unknown {service : Service} {m : Moment} {d : Desk}
    {username : Value} {f : Failure} (h : service.ReportsCorruption m d username f)
    (hs : d.store.Sound) :
    Session.Brings m d (.failure f) ∨
      ∃ name, Scoreboard.readName username = .ok name ∧ ∀ u ∈ d.store.users, u.name ≠ name := by
  obtain ⟨hf, call, d', hcall, hperform⟩ := h
  by_cases hname : ∀ name, Scoreboard.readName username = .ok name →
      ∃ u ∈ d.store.users, u.name = name
  · -- The name is refused or somebody has it: neither call comes to this of its own.
    left
    rcases hcall with rfl | ⟨deltas, rfl⟩
    · have havoids := (Scoreboard.avoids_read m hs hname).bind fun score _ _ =>
        Session.avoids_pure (a := Answer.score score)
      exact havoids.brings hperform hf
    · have havoids := (Scoreboard.avoids_add m deltas hs hname).bind
        fun score _ _ => Session.avoids_pure (a := Answer.score score)
      exact havoids.brings hperform hf
  · right
    simp only [not_forall, not_exists, not_and] at hname
    obtain ⟨name, hread, hnobody⟩ := hname
    exact ⟨name, hread, hnobody⟩

/-- **Whatever calls are made from empty tables on, the tables fit together**: what
must be unique is, possessions are of users and items that exist, and every user
has one row of statistics, which is of nobody else.  So a profile is never reported
as corrupted but for a name that nobody has; unless it is the storage that says so.
The calls may come with any arguments and at any moment, and each of them may give
an answer or stop. -/
theorem tables_fit_together (service : Service) (d : Desk) (steps : List Step) :
    let s := (service.run { d with store := {} } steps).store
    s.Sound ∧
      (∀ u ∈ s.users, ∃ row, row.userId = u.id ∧ s.stats.filter (·.userId == u.id) = [row]) ∧
      (∀ row ∈ s.stats, ∃ u ∈ s.users, u.id = row.userId) ∧
      ∀ (m : Moment) (desk : Desk) (username : Value) (f : Failure), desk.store = s →
        service.ReportsCorruption m desk username f →
          Session.Brings m desk (.failure f) ∨
            ∃ name, Scoreboard.readName username = .ok name ∧ ∀ u ∈ s.users, u.name ≠ name := by
  intro s
  have hs : s.Sound := (service.chronicle { d with store := {} } steps).sound .empty
  refine ⟨hs, fun u hu => hs.exists_stats_of_user hu, fun row hrow => hs.exists_user_of_stats hrow,
    ?_⟩
  intro m desk username f hstore hreports
  rw [← hstore] at hs ⊢
  exact hreports.unknown hs

namespace Hall

/-- A service without a signing key. -/
def service : Service := ⟨⟨"HS256", .error .keyRejected, 3600000000, "guild", "guild", {}⟩, ""⟩

/-- Empty tables, and ids to come. -/
def desk : Desk := { supply := { prepared := ["u1", "s1"] } }

/-- The moment of every call. -/
def noon : Moment := ⟨⟨1000000⟩, none⟩

/-- Somebody registers. -/
def steps : List Step :=
  [⟨noon, .register (.text "ada") (.text "a@b.c") (.text "pw")⟩]

/-- The tables in the end. -/
def registered : Store :=
  { users :=
      [{ id := "u1", name := "ada", email := "a@b.c",
         password := "30c952fab122c3f9759f02a6d95c3758b246b4fee239957b2d4fee46e26170c4",
         createdAt := ⟨1000000⟩, updatedAt := ⟨1000000⟩ }]
    stats := [{ id := "s1", userId := "u1" }] }

theorem store_run : (service.run { desk with store := {} } steps).store = registered :=
  congrArg (·.store) (service.run_ada noon.now "u1" "s1" [] [])

end Hall

open Hall in
/-- After one registration a profile is reported as corrupted, but under a name that
nobody has. -/
theorem tables_fit_together_hall :
    (service.run { desk with store := {} } steps).store = registered ∧
      ∃ f, service.ReportsCorruption noon { store := registered } (.text "bob") f ∧
        ∀ u ∈ registered.users, u.name ≠ "bob" := by
  have hreports : ∃ f, service.ReportsCorruption noon { store := registered } (.text "bob") f :=
    ⟨_, ⟨_, rfl⟩, .readStats (.text "bob"), _, .inl rfl, rfl⟩
  obtain ⟨f, hreports⟩ := hreports
  refine ⟨store_run, f, hreports, ?_⟩
  obtain ⟨-, -, -, hunknown⟩ := tables_fit_together service desk steps
  rw [store_run] at hunknown
  rcases hunknown noon { store := registered } (.text "bob") f rfl hreports with hbrings | hname
  · -- Nothing is wrong with the storage.
    rcases hbrings with htrouble | ⟨site, hfault⟩
    · cases htrouble
    · cases hfault
  · obtain ⟨name, hread, hnobody⟩ := hname
    obtain rfl : "bob" = name := Except.ok.inj hread
    exact hnobody

end Guildhall
