/-
Guildhall/Proofs/Housekeeping.lean

A house over any number of steps.  The storage and the services are opened and closed,
started and stopped on their own and in any order, and what a call comes to is decided by
what has happened:

    the storage is open        if an opening succeeded since it was last closed,
    the services are running   if they were started since they were last stopped.

Each step keeps this (`Stay.Told.take`), and so every run does.  The state of the house is
reported whatever has happened, with one exception: the services are running, and connecting
at the address of the storage ends in an error that is none of the storage, as it does where
no server answers.

Main statement: `Stay.orderly`.
-/
import Guildhall.Lifecycle
import Guildhall.Proofs.Refusal

namespace Guildhall

open Session

namespace Lifecycle

/-! ### Houses with a past -/

/-- A step that was taken, and how it ended. -/
structure Event where
  step : Step
  ending : Except Stop Value

/-- A house and what has happened in it, the latest first. -/
structure Stay where
  house : House
  past : List Event := []

namespace Stay

/-- How a step ends. -/
def ending (around : Surroundings) (s : Stay) (step : Step) : Except Stop Value :=
  (s.house.take around step).1

/-- Takes a step. -/
def take (around : Surroundings) (s : Stay) (step : Step) : Stay :=
  { house := (s.house.take around step).2, past := ⟨step, s.ending around step⟩ :: s.past }

/-- What steps, each at its time, make of a house that has just been built: the storage is
closed and the services are down. -/
def after (around : Surroundings) (service : Service) (steps : List (Instant × Step)) : Stay :=
  steps.foldl (fun s (now, step) => s.take { around with now } step)
    { house := { container := { service } } }

end Stay

/-- The address of the opening that counts: the first one that succeeded since the storage
was last closed. -/
def openedAt : List Event → Option String
  | [] => none
  | ⟨.openStorage address, .ok _⟩ :: past => some ((openedAt past).getD address)
  | ⟨.closeStorage, _⟩ :: _ => none
  | _ :: past => openedAt past

/-- Whether an opening of the storage succeeded since it was last closed. -/
def wasOpened (past : List Event) : Bool := (openedAt past).isSome

/-- Whether the services were started since they were last stopped. -/
def wasStarted : List Event → Bool
  | [] => false
  | ⟨.start, .ok _⟩ :: _ => true
  | ⟨.stop, _⟩ :: _ => false
  | _ :: past => wasStarted past

/-- The address that counts: that of the settings if the given one is empty. -/
def Surroundings.url (around : Surroundings) (address : String) : String :=
  if address.isEmpty then around.settings.databaseUrl else address

/-- The place that an address leads to. -/
def Surroundings.place? (around : Surroundings) (address : String) : Option Engine.Place :=
  if (around.url address).isEmpty then none else Engine.place? (around.url address)

/-- The steps that ask the storage for something: a session, a transaction, or a change of
the tables. -/
def Step.isRequest : Step → Bool
  | .probe | .count _ | .makeTables | .dropTables => true
  | _ => false

/-! ### The storage -/

namespace Storage

variable {around : Surroundings} {s : Storage} {address : String}

theorem linkTo_ne_closed {url : String} {place : Engine.Place} :
    linkTo around url place ≠ .closed := by
  unfold linkTo
  split
  · exact nofun
  · split
    · exact nofun
    · exact nofun
    · split
      · exact nofun
      · exact nofun

theorem linkTo_eq_unanswered_iff {url : String} {place : Engine.Place} :
    linkTo around url place = .unanswered ↔ around.strays url = true := by
  unfold linkTo
  split
  · exact iff_of_true rfl ‹_›
  · refine iff_of_false ?_ ‹_›
    split
    · exact nofun
    · exact nofun
    · split
      · exact nofun
      · exact nofun

/-- A storage says whether it answers unless nothing does. -/
theorem health_error_iff : (∃ stop, s.health = .error stop) ↔ s.desk.link = .unanswered := by
  unfold health
  cases s.desk.link with
  | unanswered => exact iff_of_true ⟨_, rfl⟩ rfl
  | up | broken | closed => exact iff_of_false nofun nofun

theorem link_ne_closed_of_health (h : s.health = .ok true) : s.desk.link ≠ .closed := by
  intro hclosed
  unfold health at h
  rw [hclosed] at h
  cases h

theorem run_eq {α : Type} (work : Session α) (s : Storage) :
    s.run work = (outcome (work s.desk), { s with desk := left (work s.desk) }) := by
  unfold run
  cases work s.desk with
  | ok a d => rfl
  | error stop d => rfl

/-- Nothing happens to a storage that is open. -/
theorem open?_of_isSome (h : s.place.isSome = true) : s.open? around address = .ok s := if_pos h

theorem open?_of_none (h : s.place = none) :
    s.open? around address =
      if (around.url address).isEmpty then .error (.notReady .address)
      else
        match Engine.place? (around.url address) with
        | none => .error (.notReady .engine)
        | some place => .ok (s.openAt around (around.url address) place) := by
  unfold open?
  rw [h]
  rfl

/-- A closed storage is opened where the address leads. -/
theorem open?_of_place {place : Engine.Place} (h : s.place = none)
    (hplace : around.place? address = some place) :
    s.open? around address = .ok (s.openAt around (around.url address) place) := by
  unfold Surroundings.place? at hplace
  rw [open?_of_none h]
  by_cases hurl : (around.url address).isEmpty = true
  · rw [if_pos hurl] at hplace
    cases hplace
  · rw [if_neg hurl] at hplace ⊢
    rw [hplace]

/-- It is not opened if the address leads nowhere. -/
theorem open?_of_nowhere (h : s.place = none) (hplace : around.place? address = none) :
    ∃ stop, s.open? around address = .error stop := by
  unfold Surroundings.place? at hplace
  rw [open?_of_none h]
  by_cases hurl : (around.url address).isEmpty = true
  · exact ⟨_, if_pos hurl⟩
  · rw [if_neg hurl] at hplace ⊢
    rw [hplace]
    exact ⟨_, rfl⟩

/-- A storage that was closed is not closed again. -/
theorem close_of_none (h : s.place = none) : s.close = s := by
  unfold close
  rw [h]

theorem place_close : s.close.place = none := by
  unfold close
  cases h : s.place with
  | none => exact h
  | some place => rfl

theorem close_close : s.close.close = s.close := close_of_none place_close

end Storage

/-! ### The house -/

theorem Container.handOut_of_running {c : Container} {name kind : String}
    (hrunning : c.running = true) (hname : serviceKinds.lookup name = some kind) :
    ∃ same c', c.handOut name = (.ok (kind, same), c') := by
  unfold handOut services
  rw [if_pos hrunning, hname]
  exact ⟨_, _, rfl⟩

theorem Container.handOut_of_not_running {c : Container} {name : String}
    (hrunning : c.running = false) : c.handOut name = (.error (.notReady .services), c) := by
  unfold handOut services
  rw [if_neg (by rw [hrunning]; exact Bool.false_ne_true)]

theorem House.take_openStorage_of_ok {around : Surroundings} {h : House} {address : String}
    {storage : Storage} (hopen : h.storage.open? around address = .ok storage) :
    h.take around (.openStorage address) = (.ok .null, { h with storage }) := by
  unfold House.take
  dsimp only
  rw [hopen]

theorem House.take_openStorage_of_error {around : Surroundings} {h : House} {address : String}
    {stop : Stop} (hopen : h.storage.open? around address = .error stop) :
    h.take around (.openStorage address) = (.error stop, h) := by
  unfold House.take
  dsimp only
  rw [hopen]

/-- The rows of a table are counted in a transaction that leaves the connection alone. -/
theorem exists_countRows_eq (name : String) :
    ∃ work, House.countRows name = transaction work ∧ Anchored work ∧ Admitted work := by
  refine ⟨_, rfl, ?_, ?_⟩
  · cases Table.ofName? name with
    | none => exact fun _ hd => ⟨rfl, hd⟩
    | some table => exact steady_store.anchored.bind fun _ => steady_pure.anchored
  · intro d d' hd
    cases Table.ofName? name with
    | none => exact nofun
    | some table =>
      show EStateM.bind (EStateM.bind send fun _ => EStateM.bind get fun d => pure d.store) _ d ≠ _
      unfold EStateM.bind
      rw [send_of_calm hd]
      exact nofun

/-! ### What the past tells -/

/-- The connection that belongs to the opening that counts, if there is one. -/
def Surroundings.Leads (around : Surroundings) : Option String → Link → Prop
  | none, link => link = .closed
  | some address, link => ∃ place, link = Storage.linkTo around (around.url address) place

/-- The past of a house tells whether its storage is open and its services are running. -/
structure Stay.Told (around : Surroundings) (s : Stay) : Prop where
  opened : s.house.storage.place.isSome = wasOpened s.past
  link : around.Leads (openedAt s.past) s.house.storage.desk.link
  trouble : s.house.storage.desk.trouble = []
  started : s.house.container.running = wasStarted s.past

namespace Stay.Told

variable {around : Surroundings} {s : Stay}

theorem openedAt_eq_none (h : s.Told around) (hplace : s.house.storage.place = none) :
    openedAt s.past = none := by
  have hopened := h.opened
  rw [hplace] at hopened
  rw [← Option.isNone_iff_eq_none, ← Option.isSome_eq_false_iff]
  exact hopened.symm

theorem exists_openedAt (h : s.Told around) {place : Engine.Place}
    (hplace : s.house.storage.place = some place) : ∃ address, openedAt s.past = some address := by
  have hopened := h.opened
  rw [hplace] at hopened
  exact Option.isSome_iff_exists.1 hopened.symm

/-- Work on the storage changes rows and tables only. -/
theorem onStorage (h : s.Told around) {step : Step} {work : Session Value} (hwork : Anchored work)
    (htake : s.house.take around step = s.house.onStorage work)
    (hopened : ∀ e, openedAt (⟨step, e⟩ :: s.past) = openedAt s.past)
    (hstarted : ∀ e, wasStarted (⟨step, e⟩ :: s.past) = wasStarted s.past) :
    (s.take around step).Told around := by
  obtain ⟨hlink, htrouble⟩ := hwork s.house.storage.desk h.trouble
  have hhouse : (s.take around step).house =
      { s.house with
        storage := { s.house.storage with desk := left (work s.house.storage.desk) } } := by
    show (s.house.take around step).2 = _
    rw [htake, House.onStorage, Storage.run_eq]
  constructor
  · rw [hhouse]
    exact h.opened.trans (congrArg Option.isSome (hopened _)).symm
  · rw [hhouse]
    show around.Leads (openedAt (_ :: _)) _
    rw [hopened, hlink]
    exact h.link
  · rw [hhouse]
    exact htrouble
  · rw [hhouse]
    exact h.started.trans (hstarted _).symm

theorem openStorage (h : s.Told around) (address : String) :
    (s.take around (.openStorage address)).Told around := by
  unfold Stay.take Stay.ending
  cases hopen : s.house.storage.open? around address with
  | error stop =>
    rw [House.take_openStorage_of_error hopen]
    exact ⟨h.opened, h.link, h.trouble, h.started⟩
  | ok storage =>
    rw [House.take_openStorage_of_ok hopen]
    cases hplace : s.house.storage.place with
    | some place =>
      -- It was open, and is as it was; the earlier opening counts.
      rw [Storage.open?_of_isSome (by rw [hplace]; rfl)] at hopen
      cases hopen
      obtain ⟨first, hfirst⟩ := h.exists_openedAt hplace
      have hlink := h.link
      rw [hfirst] at hlink
      refine ⟨by rw [hplace]; rfl, ?_, h.trouble, h.started⟩
      show around.Leads (some ((openedAt s.past).getD address)) _
      rw [hfirst]
      exact hlink
    | none =>
      cases hlead : around.place? address with
      | none =>
        obtain ⟨stop, hstop⟩ := Storage.open?_of_nowhere hplace hlead
        rw [hstop] at hopen
        cases hopen
      | some place =>
        rw [Storage.open?_of_place hplace hlead] at hopen
        cases hopen
        refine ⟨rfl, ?_, h.trouble, h.started⟩
        show around.Leads (some ((openedAt s.past).getD address)) _
        rw [h.openedAt_eq_none hplace]
        exact ⟨place, rfl⟩

theorem closeStorage (h : s.Told around) : (s.take around .closeStorage).Told around := by
  unfold Stay.take Stay.ending House.take
  dsimp only
  cases hplace : s.house.storage.place with
  | none =>
    have hlink := h.link
    rw [h.openedAt_eq_none hplace] at hlink
    rw [Storage.close_of_none hplace]
    exact ⟨by rw [hplace]; rfl, hlink, h.trouble, h.started⟩
  | some place =>
    unfold Storage.close
    rw [hplace]
    exact ⟨rfl, rfl, h.trouble, h.started⟩

/-- **Every step keeps what the past tells.** -/
theorem take (h : s.Told around) (step : Step) : (s.take around step).Told around := by
  cases step with
  | start =>
    refine ⟨h.opened, h.link, h.trouble, ?_⟩
    show s.house.container.start.running = true
    unfold Container.start
    split
    · assumption
    · rfl
  | stop => exact ⟨h.opened, h.link, h.trouble, rfl⟩
  | isRunning | health | version | storageHealth => exact ⟨h.opened, h.link, h.trouble, h.started⟩
  | service name =>
    refine ⟨h.opened, h.link, h.trouble, ?_⟩
    have hrunning : (s.house.container.handOut name).2.running = s.house.container.running := by
      unfold Container.handOut
      split
      · rfl
      · rfl
    exact hrunning.trans h.started
  | openStorage address => exact h.openStorage address
  | closeStorage => exact h.closeStorage
  | makeTables =>
    exact h.onStorage (Maintenance.anchored_makeTables.bind fun _ => steady_pure.anchored) rfl
      (fun _ => rfl) fun _ => rfl
  | dropTables =>
    exact h.onStorage (Maintenance.anchored_dropTables.bind fun _ => steady_pure.anchored) rfl
      (fun _ => rfl) fun _ => rfl
  | probe =>
    exact h.onStorage (Maintenance.anchored_checkLink.bind fun _ => steady_pure.anchored) rfl
      (fun _ => rfl) fun _ => rfl
  | count table =>
    obtain ⟨work, heq, hwork, _⟩ := exists_countRows_eq table
    exact h.onStorage (heq ▸ hwork.transaction) rfl (fun _ => rfl) fun _ => rfl
  | addNews title =>
    cases hservices : s.house.container.services with
    | error stop =>
      have htake : s.house.take around (.addNews title) = (.error stop, s.house) := by
        rw [House.take, hservices]
      unfold Stay.take Stay.ending
      rw [htake]
      exact ⟨h.opened, h.link, h.trouble, h.started⟩
    | ok service =>
      have hwork : Anchored (House.addNews around.now title) :=
        Bulletin.anchored_create.bind fun _ => steady_pure.anchored
      exact h.onStorage hwork (by rw [House.take, hservices]) (fun _ => rfl) fun _ => rfl

end Stay.Told

/-- What the past tells does not depend on the time. -/
theorem Stay.Told.atTime {around : Surroundings} {s : Stay} (h : s.Told around) (now : Instant) :
    s.Told { around with now } :=
  ⟨h.opened, h.link, h.trouble, h.started⟩

/-- **The past tells how the house is**, whatever steps were taken. -/
theorem Stay.told_after (around : Surroundings) (service : Service)
    (steps : List (Instant × Step)) : (Stay.after around service steps).Told around := by
  have hrun : ∀ s : Stay, s.Told around →
      (steps.foldl (fun s (now, step) => s.take { around with now } step) s).Told around := by
    induction steps with
    | nil => exact fun s h => h
    | cons step steps ih =>
      exact fun s h => ih _ (((h.atTime step.1).take step.2).atTime around.now)
  exact hrun _ ⟨rfl, rfl, rfl, rfl⟩

/-! ### What a call comes to -/

/-- The services run on a storage that was opened at an address at which connecting ends in an
error that is none of the storage. -/
def Stay.IsStuck (around : Surroundings) (s : Stay) : Prop :=
  wasStarted s.past = true ∧
    ∃ address, openedAt s.past = some address ∧ around.strays (around.url address) = true

/-- What each call comes to, by what has happened. -/
structure Stay.Orderly (around : Surroundings) (s : Stay) : Prop where
  /-- A session, a transaction or a change of the tables is refused just when the storage is
  closed. -/
  requests : ∀ step, step.isRequest = true →
    (s.ending around step = .error (.notReady .storage) ↔ wasOpened s.past = false)
  /-- So is a transaction with any other work. -/
  transactions : ∀ work : Session Value, Anchored work → Admitted work →
    ((s.house.storage.run (transaction work)).1 = .error (.notReady .storage) ↔
      wasOpened s.past = false)
  /-- Opening succeeds if the storage is open or the address can be used, whatever was tried
  before. -/
  opens : ∀ address, s.ending around (.openStorage address) = .ok .null ↔
    wasOpened s.past = true ∨ (around.place? address).isSome
  /-- An opening that fails leaves a closed storage closed and the house as it was. -/
  fails : ∀ address stop, s.ending around (.openStorage address) = .error stop →
    wasOpened s.past = false ∧ (s.take around (.openStorage address)).house = s.house
  /-- Opening an open storage changes nothing at all, the rows included. -/
  again : wasOpened s.past = true →
    ∀ address, (s.take around (.openStorage address)).house = s.house
  /-- Closing and stopping succeed, and a second time they change nothing. -/
  closes : s.ending around .closeStorage = .ok .null ∧
    ((s.take around .closeStorage).take around .closeStorage).house =
      (s.take around .closeStorage).house
  stops : s.ending around .stop = .ok .null ∧
    ((s.take around .stop).take around .stop).house = (s.take around .stop).house
  /-- A service is refused just when the services are down. -/
  services : ∀ name kind, serviceKinds.lookup name = some kind →
    (s.ending around (.service name) = .error (.notReady .services) ↔ wasStarted s.past = false)
  /-- The state of the house is told except when nothing answers for the storage. -/
  stuck : (∃ stop, s.ending around .health = .error stop) ↔ s.IsStuck around
  /-- All services are counted or none, and the storage is up only if both are. -/
  health : ∀ report, s.ending around .health = .ok report → ∃ fields, report = .object fields ∧
    fields.lookup "initialized" = some (.bool (wasStarted s.past)) ∧
    fields.lookup "service_count" =
      some (.int (if wasStarted s.past then serviceKinds.length else 0)) ∧
    (fields.lookup "database" = some (.bool true) →
      wasStarted s.past = true ∧ wasOpened s.past = true)

namespace Stay.Told

variable {around : Surroundings} {s : Stay}

/-- The connection is closed just when nothing opened it. -/
theorem link_eq_closed_iff (h : s.Told around) :
    s.house.storage.desk.link = .closed ↔ wasOpened s.past = false := by
  have hlink := h.link
  unfold wasOpened
  cases hopened : openedAt s.past with
  | none =>
    rw [hopened] at hlink
    exact iff_of_true hlink rfl
  | some address =>
    rw [hopened] at hlink
    obtain ⟨place, hplace⟩ := hlink
    rw [hplace]
    exact iff_of_false Storage.linkTo_ne_closed nofun

theorem link_eq_unanswered_iff (h : s.Told around) :
    s.house.storage.desk.link = .unanswered ↔
      ∃ address, openedAt s.past = some address ∧ around.strays (around.url address) = true := by
  have hlink := h.link
  cases hopened : openedAt s.past with
  | none =>
    rw [hopened] at hlink
    rw [show s.house.storage.desk.link = .closed from hlink]
    exact iff_of_false nofun nofun
  | some address =>
    rw [hopened] at hlink
    obtain ⟨place, hplace⟩ := hlink
    rw [hplace, Storage.linkTo_eq_unanswered_iff]
    exact ⟨fun hstrays => ⟨address, rfl, hstrays⟩, fun ⟨_, rfl, hstrays⟩ => hstrays⟩

theorem ending_onStorage {step : Step} {work : Session Value}
    (htake : s.house.take around step = s.house.onStorage work) :
    s.ending around step = outcome (work s.house.storage.desk) := by
  rw [Stay.ending, htake, House.onStorage, Storage.run_eq]

theorem transactions (h : s.Told around) (work : Session Value) (hwork : Anchored work)
    (hadmitted : Admitted work) :
    (s.house.storage.run (transaction work)).1 = .error (.notReady .storage) ↔
      wasOpened s.past = false := by
  rw [Storage.run_eq, ← h.link_eq_closed_iff]
  exact transaction_refused_iff h.trouble hwork hadmitted

theorem requests (h : s.Told around) (step : Step) (hstep : step.isRequest = true) :
    s.ending around step = .error (.notReady .storage) ↔ wasOpened s.past = false := by
  rw [← h.link_eq_closed_iff]
  cases step with
  | probe =>
    rw [ending_onStorage rfl]
    exact Maintenance.refused_iff nofun
  | makeTables =>
    rw [ending_onStorage rfl, Maintenance.makeTables, bind_assoc]
    exact Maintenance.refused_iff nofun
  | dropTables =>
    rw [ending_onStorage rfl, Maintenance.dropTables, bind_assoc]
    exact Maintenance.refused_iff nofun
  | count table =>
    obtain ⟨work, heq, hwork, hadmitted⟩ := exists_countRows_eq table
    rw [ending_onStorage rfl, heq]
    exact transaction_refused_iff h.trouble hwork hadmitted
  | _ => cases hstep

theorem opens (h : s.Told around) (address : String) :
    s.ending around (.openStorage address) = .ok .null ↔
      wasOpened s.past = true ∨ (around.place? address).isSome := by
  rw [← h.opened]
  unfold Stay.ending
  cases hplace : s.house.storage.place with
  | some place =>
    have hopen : s.house.storage.open? around address = .ok s.house.storage :=
      Storage.open?_of_isSome (by rw [hplace]; rfl)
    rw [House.take_openStorage_of_ok hopen]
    exact iff_of_true rfl (.inl rfl)
  | none =>
    cases hlead : around.place? address with
    | some place =>
      rw [House.take_openStorage_of_ok (Storage.open?_of_place hplace hlead)]
      exact iff_of_true rfl (.inr rfl)
    | none =>
      obtain ⟨stop, hstop⟩ := Storage.open?_of_nowhere hplace hlead
      rw [House.take_openStorage_of_error hstop]
      exact iff_of_false nofun nofun

theorem fails (h : s.Told around) {address : String} {stop : Stop}
    (hend : s.ending around (.openStorage address) = .error stop) :
    wasOpened s.past = false ∧ (s.take around (.openStorage address)).house = s.house := by
  constructor
  · rw [← Bool.not_eq_true]
    intro hopen
    rw [(h.opens address).2 (.inl hopen)] at hend
    cases hend
  · unfold Stay.ending at hend
    show (s.house.take around (.openStorage address)).2 = _
    cases hopen : s.house.storage.open? around address with
    | error stop' => rw [House.take_openStorage_of_error hopen]
    | ok storage =>
      rw [House.take_openStorage_of_ok hopen] at hend
      cases hend

theorem again (h : s.Told around) (hopen : wasOpened s.past = true) (address : String) :
    (s.take around (.openStorage address)).house = s.house := by
  show (s.house.take around (.openStorage address)).2 = _
  rw [House.take_openStorage_of_ok (Storage.open?_of_isSome (h.opened.trans hopen))]

theorem services (h : s.Told around) {name kind : String}
    (hname : serviceKinds.lookup name = some kind) :
    s.ending around (.service name) = .error (.notReady .services) ↔ wasStarted s.past = false := by
  rw [← h.started]
  unfold Stay.ending House.take
  dsimp only
  cases hrunning : s.house.container.running with
  | true =>
    obtain ⟨same, c, heq⟩ := Container.handOut_of_running hrunning hname
    rw [heq]
    exact iff_of_false nofun nofun
  | false =>
    rw [Container.handOut_of_not_running hrunning]
    exact iff_of_true rfl rfl

/-- The storage is asked only while the services are running. -/
theorem ending_health (h : s.Told around) :
    s.ending around .health = (if wasStarted s.past then s.house.storage.health else .ok false).map
      fun database => .object [("initialized", .bool (wasStarted s.past)),
        ("service_count", .int (if wasStarted s.past then serviceKinds.length else 0)),
        ("startup_seconds", .bool (0 < s.house.container.starts)),
        ("database", .bool database)] := by
  unfold Stay.ending House.take House.health Container.count
  rw [h.started]
  cases wasStarted s.past with
  | true =>
    cases s.house.storage.health with
    | ok database => rfl
    | error stop => rfl
  | false => rfl

theorem stuck (h : s.Told around) :
    (∃ stop, s.ending around .health = .error stop) ↔ s.IsStuck around := by
  unfold Stay.IsStuck
  rw [h.ending_health, ← h.link_eq_unanswered_iff, ← Storage.health_error_iff]
  cases wasStarted s.past with
  | false => exact iff_of_false nofun nofun
  | true =>
    cases s.house.storage.health with
    | ok database => exact iff_of_false nofun nofun
    | error stop => exact iff_of_true ⟨stop, rfl⟩ ⟨rfl, stop, rfl⟩

theorem health (h : s.Told around) {report : Value}
    (hend : s.ending around .health = .ok report) :
    ∃ fields, report = .object fields ∧
      fields.lookup "initialized" = some (.bool (wasStarted s.past)) ∧
      fields.lookup "service_count" =
        some (.int (if wasStarted s.past then serviceKinds.length else 0)) ∧
      (fields.lookup "database" = some (.bool true) →
        wasStarted s.past = true ∧ wasOpened s.past = true) := by
  rw [h.ending_health] at hend
  cases hanswer : if wasStarted s.past then s.house.storage.health else .ok false with
  | error stop =>
    rw [hanswer] at hend
    cases hend
  | ok database =>
    rw [hanswer] at hend
    cases hend
    refine ⟨_, rfl, rfl, rfl, ?_⟩
    intro hup
    cases hup
    cases hstarted : wasStarted s.past with
    | false =>
      rw [hstarted] at hanswer
      cases hanswer
    | true =>
      rw [hstarted, if_pos rfl] at hanswer
      refine ⟨rfl, ?_⟩
      rw [← Bool.not_eq_false]
      intro hclosed
      exact Storage.link_ne_closed_of_health hanswer (h.link_eq_closed_iff.2 hclosed)

end Stay.Told

/-- **What each call comes to is decided by what has happened**, after any steps at any
times. -/
theorem Stay.orderly (around : Surroundings) (service : Service) (steps : List (Instant × Step)) :
    (Stay.after around service steps).Orderly around := by
  have h := Stay.told_after around service steps
  exact
    { requests := h.requests
      transactions := h.transactions
      opens := h.opens
      fails := fun _ _ => h.fails
      again := h.again
      closes := ⟨rfl, congrArg (House.mk · _) Storage.close_close⟩
      stops := ⟨rfl, rfl⟩
      services := fun _ _ => h.services
      stuck := h.stuck
      health := fun _ => h.health }

namespace Lighthouse

/-- Surroundings in which no server answers. -/
def fog : Surroundings := { now := ⟨1893456000000000⟩, settings := {}, directories := [] }

def service : Service := ⟨⟨"HS256", .error .keyRejected, 3600000000, "guild", "guild", {}⟩, ""⟩

/-- The storage is opened at a server, and then the services are started. -/
def steps : List (Instant × Step) :=
  [(fog.now, .openStorage "postgresql+asyncpg://u:p@127.0.0.1:1/d"), (fog.now, .start)]

/-- Both succeed, and then the state of the house is not told. -/
theorem no_report_of_silence :
    (Stay.after fog service steps).past.map (·.ending) = [.ok .null, .ok .null] ∧
      (Stay.after fog service steps).ending fog .health = .error .unreachable := by
  constructor
  · rfl
  · rfl

end Lighthouse

end Lifecycle

end Guildhall
