/-
Guildhall/Lifecycle.lean

Starting and stopping.  The storage is opened and closed, and the services
are started and stopped, each on its own and any number of times.  Starting
what is up and stopping what is down changes nothing; a storage that cannot
be opened stays closed and may be opened later.
-/
import Guildhall.Service
import Guildhall.Store.Engine
import Guildhall.Store.Maintenance

namespace Guildhall.Lifecycle

/-- What surrounds the steps. -/
structure Surroundings where
  now : Instant
  settings : Settings
  /-- The directories that exist. -/
  directories : List String
  /-- Whether connecting at an address ends in an error that is none of the storage, as
  it does where no server answers. -/
  strays : String → Bool := fun url => Engine.place? url == some .server

/-! ### The storage -/

/-- A storage that may be open. -/
structure Storage where
  /-- Where it is, if it is open. -/
  place : Option Engine.Place := none
  desk : Desk := { link := .closed, tables := false }
  /-- The tables of the places that were closed, except those in memory. -/
  kept : List (Engine.Place × Store) := []
  deriving Repr

namespace Storage

/-- The connection at an address, which leads to a place. -/
def linkTo (around : Surroundings) (url : String) (place : Engine.Place) : Link :=
  if around.strays url then .unanswered
  else
    match place with
    | .memory | .server => .up
    | .file path =>
      if around.directories.contains (Engine.directoryOf path) then .up else .broken

/-- A closed storage, opened at an address, which leads to a place.  Nothing is sent there
yet. -/
def openAt (around : Surroundings) (url : String) (place : Engine.Place) (s : Storage) : Storage :=
  let tables := s.kept.lookup place
  { s with
    place := some place
    desk := { s.desk with
      link := linkTo around url place
      tables := tables.isSome
      store := tables.getD {} } }

/-- Opens the storage at an address; that of the settings counts if the address is
empty. -/
def open? (around : Surroundings) (address : String) (s : Storage) : Except Stop Storage :=
  if s.place.isSome then .ok s
  else
    let url := if address.isEmpty then around.settings.databaseUrl else address
    if url.isEmpty then .error (.notReady .address)
    else
      match Engine.place? url with
      | none => .error (.notReady .engine)
      | some place => .ok (s.openAt around url place)

/-- Closes the storage.  One in memory loses its tables. -/
def close (s : Storage) : Storage :=
  match s.place with
  | none => s
  | some place =>
    let others := s.kept.filter (·.1 != place)
    { place := none
      desk := { s.desk with link := .closed, tables := false, store := {} }
      kept :=
        if place = .memory || !s.desk.tables then others else (place, s.desk.store) :: others }

/-- Whether the storage answers.  Only what the storage itself reports counts as a
no; where nothing answers, the question is stopped as well. -/
def health (s : Storage) : Except Stop Bool :=
  match s.desk.link with
  | .up => .ok true
  | .broken | .closed => .ok false
  | .unanswered => .error .unreachable

/-- Runs work on the storage. -/
def run {α : Type} (work : Session α) (s : Storage) : Except Stop α × Storage :=
  match work s.desk with
  | .ok a desk => (.ok a, { s with desk })
  | .error stop desk => (.error stop, { s with desk })

end Storage

/-! ### The services -/

/-- The services by name, and their kinds. -/
def serviceKinds : List (String × String) :=
  [("users", "UsersService"), ("currencies", "CurrenciesService"),
    ("store_items", "StoreItemsService"), ("purchase", "PurchaseService"),
    ("equip", "EquipService"), ("stats", "UsersStatsService"), ("news", "NewsService")]

/-- The services, which may be running. -/
structure Container where
  service : Service
  running : Bool := false
  /-- How often the services have been started. -/
  starts : Nat := 0
  /-- For each service that was asked for, the start that it was from. -/
  handedOut : List (String × Nat) := []

namespace Container

/-- Starts the services. -/
def start (c : Container) : Container :=
  if c.running then c else { c with running := true, starts := c.starts + 1 }

/-- Stops the services. -/
def stop (c : Container) : Container := { c with running := false }

/-- How many services there are. -/
def count (c : Container) : Nat := if c.running then serviceKinds.length else 0

/-- The running services. -/
def services (c : Container) : Except Stop Service :=
  if c.running then .ok c.service else .error (.notReady .services)

/-- The kind of a service, and whether it is the one that was handed out last
under its name. -/
def handOut (name : String) (c : Container) : Except Stop (String × Bool) × Container :=
  match c.services, serviceKinds.lookup name with
  | .ok _, some kind =>
    let same := c.handedOut.lookup name == some c.starts
    (.ok (kind, same), { c with handedOut := (name, c.starts) :: c.handedOut })
  | _, _ => (.error (.notReady .services), c)

end Container

/-! ### Both together -/

/-- A storage and the services on it. -/
structure House where
  storage : Storage := {}
  container : Container

/-- A step in the life of a house. -/
inductive Step
  | start
  | stop
  | isRunning
  | health
  | version
  | service (name : String)
  | openStorage (address : String)
  | closeStorage
  | makeTables
  | dropTables
  | storageHealth
  | probe
  | count (table : String)
  | addNews (title : Value)

namespace House

/-- The state of the services and, while they run, of the storage under them. -/
def health (h : House) : Except Stop Value := do
  let database ← if h.container.running then h.storage.health else .ok false
  return .object [("initialized", .bool h.container.running),
    ("service_count", .int h.container.count),
    ("startup_seconds", .bool (0 < h.container.starts)),
    ("database", .bool database)]

/-- The number of rows of a table. -/
def countRows (name : String) : Session Value :=
  Session.transaction do
    match Table.ofName? name with
    | some table => return .int ((← Session.store).records table).length
    | none => throw .storage

/-- Work on the storage, as a step. -/
def onStorage (h : House) (work : Session Value) : Except Stop Value × House :=
  let (result, storage) := h.storage.run work
  (result, { h with storage })

/-- Adds an announcement; answers its title. -/
def addNews (now : Instant) (title : Value) : Session Value :=
  return .text (← Bulletin.create { now } title (.text "") (.text "")).title

/-- Takes a step. -/
def take (around : Surroundings) (h : House) : Step → Except Stop Value × House
  | .start => (.ok .null, { h with container := h.container.start })
  | .stop => (.ok .null, { h with container := h.container.stop })
  | .isRunning => (.ok (.bool h.container.running), h)
  | .health => (h.health, h)
  | .version =>
    (h.container.services.map fun s => .object [("version", .text s.version)], h)
  | .service name =>
    let (result, container) := h.container.handOut name
    (result.map fun (kind, same) =>
      .object [("class", .text kind), ("same_as_before", .bool same)], { h with container })
  | .openStorage address =>
    match h.storage.open? around address with
    | .ok storage => (.ok .null, { h with storage })
    | .error stop => (.error stop, h)
  | .closeStorage => (.ok .null, { h with storage := h.storage.close })
  | .makeTables => h.onStorage do
    Maintenance.makeTables
    return .null
  | .dropTables => h.onStorage do
    Maintenance.dropTables
    return .null
  | .storageHealth => (h.storage.health.map .bool, h)
  | .probe => h.onStorage do
    Maintenance.checkLink
    return .int 1
  | .count table => h.onStorage (countRows table)
  | .addNews title =>
    match h.container.services with
    | .error stop => (.error stop, h)
    | .ok _ => h.onStorage (addNews around.now title)

end House

end Guildhall.Lifecycle
