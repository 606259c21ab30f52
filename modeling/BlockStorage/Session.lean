import BlockStorage.Backend
import BlockStorage.Cloud
import BlockStorage.Settings

/-!
Sessions with a cloud. A session has two sides, one that finds machines and one that manages
volumes. Each side keeps the connection it uses. The compute side opens it when it is first needed
and the storage side takes it over from there, so both use one connection; after a side has been
closed it is closed for good.

Statements: a closed side gives no connection and asks for none (`computeConnection_closed`,
`storageConnection_closed`), and a side that has a connection gives that one
(`computeConnection_held`, `storageConnection_held`).
-/
namespace BlockStorage

/-- One side of a session. -/
structure Side where
  connection : Option Connection := none
  closed : Bool := false

def Side.connected (s : Side) : Bool := s.connection.isSome && !s.closed

/-- The machine that was last seen at an address, and the connection that showed it. -/
structure Sighting where
  machine : Value
  via : Connection

/-- A cloud in use. -/
structure Gateway where
  cloud : Cloud
  compute : Side := {}
  storage : Side := {}
  sightings : List (Value × Sighting) := []

/-- A cloud in use, and the world it is in. -/
structure Session (σ : Type) where
  world : World σ
  gateway : Gateway

/-- What operations are given: the cloud's behaviour, the settings, the names that providers are
known by, and the number of queries after which a wait is given up. -/
structure Context (σ : Type) where
  backend : Backend σ
  settings : Settings
  known : Cloud.Known
  patience : Nat

namespace Session

variable {σ α : Type}

/-- Acts on the world alone. -/
def inWorld (x : Run (World σ) α) : Run (Session σ) α := ⟨fun s =>
  let (o, world) := x.run s.world
  (o, { s with world })⟩

theorem run_inWorld (x : Run (World σ) α) (s : Session σ) :
    (inWorld x).run s = ((x.run s.world).1, { s with world := (x.run s.world).2 }) := rfl

def current : Run (Session σ) Gateway := do return (← Run.get).gateway

@[simp]
theorem run_current (s : Session σ) :
    (current : Run (Session σ) Gateway).run s = (.done s.gateway, s) := rfl

def modifyGateway (f : Gateway → Gateway) : Run (Session σ) Unit :=
  Run.modify fun s => { s with gateway := f s.gateway }

def request (ctx : Context σ) (via : Connection) (r : Request) : Run (Session σ) r.Answer :=
  inWorld (World.request ctx.backend via r)

def sleep (ctx : Context σ) (seconds : Value) : Run (Session σ) Unit :=
  inWorld (World.sleep ctx.backend seconds)

/-- The time now, in seconds. -/
def now (ctx : Context σ) : Run (Session σ) Float := do
  return ctx.backend.now (← Run.get).world.cloud

@[simp]
theorem run_now (ctx : Context σ) (s : Session σ) :
    (now ctx).run s = (.done (ctx.backend.now s.world.cloud), s) := rfl

/-! ### Connections -/

def closedFault (c : Cloud) : Fault :=
  .mentioning [c.title]
    (.because .cloudUnavailable ("Connection to " ++ c.display ++ " has been closed") none [])

/-- A connection could not be opened for a foreign reason. -/
def creationFault (f : Fault) : Fault :=
  .because .cloudUnavailable
    ("Failed creating cloud native context. Reason: " ++ f.text) (some f) []

/-- The driver that the settings name for the provider. -/
def driverOf (settings : Settings) : Except Fault Value := do
  (← settings.providers.item (.text "ec2")).item (.text "driver")

/-- Opens a connection for the cloud, if its class knows how. -/
def connect (ctx : Context σ) : Run (Session σ) Connection := do
  let c := (← current).cloud
  if c.cls.hasAccount then
    let driver ← Run.ofExcept (driverOf ctx.settings)
    inWorld (World.connect ctx.backend ⟨driver, c.apikey, c.apisecret, c.region⟩)
  else
    Run.fail (.foreign .unsupported none)

/-- The connection of the compute side, opened if there is none. -/
def computeConnection (ctx : Context σ) : Run (Session σ) Connection := do
  let g ← current
  if g.compute.closed then
    Run.fail (closedFault g.cloud)
  else match g.compute.connection with
    | some c => return c
    | none => do
      let c ← (connect ctx).wrapForeign creationFault
      modifyGateway fun g => { g with compute := { g.compute with connection := some c } }
      return c

/-- The connection of the storage side, which is that of the compute side unless it has one. -/
def storageConnection (ctx : Context σ) : Run (Session σ) Connection := do
  let g ← current
  if g.storage.closed then
    Run.fail (closedFault g.cloud)
  else match g.storage.connection with
    | some c => return c
    | none => do
      let c ← (computeConnection ctx).wrapForeign creationFault
      modifyGateway fun g => { g with storage := { g.storage with connection := some c } }
      return c

/-- Asks through the compute side. -/
def askCompute (ctx : Context σ) (r : Request) : Run (Session σ) r.Answer := do
  request ctx (← computeConnection ctx) r

/-- Asks through the storage side. -/
def askStorage (ctx : Context σ) (r : Request) : Run (Session σ) r.Answer := do
  request ctx (← storageConnection ctx) r

theorem computeConnection_closed (ctx : Context σ) (s : Session σ)
    (h : s.gateway.compute.closed = true) :
    (computeConnection ctx).run s = (.failed (closedFault s.gateway.cloud), s) := by
  simp [computeConnection, current, Run.run_bind, h]

theorem storageConnection_closed (ctx : Context σ) (s : Session σ)
    (h : s.gateway.storage.closed = true) :
    (storageConnection ctx).run s = (.failed (closedFault s.gateway.cloud), s) := by
  simp [storageConnection, current, Run.run_bind, h]

theorem computeConnection_held (ctx : Context σ) (s : Session σ) (c : Connection)
    (hc : s.gateway.compute.closed = false) (h : s.gateway.compute.connection = some c) :
    (computeConnection ctx).run s = (.done c, s) := by
  simp [computeConnection, current, Run.run_bind, hc, h]

theorem storageConnection_held (ctx : Context σ) (s : Session σ) (c : Connection)
    (hc : s.gateway.storage.closed = false) (h : s.gateway.storage.connection = some c) :
    (storageConnection ctx).run s = (.done c, s) := by
  simp [storageConnection, current, Run.run_bind, hc, h]

/-! ### Given connections -/

/-- The name of the part of a cloud that a connection must fit, if that part wants a driver. -/
def computeExpects (c : Cloud) : Option String :=
  if c.cls.hasAccount then some "AmazonComputeController" else none

def storageExpects (c : Cloud) : Option String :=
  if c.cls = .amazon then some "AmazonStorageController" else none

/-- Refuses a connection that is not what a side expects. -/
def checkFits (expects : Option String) (c : Connection) : Except Fault Unit :=
  match expects with
  | some part =>
    if c.kind = .foreign then
      .error (.because .cloudUnavailable
        ("Connection does not match " ++ part ++ ", expecting an instance of EC2NodeDriver")
        none [])
    else .ok ()
  | none => .ok ()

/-- Gives the compute side a connection to use. -/
def setComputeConnection (c : Connection) : Run (Session σ) Unit := do
  let g ← current
  Run.ofExcept (checkFits (computeExpects g.cloud) c)
  if g.compute.closed then Run.fail (closedFault g.cloud)
  else modifyGateway fun g => { g with compute := { g.compute with connection := some c } }

/-- Gives the storage side a connection to use. -/
def setStorageConnection (c : Connection) : Run (Session σ) Unit := do
  let g ← current
  Run.ofExcept (checkFits (storageExpects g.cloud) c)
  if g.storage.closed then Run.fail (closedFault g.cloud)
  else modifyGateway fun g => { g with storage := { g.storage with connection := some c } }

/-- Gives both sides a connection to use. -/
def setConnection (c : Connection) : Run (Session σ) Unit := do
  setComputeConnection c
  setStorageConnection c

/-! ### Closing -/

/-- Closes a connection if there is one, whatever the cloud says to it. -/
def hangUp (ctx : Context σ) : Option Connection → Run (Session σ) Unit
  | some c => (request ctx c .close).catching fun _ => pure ()
  | none => pure ()

/-- Lets go of the connection of the compute side, for good if `final`. -/
def releaseCompute (ctx : Context σ) (final : Bool) : Run (Session σ) Unit := do
  let g ← current
  modifyGateway fun g => { g with compute := ⟨none, g.compute.closed || final⟩ }
  hangUp ctx g.compute.connection

/-- Lets go of the connection of the storage side, for good if `final`. -/
def releaseStorage (ctx : Context σ) (final : Bool) : Run (Session σ) Unit := do
  let g ← current
  modifyGateway fun g => { g with storage := ⟨none, g.storage.closed || final⟩ }
  hangUp ctx g.storage.connection

/-- Forgets every address. -/
def forgetAll : Run (Session σ) Unit := modifyGateway fun g => { g with sightings := [] }

/-- Forgets an address, or every address if none is given. What can be no key is looked for only
where there are addresses. -/
def forget (address : Value) : Run (Session σ) Unit := do
  if address.isNull then forgetAll
  else if address.hashable || (← current).sightings.isEmpty then
    modifyGateway fun g =>
      { g with sightings := g.sightings.filter fun e => !e.1.equal address }
  else Run.fail (.unhashable address)

/-- Closes both sides for good. -/
def disconnect (ctx : Context σ) : Run (Session σ) Unit := do
  releaseStorage ctx true
  releaseCompute ctx true
  forgetAll

/-- The region of the cloud, which not every cloud has. -/
def region (c : Cloud) : Except Fault Value :=
  if c.cls.hasAccount then .ok c.region else .error (.missingAttribute c.cls.name "region")

/-- Moves to the region of a compute template, if that is another one. The connection to the old
region is closed, and what was seen there is forgotten. -/
def useComputeTemplate (ctx : Context σ) (name : Value) : Run (Session σ) Unit := do
  let g ← current
  let template ← Run.ofExcept (g.cloud.computeTemplate name)
  if template.location.truthy then
    let region ← Run.ofExcept (region g.cloud)
    if !template.location.equal region then
      if g.compute.closed then
        Run.fail (closedFault g.cloud)
      else
        modifyGateway fun g => { g with cloud := { g.cloud with region := template.location } }
        releaseStorage ctx false
        releaseCompute ctx false
        forgetAll

end Session

end BlockStorage
