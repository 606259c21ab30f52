import BlockStorage.Session

/-!
Finding machines. A machine is known to callers by an address and to the cloud by an opaque id, so
every machine of the region is looked at, one at a time and in the order of the cloud, until one
has the address. With address caching on, the machine last seen at the address is asked for first;
it is described anew, so what it tells is never stale, and it is forgotten if it no longer has the
address.
-/
namespace BlockStorage

namespace Device

/-- The device of an entry of a machine's device mapping. -/
def ofMapping (v : Value) : Except Fault Device := do
  let mapping ← Record.entries v "get"
  let ebs ← Record.entries ((Record.get mapping "ebs").orElse (.dict [])) "get"
  return ⟨Record.takeText (Record.get mapping "device_name"),
    Record.takeText ((Record.get ebs "volume_id").orElse (.text ""))⟩

end Device

namespace Instance

/-- The devices that a class of clouds tells of. -/
def devices (cls : Cloud.Class) (i : Instance) : Except Fault (List Device) :=
  if cls.hasAccount then do (← Record.elements i.mapping).mapM Device.ofMapping
  else .ok []

/-- The machine that a cloud tells of. -/
def describe (cls : Cloud.Class) (i : Instance) : Except Fault Machine := do
  let privateAddresses ← Record.takeTexts (← i.privateAddresses)
  let publicAddresses ← Record.takeTexts i.publicAddresses
  let devices ← i.devices cls
  return {
    id := Record.takeText i.id
    name := Record.takeText i.name
    privateAddresses, publicAddresses, devices }

end Instance

namespace Compute

open Session

variable {σ : Type}

/-- Every machine of the region, as the cloud tells it. -/
def fetchInstances (ctx : Context σ) : Run (Session σ) (List Instance) :=
  askCompute ctx .listInstances

/-- The machine with an id, if there is one. Some clouds can be asked for one machine, and fail if
it is not there; from others every machine is fetched. -/
def fetchInstance (ctx : Context σ) (id : Value) : Run (Session σ) (Option Instance) := do
  if (← current).cloud.cls.hasAccount then
    (List.head? <$> askCompute ctx (.describeInstances [id])).catching fun _ => pure none
  else
    return (← fetchInstances ctx).find? fun i => i.id.equal id

/-- The description of a machine. -/
def describe (i : Instance) : Run (Session σ) Machine := do
  Run.ofExcept (i.describe (← current).cloud.cls)

/-- Every machine of the region. -/
def listMachines (ctx : Context σ) : Run (Session σ) (List Machine) :=
  Run.translating .machineListing do
    Run.forEach describe (← fetchInstances ctx)

/-- Fails if the cloud cannot be reached. -/
def checkConnection (ctx : Context σ) : Run (Session σ) Unit := do
  let _ ← listMachines ctx

/-! ### Addresses -/

def listingFault (f : Fault) : Fault :=
  .because .machineListing ("Failed listing available nodes. Reason: " ++ f.text) (some f) []

def descriptionFault (id : Value) (f : Fault) : Fault :=
  .mentioning [id] (.because .machineListing
    ("Failed getting metadata of node " ++ id.display ++ ". Reason: " ++ f.text) (some f) [])

def noMachineFault (address : Value) : Fault :=
  .mentioning [address] (.because .machineNotFound
    ("Could not find machine with matching ip: " ++ address.display) none [("address", address)])

/-- Remembers which machine has an address. -/
def remember (address machine : Value) : Run (Session σ) Unit :=
  modifyGateway fun g =>
    match g.compute.connection with
    | some via =>
      { g with sightings :=
          (address, ⟨machine, via⟩) :: g.sightings.filter fun e => !e.1.equal address }
    | none => g

/-- The first machine with an address. -/
def search (ctx : Context σ) (address : Value) : List Instance → Run (Session σ) Machine
  | [] => Run.fail (noMachineFault address)
  | i :: rest => do
    let machine ← (describe i).wrapForeign (descriptionFault i.id)
    if ← Run.ofExcept (machine.hasAddress address) then
      if ctx.settings.cacheAddresses then
        remember address machine.id
      return machine
    else
      search ctx address rest

/-- The machine last seen at an address, if it still has it. -/
def findRemembered (ctx : Context σ) (address : Value) : Run (Session σ) (Option Machine) := do
  if !address.hashable then
    Run.fail (.unhashable address)
  else match Value.find? address (← current).sightings with
    | none => return none
    | some sighting =>
      if sighting.machine.isNull then return none
      else match ← fetchInstance ctx sighting.machine with
        | none =>
          forget address
          return none
        | some i => do
          let machine ← describe i
          if ← Run.ofExcept (machine.hasAddress address) then
            return some machine
          else
            forget address
            return none

/-- The machine with an address, as found among all machines. -/
def scan (ctx : Context σ) (address : Value) : Run (Session σ) Machine := do
  search ctx address (← (fetchInstances ctx).wrapForeign listingFault)

/-- The machine with an address. -/
def findMachine (ctx : Context σ) (address : Value) : Run (Session σ) Machine := do
  if ctx.settings.cacheAddresses then
    match ← findRemembered ctx address with
    | some machine => return machine
    | none => scan ctx address
  else
    scan ctx address

/-- The ids of the volumes attached to the machine with an address. -/
def volumeIds (ctx : Context σ) (address : Value) : Run (Session σ) (List Value) := do
  let machine ← findMachine ctx address
  Run.ofExcept machine.attachedVolumes

end Compute

end BlockStorage
