import BlockStorage.Record
import BlockStorage.Value.Order

/-!
Machines as a cloud describes them: their addresses and the block devices they have. A device that
holds no detachable volume has an empty volume id.

Statement: every attached volume is that of a device and is not empty (`mem_attachedVolumes`).
-/
namespace BlockStorage

structure Device where
  name : Value
  volume : Value

/-- A running machine. -/
structure Machine where
  id : Value
  name : Value
  privateAddresses : List Value
  publicAddresses : List Value
  devices : List Device

def Device.ofFields (given : Fields) : Except Fault Device := do
  Record.checkNames "BlockDevice" ["device_name", "volume_id"] given
  return ⟨Record.textOr given "device_name" .null, Record.textOr given "volume_id" (.text "")⟩

namespace Machine

def ofFields (given : Fields) (devices : List Device) : Except Fault Machine := do
  Record.checkNames "ComputeNode"
    ["provider_id", "name", "private_ips", "public_ips", "devices"] given
  return {
    id := Record.textOr given "provider_id" .null
    name := Record.textOr given "name" .null
    privateAddresses := ← Record.texts given "private_ips"
    publicAddresses := ← Record.texts given "public_ips"
    devices }

/-- The members of a set, or the fault of one that can be in no set. -/
def members (xs : List Value) : Except Fault (List Value) :=
  match xs.find? fun v => !v.hashable with
  | some v => .error (.unhashable v)
  | none => .ok (Value.distinct xs)

/-- Every address of the machine, once. -/
def addresses (m : Machine) : Except Fault (List Value) :=
  members (m.privateAddresses ++ m.publicAddresses)

def hasAddress (m : Machine) (address : Value) : Except Fault Bool := do
  let known ← m.addresses
  if address.hashable then return Value.mem address known
  else throw (.unhashable address)

/-- The volume ids of the devices that hold a volume. -/
def volumeIds (m : Machine) : List Value := (m.devices.map (·.volume)).filter Value.truthy

/-- The volumes attached to the machine, each once. -/
def attachedVolumes (m : Machine) : Except Fault (List Value) := members m.volumeIds

theorem mem_attachedVolumes {m : Machine} {ids : List Value} {v : Value}
    (h : m.attachedVolumes = .ok ids) (hv : v ∈ ids) :
    v.truthy = true ∧ ∃ d ∈ m.devices, d.volume = v := by
  unfold attachedVolumes members at h
  split at h
  · cases h
  · cases h
    simpa [volumeIds, and_comm] using Value.distinct_subset hv

/-- Whether a volume is among those attached. -/
def holdsVolume (m : Machine) (volume : Value) : Except Fault Bool := do
  let attached ← m.attachedVolumes
  if volume.hashable then return Value.mem volume attached
  else throw (.unhashable volume)

/-- The ids in ascending order, which only ids of one kind have. -/
def sortedIds (ids : List Value) : Except Fault (List Value) :=
  match Value.sorted? ids with
  | some ids => .ok ids
  | none => .error (.wrongKind "ids of different kinds have no order")

/-- The attached volumes in order. -/
def sortedVolumes (m : Machine) : Except Fault (List Value) := do
  sortedIds (← m.attachedVolumes)

/-- The machine as a table. -/
def toFields (m : Machine) : Except Fault Fields := do
  return [("provider_id", m.id), ("name", m.name), ("private_ips", .list m.privateAddresses),
    ("public_ips", .list m.publicAddresses), ("volumes", .list (← m.sortedVolumes))]

def display (m : Machine) : String :=
  "ComputeNode \"" ++ m.name.display ++ "\" (" ++ m.id.display ++ ")"

end Machine

end BlockStorage
