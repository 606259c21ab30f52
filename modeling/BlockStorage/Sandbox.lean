import BlockStorage.Clock
import BlockStorage.Sandbox.Method
import BlockStorage.Sandbox.Trouble

/-!
A cloud held in memory: drives, hosts and tags. Every request takes the latency of its method and
then meets the trouble that is planned for it; only then is it acted on.

A request that changes a drive gives it a run of states to go through. Each listing shows the
first of them and drops it, as long as another is left, so the state that a drive ends in is shown
forever. Which drives a host has is not stored but read off the drives.
-/
namespace BlockStorage

namespace Sandbox

/-- A volume of the cloud. -/
structure Drive where
  id : Value
  size : Value := .int 1
  zone : Value := .text "z1"
  states : List Value := [.text "available"]
  host : Value := .null
  device : Value := .null
  extra : Fields := []
  /-- What is told in place of all other properties. -/
  told : Option Value := none

/-- A machine of the cloud. Its private addresses may be unreadable. -/
structure Host where
  id : Value
  name : Value := .null
  privateAddresses : Value := .null
  publicAddresses : Value := .null
  mapping : Value := .null
  unreadable : Option Fault := none

/-- The states that a drive goes through after each kind of request. -/
structure Course where
  created : List Value := [.text "creating", .text "available"]
  attached : List Value := [.text "attaching", .text "inuse"]
  detached : List Value := [.text "detaching", .text "available"]
  destroyed : List Value := [.text "deleting"]

end Sandbox

open Sandbox

/-- A cloud held in memory. -/
structure Sandbox where
  clock : Float
  drives : List Drive := []
  hosts : List Host := []
  tags : List (Value × TagSheet) := []
  course : Course := {}
  troubles : List (Method × Trouble) := []
  latencies : List (Method × Value) := []
  /-- How many drives were created. -/
  created : Nat := 0
  /-- The ids of the next drives, as far as they are settled. -/
  nextIds : List Value := []
  /-- The size that new drives end up with, if not the one asked for. -/
  createdSize : Option Value := none
  /-- Whether a listing shows every drive, whatever is asked. -/
  listsAll : Bool := false
  /-- Whether a destroyed drive is gone at once. -/
  dropsDestroyed : Bool := false

namespace Sandbox

/-! ### Telling -/

namespace Drive

/-- What is told of a drive, by the state that it shows. -/
def disk (d : Drive) (state : Value) : Disk where
  id := d.id
  size := d.size
  state := state
  extra := d.told.getD
    (.dict (Table.merge [("zone", d.zone), ("instance_id", d.host)] d.extra))

/-- What a listing tells of a drive. -/
def shown (d : Drive) : Disk := d.disk (d.states.headD .null)

/-- The drive after a listing. -/
def moveOn (d : Drive) : Drive :=
  { d with states := if d.states.length ≤ 1 then d.states else d.states.tail }

/-- The drive's entry in the device mapping of its host. -/
def mapping (d : Drive) : Value :=
  .dict [("device_name", d.device), ("ebs", .dict [("volume_id", d.id)])]

end Drive

/-- The device mapping of a host: the one it came with, and then the drives it has. -/
def mappingOf (s : Sandbox) (h : Host) : Value :=
  let held := (s.drives.filter fun d => d.host.equal h.id).map Drive.mapping
  match h.mapping with
  | .list given => .list (given ++ held)
  | v => if held.isEmpty then v else .list held

/-- What is told of a host. -/
def machine (s : Sandbox) (h : Host) : Instance where
  id := h.id
  name := h.name
  privateAddresses := match h.unreadable with
    | some f => .error f
    | none => .ok h.privateAddresses
  publicAddresses := h.publicAddresses
  mapping := s.mappingOf h

/-! ### Acting -/

/-- Changes the first member that a test accepts. -/
def changeFirst {α : Type} (p : α → Bool) (f : α → α) : List α → List α
  | [] => []
  | x :: r => if p x then f x :: r else x :: changeFirst p f r

def noDrive (id : Value) : Fault :=
  .mentioning [id] (.foreign .unspecified (some ("InvalidVolume.NotFound: " ++ id.display)))

def notHeld (id host : Value) : Fault :=
  .mentioning [id, host] (.foreign .unspecified
    (some ("IncorrectState: " ++ id.display ++ " is not attached to " ++ host.display)))

/-- The first drive with an id. -/
def drive (s : Sandbox) (id : Value) : Except Fault Drive :=
  match s.drives.find? fun d => d.id.equal id with
  | some d => .ok d
  | none => .error (noDrive id)

/-- Changes the first drive with an id. -/
def changeDrive (s : Sandbox) (id : Value) (f : Drive → Drive) : Sandbox :=
  { s with drives := changeFirst (fun d => d.id.equal id) f s.drives }

/-- Drops the first drive with an id. -/
def dropDrive (s : Sandbox) (id : Value) : Sandbox :=
  { s with drives := s.drives.eraseP fun d => d.id.equal id }

/-- Changes the first host with an id. -/
def changeHost (s : Sandbox) (id : Value) (f : Host → Host) : Sandbox :=
  { s with hosts := changeFirst (fun h => h.id.equal id) f s.hosts }

/-- Drops the first host with an id. -/
def dropHost (s : Sandbox) (id : Value) : Sandbox :=
  { s with hosts := s.hosts.eraseP fun h => h.id.equal id }

/-- Replaces the tags under an id. -/
def setTags (s : Sandbox) (id : Value) (tags : Option TagSheet) : Sandbox :=
  let others := s.tags.filter fun e => !e.1.equal id
  { s with tags := match tags with
      | some t => (id, t) :: others
      | none => others }

/-- Adds tags to those under an id. -/
def addTags (s : Sandbox) (id : Value) (tags : Tags) : Sandbox :=
  let old := match Value.find? id s.tags with
    | some (.tags old) => old
    | _ => []
  s.setTags id (some (.tags (tags.putAll old)))

/-- The number with at least four digits. -/
def fourDigits (n : Nat) : String :=
  let digits := toString n
  String.ofList (List.replicate (4 - digits.length) '0') ++ digits

/-- The id of the next drive. -/
def nextId (s : Sandbox) : Value :=
  s.nextIds.headD (.text ("vol-" ++ fourDigits (s.created + 1)))

/-- A new drive, and the cloud that has it. -/
def create (s : Sandbox) (size zone : Value) : Drive × Sandbox :=
  let d : Drive :=
    { id := s.nextId, size := s.createdSize.getD size, zone, states := s.course.created }
  (d, { s with
    drives := s.drives ++ [d], created := s.created + 1, nextIds := s.nextIds.tail })

/-- A new drive, as it is told at first. -/
def announce (s : Sandbox) (size zone : Value) : Except Fault Disk × Sandbox :=
  let (d, s) := s.create size zone
  (.ok (d.disk (.text "creating")), s)

/-- Tells of some drives, which then move on. -/
def list (s : Sandbox) (wanted : Drive → Bool) : List Disk × Sandbox :=
  ((s.drives.filter wanted).map Drive.shown,
    { s with drives := s.drives.map fun d => if wanted d then d.moveOn else d })

/-- Takes a drive off its host, which must be the given one if one is given. -/
def release (s : Sandbox) (id host : Value) : Except Fault Unit × Sandbox :=
  match s.drive id with
  | .ok d =>
    if host.isNull || d.host.equal host then
      (.ok (), s.changeDrive id fun d =>
        { d with host := .null, device := .null, states := s.course.detached })
    else (.error (notHeld id host), s)
  | .error f => (.error f, s)

/-- Answers a request. -/
def act (s : Sandbox) : (r : Request) → Except Fault r.Answer × Sandbox
  | .listInstances => (.ok (s.hosts.map s.machine), s)
  | .describeInstances ids =>
    (.ok ((s.hosts.filter fun h => Value.mem h.id ids).map s.machine), s)
  | .listDisks =>
    let (found, s) := s.list fun _ => true
    (.ok found, s)
  | .describeDisks ids =>
    let (found, s) := s.list fun d => s.listsAll || Value.mem d.id ids
    (.ok found, s)
  | .create size location => s.announce size location
  | .submitCreate size location _ =>
    match (Value.text size).toInteger with
    | .ok n => s.announce (.int n) location
    | .error f => (.error f, s)
  | .readReceipt receipt => (.ok receipt, s)
  | .attach m volume device =>
    match s.drive volume with
    | .ok _ => (.ok (), s.changeDrive volume fun d =>
        { d with host := m.id, device, states := s.course.attached })
    | .error f => (.error f, s)
  | .detach volume => s.release volume .null
  | .submitDetach volume host _ => s.release volume host
  | .destroy volume =>
    match s.drive volume with
    | .ok _ =>
      (.ok (), if s.dropsDestroyed then s.dropDrive volume
        else s.changeDrive volume fun d => { d with states := s.course.destroyed })
    | .error f => (.error f, s)
  | .createTags volume tags =>
    if volume.hashable then (.ok (), s.addTags volume tags) else (.error (.unhashable volume), s)
  | .describeTags volume =>
    (if volume.hashable then .ok ((Value.find? volume s.tags).getD (.other .null))
      else .error (.unhashable volume), s)
  | .close => (.ok (), s)

/-! ### Requests -/

/-- Lets time pass. -/
def wait (s : Sandbox) (seconds : Value) : Except Fault Sandbox := do
  return { s with clock := ← Clock.advance s.clock seconds }

/-- Takes the latency of a method. -/
def delay (s : Sandbox) (m : Method) : Except Fault Sandbox :=
  match s.latencies.lookup m with
  | some seconds => s.wait seconds
  | none => .ok s

/-- Plans trouble for a method, in place of what was planned for it. -/
def plan (s : Sandbox) (m : Method) (t : Option Trouble) : Sandbox :=
  let others := s.troubles.filter fun e => e.1 ≠ m
  { s with troubles := match t with
      | some t => (m, t) :: others
      | none => others }

/-- Lets a request meet its trouble. -/
def meet (s : Sandbox) (m : Method) : Except Fault Unit × Sandbox :=
  match s.troubles.lookup m with
  | some t => (if t.meets then .error t.fault else .ok (), s.plan m (some t.next))
  | none => (.ok (), s)

/-- Lets a request come in: it takes its time and meets its trouble. -/
def receive (s : Sandbox) (m : Method) : Except Fault Unit × Sandbox :=
  match s.delay m with
  | .ok s => s.meet m
  | .error f => (.error f, s)

def respond (r : Request) (s : Sandbox) : Except Fault r.Answer × Sandbox :=
  match s.receive (.ofRequest r) with
  | (.ok (), s) => s.act r
  | (.error f, s) => (.error f, s)

def sleep (seconds : Value) (s : Sandbox) : Except Fault Unit × Sandbox :=
  match s.wait seconds with
  | .ok s => (.ok (), s)
  | .error f => (.error f, s)

/-- The cloud as a session sees it. -/
def backend : Backend Sandbox where
  now := clock
  sleep := sleep
  connect _ s := s.receive .connect
  respond _ := respond

end Sandbox

end BlockStorage
