import BlockStorage.Compute
import BlockStorage.Deadline
import BlockStorage.Volume
import BlockStorage.Wait

/-!
Managing volumes. A cloud only acknowledges a request, so an operation that changes a volume makes
its request once, never again, and then waits until the volume shows the status that was asked
for. Its timeout is turned into a deadline before anything else is asked of the cloud.

If anything goes wrong with a new volume after the cloud has given it an id, the volume is
destroyed before the fault is reported; whether that succeeds does not matter to the report.

Statements: a whole number is a size if it is between the bounds (`fits_int`), and a create request
of the provider's own kind is submitted if the size can be written (`run_requestCreate_native`,
`run_requestCreate_unwritable`).
-/
namespace BlockStorage.Storage

open Session

variable {σ : Type}

/-- Whether volumes are managed in the provider's own way, beyond what every cloud offers. -/
def native (c : Cloud) : Bool := c.cls = .amazon

/-- The deadline of an operation that starts now. -/
def deadline (ctx : Context σ) (timeout : Value) : Run (Session σ) Float := do
  Run.ofExcept (Deadline.after (← now ctx) ctx.settings.operationTimeout timeout)

/-! ### Listing -/

/-- Every volume of the region, or at least those with the given ids. -/
def describeDisks (ctx : Context σ) (ids : List Value) : Run (Session σ) (List Disk) := do
  if native (← current).cloud && !ids.isEmpty then
    askStorage ctx (.describeDisks ids)
  else
    askStorage ctx .listDisks

def noVolumeFault (id : Value) : Fault :=
  .mentioning [id]
    (.because .volumeNotFound ("Volume " ++ id.display) none [("volume_id", id)])

/-- The volume with an id. -/
def describeDisk (ctx : Context σ) (id : Value) : Run (Session σ) Disk := do
  match (← describeDisks ctx [id]).find? fun d => d.id.equal id with
  | some d => return d
  | none => Run.fail (noVolumeFault id)

/-- The present status of a volume, from one query. -/
def status (ctx : Context σ) (id : Value) : Run (Session σ) Value :=
  Run.translating .statusQuery do
    let d ← describeDisk ctx id
    return (← Run.ofExcept (Status.ofState d.state)).toValue

/-- The tags of a volume, which only some clouds have. -/
def queryTags (ctx : Context σ) (id : Value) : Run (Session σ) TagSheet := do
  let c := (← current).cloud
  if native c then
    askStorage ctx (.describeTags id)
  else
    Run.fail (.mentioning [c.title]
      (.because .tagQuery ("Tagging is not supported by " ++ c.display) none []))

def tagFault (id : Value) (f : Fault) : Fault :=
  .because .tagQuery ("Failed getting volume name. Reason: " ++ f.text) (some f)
    [("volume_id", id)]

/-- The value of a tag, null if there is none. What counts as false has no tags. -/
def tagOf (sheet : TagSheet) (name : Value) : Except Fault Value :=
  match sheet with
  | .tags ts => lookUp ts
  | .other v => if v.truthy then .error (.missingAttribute v.kindName "get") else lookUp []
where
  lookUp (ts : Tags) : Except Fault Value :=
    if name.hashable then .ok ((Tags.find? name ts).getD .null) else .error (.unhashable name)

/-- The name of a volume, which is the value of a tag, empty if there is none. -/
def volumeName (ctx : Context σ) (id : Value) : Run (Session σ) Value := do
  let sheet ← (queryTags ctx id).wrapForeign (tagFault id)
  return (← Run.ofExcept (tagOf sheet ctx.settings.nameTag)).orElse (.text "")

/-- Whether an extra of a volume is kept. -/
def isScalar : Value → Bool
  | .text _ | .int _ | .float _ | .bool _ => true
  | _ => false

/-- The size of a volume, null if it is no number. -/
def sizeOf (v : Value) : Except Fault Value :=
  match v.toInteger with
  | .ok n => .ok (.int n)
  | .error f@(.foreign .overflow _) => .error f
  | .error _ => .ok .null

/-- The volume that a cloud tells of, by its name if that can be read. -/
def toVolume (ctx : Context σ) (d : Disk) : Run (Session σ) Volume := do
  let size ← Run.ofExcept (sizeOf d.size)
  let _ ← Run.ofExcept (Record.copyEntries (d.extra.orElse (.dict [])))
  let name ← (volumeName ctx d.id).catching fun f =>
    if f.isOwn then pure (.text "") else Run.fail f
  let places ← Run.ofExcept (Record.entries (d.extra.orElse (.dict [])) "get")
  let place := if native (← current).cloud then "zone" else "location"
  let status ← Run.ofExcept (Status.ofState d.state)
  return {
    id := Record.takeText d.id
    name := Record.takeText name
    size
    location := Record.takeText (Record.get places place)
    status := status.toValue
    extra := .dict (places.filter fun e => isScalar e.2) }

def volumeListingFault (f : Fault) : Fault :=
  .because .volumeListing ("Failed listing volumes. Reason: " ++ f.text) (some f) []

/-- The volumes of a list, each id once; `seen` are the ids before. -/
def toVolumes (ctx : Context σ) : List Value → List Disk → Run (Session σ) (List Volume)
  | _, [] => return []
  | seen, d :: rest => do
    if !d.id.hashable then
      Run.fail (.unhashable d.id)
    else if Value.mem d.id seen then
      toVolumes ctx seen rest
    else do
      let v ← toVolume ctx d
      return v :: (← toVolumes ctx (d.id :: seen) rest)

/-- Every volume of the region, once. -/
def listAll (ctx : Context σ) : Run (Session σ) (List Volume) :=
  Run.translating .volumeListing do
    toVolumes ctx [] (← (describeDisks ctx []).wrapForeign volumeListingFault)

/-- A listing tells of the volumes that the cloud describes. -/
theorem run_listAll_done {ctx : Context σ} {s s₁ s₂ : Session σ} {disks : List Disk}
    {volumes : List Volume} (hlist : (describeDisks ctx []).run s = (.done disks, s₁))
    (htold : (toVolumes ctx [] disks).run s₁ = (.done volumes, s₂)) :
    (listAll ctx).run s = (.done volumes, s₂) := by
  refine Run.run_mapFault_done ?_
  rw [Run.run_bind_done (Run.run_wrapForeign_done hlist)]
  exact htold

/-- Those of some volumes that are attached to a machine. -/
def restrict (volumes : List Volume) (attached : List Value) : Except Fault (List Volume) :=
  match volumes.find? fun v => !v.id.hashable with
  | some v => .error (.unhashable v.id)
  | none => .ok (volumes.filter fun v => Value.mem v.id attached)

/-- The volumes attached to a machine. -/
def listAttached (ctx : Context σ) (m : Machine) : Run (Session σ) (List Volume) := do
  let attached ← Run.ofExcept m.attachedVolumes
  let volumes ← listAll ctx
  Run.ofExcept (restrict volumes attached)

/-- The volumes attached to the machine with an address. -/
def list (ctx : Context σ) (address : Value) : Run (Session σ) (List Volume) := do
  listAttached ctx (← Compute.findMachine ctx address)

/-! ### Waiting -/

/-- The watch on the status of volumes. -/
def watch (ctx : Context σ) : Watch (Session σ) Float where
  now s := ctx.backend.now s.world.cloud
  query := status ctx
  pause := sleep ctx

/-- Waits until a volume shows a status. -/
def await (ctx : Context σ) (id : Value) (wanted : Status) (deadline : Float) :
    Run (Session σ) Unit := do
  let _ ← (watch ctx).await id wanted.toValue ctx.settings.pollInterval deadline ctx.patience .null

/-! ### Deleting -/

/-- Asks for a volume to be destroyed. -/
def destroy (ctx : Context σ) (id : Value) : Run (Session σ) Unit :=
  askStorage ctx (.destroy id)

def deletionFault (location id : Value) (f : Fault) : Fault :=
  .mentioning [id] (.because .volumeDeletion
    ("Failed deleting volume with ID " ++ id.display ++ ". Reason: " ++ f.text) (some f)
    [("volume_id", id), ("location", location)])

/-- Deletes a volume, whatever its status, and waits until it is going or gone. -/
def delete (ctx : Context σ) (location id timeout : Value) : Run (Session σ) Unit := do
  let deadline ← deadline ctx timeout
  (destroy ctx id).wrapForeign (deletionFault location id)
  (await ctx id .deleting deadline).catching fun f =>
    if f.isA .volumeNotFound then pure () else Run.fail f

/-! ### Creating -/

/-- A volume size out of bounds. -/
def sizeFault (least most size : Value) : Except Fault Fault := do
  let a ← least.toWhole
  let b ← most.toWhole
  return .mentioning [.int a, .int b, size] (.because .volumeSize
    ("Volume size must be set to a value between " ++ toString a ++ " and " ++ toString b
      ++ ", got " ++ size.display) none [("size", size)])

/-- Whether one value is at most another, which must have an order. -/
def atMost (a b : Value) : Except Fault Bool :=
  match a.atMost? b with
  | some r => .ok r
  | none => .error (.wrongKind ("'<=' not supported between instances of '" ++ a.kindName
      ++ "' and '" ++ b.kindName ++ "'"))

/-- Whether a size is between the bounds. The second bound is looked at only if the first holds. -/
def fits (settings : Settings) (size : Value) : Except Fault Bool :=
  if size.isNull then .ok false
  else match atMost settings.minSize size with
    | .ok true => atMost size settings.maxSize
    | r => r

/-- Whole numbers fit as they are ordered. -/
theorem fits_int {settings : Settings} {least most : Int} (hleast : settings.minSize = .int least)
    (hmost : settings.maxSize = .int most) (n : Int) :
    fits settings (.int n) = .ok (decide (least ≤ n) && decide (n ≤ most)) := by
  simp only [fits, atMost, hleast, hmost, Value.atMost?_int, Value.isNull, Bool.false_eq_true,
    if_false]
  cases decide (least ≤ n) <;> rfl

/-- Refuses a size that is not between the bounds. -/
def checkSize (settings : Settings) (size : Value) : Except Fault Unit := do
  if !(← fits settings size) then throw (← sizeFault settings.minSize settings.maxSize size)

/-- Asks for a new volume. -/
def requestCreate (ctx : Context σ) (location : Value) (t : StorageTemplate) :
    Run (Session σ) Disk := do
  if native (← current).cloud then
    let kind := if t.volumeType.truthy then some t.volumeType else none
    if !t.size.writable then
      Run.fail .notWritable
    let receipt ← askStorage ctx (.submitCreate t.size.display location kind)
    askStorage ctx (.readReceipt receipt)
  else
    askStorage ctx (.create t.size location)

/-- Where volumes are managed natively, a create request is submitted and its receipt is read. -/
theorem run_requestCreate_native {ctx : Context σ} {s : Session σ} {location : Value}
    {t : StorageTemplate} (hcloud : native s.gateway.cloud = true)
    (hsize : t.size.writable = true) :
    (requestCreate ctx location t).run s = (do
      let receipt ← askStorage ctx (.submitCreate t.size.display location
        (if t.volumeType.truthy then some t.volumeType else none))
      askStorage ctx (.readReceipt receipt) : Run (Session σ) Disk).run s := by
  unfold requestCreate
  rw [Run.run_bind_done (run_current s), if_pos hcloud]
  simp only [hsize, Bool.not_true, Bool.false_eq_true, if_false]

/-- A size that cannot be written cannot be submitted. -/
theorem run_requestCreate_unwritable {ctx : Context σ} {s : Session σ} {location : Value}
    {t : StorageTemplate} (hcloud : native s.gateway.cloud = true)
    (hsize : t.size.writable = false) :
    (requestCreate ctx location t).run s = (.failed .notWritable, s) := by
  unfold requestCreate
  rw [Run.run_bind_done (run_current s), if_pos hcloud]
  simp only [hsize, Bool.not_false, if_true]
  exact Run.run_bind_failed (Run.run_fail _ _)

/-- Tags volumes, which only some clouds can. -/
def applyTags (ctx : Context σ) (ids : List Value) (tags : Tags) : Run (Session σ) Unit := do
  let c := (← current).cloud
  if native c then
    let _ ← Run.forEach (fun id => askStorage ctx (.createTags id tags)) ids
  else
    Run.fail (.mentioning [c.title]
      (.because .tagCreation ("Tagging is not supported by " ++ c.display) none []))

/-- The name of a volume created now. -/
def newName (ctx : Context σ) (t : StorageTemplate) : Run (Session σ) String := do
  let ms ← Run.ofExcept (milliseconds (← now ctx))
  if !t.namePrefix.writable then
    Run.fail .notWritable
  return t.namePrefix.display ++ "_" ++ toString ms

/-- Waits until a new volume is available and names it. -/
def settle (ctx : Context σ) (id : Value) (t : StorageTemplate) (deadline : Float) :
    Run (Session σ) Unit := do
  await ctx id .available deadline
  let name ← newName ctx t
  let tag := ctx.settings.nameTag
  if tag.hashable then
    applyTags ctx [id] [(tag, .text name)]
  else
    Run.fail (.unhashable tag)

/-- Destroys the volume before a fault is reported. -/
def deletingOnFault {α : Type} (ctx : Context σ) (id : Value) (x : Run (Session σ) α) :
    Run (Session σ) α :=
  x.catching fun f => do
    if id.truthy then
      (destroy ctx id).catching fun _ => pure ()
    Run.fail f

def creationFault (size location id : Value) (f : Fault) : Fault :=
  .mentioning [size, location] (.because .volumeCreation
    ("Failed creating volume of size " ++ size.display ++ " in availability zone "
      ++ location.display ++ ". Reason: " ++ f.text) (some f)
    [("size", size), ("location", location), ("volume_id", id)])

/-- An expired wait is reported as it is, anything else as a failed creation. -/
def creationReport (size location id : Value) (f : Fault) : Fault :=
  if f.isA .timeout then f else creationFault size location id f

def reportingCreation {α : Type} (size location id : Value) (x : Run (Session σ) α) :
    Run (Session σ) α :=
  x.mapFault (creationReport size location id)

/-- The place of a new volume: the given one, or that of the template. -/
def placeFor (t : StorageTemplate) (location : Value) : Except Fault Value :=
  let place := location.orElse t.location
  if place.truthy then .ok place else .error (.because .parameterMissing "location" none [])

/-- What is to be created, where, and until when it must be available. -/
structure Order where
  template : StorageTemplate
  place : Value
  deadline : Float

/-- The order that some arguments make at a moment. None of the checks asks the cloud for
anything. -/
def order (settings : Settings) (c : Cloud) (now : Float) (template location timeout : Value) :
    Except Fault Order := do
  let deadline ← Deadline.after now settings.operationTimeout timeout
  let t ← c.storageTemplate template
  let place ← placeFor t location
  checkSize settings t.size
  return ⟨t, place, deadline⟩

/-- An order is made exactly if every check is passed. -/
theorem order_eq_ok_iff {settings : Settings} {c : Cloud} {now : Float}
    {template location timeout : Value} {o : Order} :
    order settings c now template location timeout = .ok o ↔
      Deadline.after now settings.operationTimeout timeout = .ok o.deadline ∧
        c.storageTemplate template = .ok o.template ∧
        placeFor o.template location = .ok o.place ∧
        checkSize settings o.template.size = .ok () := by
  obtain ⟨t, place, deadline⟩ := o
  simp only [order, bind, Except.bind]
  constructor
  · intro h
    repeat' split at h
    all_goals simp_all [pure, Except.pure]
  · rintro ⟨hdeadline, htemplate, hplace, hsize⟩
    simp [hdeadline, htemplate, hplace, hsize, pure, Except.pure]

/-- Waits until a volume that was ordered is available, names it and tells of it. -/
def finish (ctx : Context σ) (o : Order) (disk : Disk) : Run (Session σ) Volume := do
  let size := o.template.size
  reportingCreation size o.place disk.id
    (deletingOnFault ctx disk.id (settle ctx disk.id o.template o.deadline))
  let v ← toVolume ctx disk
  return { v with status := Status.available.toValue, size, location := o.place }

/-- Creates what was ordered. -/
def provision (ctx : Context σ) (o : Order) : Run (Session σ) Volume := do
  let disk ← reportingCreation o.template.size o.place .null
    (requestCreate ctx o.place o.template)
  finish ctx o disk

/-- Creates a volume from a template, waits until it is available and names it. -/
def create (ctx : Context σ) (template location timeout : Value) : Run (Session σ) Volume := do
  let o ← Run.ofExcept
    (order ctx.settings (← current).cloud (← now ctx) template location timeout)
  provision ctx o

/-! ### Attaching and detaching -/

/-- Refuses an argument that counts as false. -/
def require (name : String) (v : Value) : Except Fault Unit :=
  if v.truthy then .ok () else .error (.because .parameterMissing name none [])

def alreadyAttachedFault (id address : Value) (m : Machine) : Fault :=
  .mentioning [id, m.id, address] (.because .alreadyAttached
    ("Volume " ++ id.display ++ " is already attached to machine " ++ m.id.display
      ++ " with ip " ++ address.display) none [("volume_id", id), ("address", address)])

def attachmentFault (id address : Value) (m : Machine) (f : Fault) : Fault :=
  .mentioning [id, m.id] (.because .volumeAttachment
    ("Failed attaching volume " ++ id.display ++ " to machine " ++ m.id.display
      ++ ". Reason: " ++ f.text) (some f) [("volume_id", id), ("address", address)])

/-- The machine as requests refer to it: by an id that is a text, if it has one. -/
def handle (m : Machine) : Except Fault Machine :=
  if !m.id.truthy then .ok { m with id := .null }
  else if m.id.writable then .ok { m with id := .text m.id.display }
  else .error .notWritable

/-- Asks for a volume to be attached to a machine. -/
def requestAttach (ctx : Context σ) (m : Machine) (id device : Value) :
    Run (Session σ) Unit := do
  let via ← storageConnection ctx
  request ctx via (.attach (← Run.ofExcept (handle m)) id device)

/-- Attaches a volume to the machine with an address and waits until it is in use. -/
def attach (ctx : Context σ) (id device address timeout : Value) : Run (Session σ) Unit :=
  Run.translating .volumeAttachment do
    Run.ofExcept (require "volume_id" id)
    Run.ofExcept (require "device" device)
    let deadline ← deadline ctx timeout
    let m ← Compute.findMachine ctx address
    if ← Run.ofExcept (m.holdsVolume id) then
      Run.fail (alreadyAttachedFault id address m)
    (requestAttach ctx m id device).wrapForeign (attachmentFault id address m)
    await ctx id .inUse deadline

def notAttachedFault (id address : Value) : Fault :=
  .mentioning [id, address] (.because .volumeNotFound
    ("Volume " ++ id.display ++ " is not attached to machine with ip " ++ address.display) none
    [("volume_id", id), ("address", address)])

def detachmentFault (id address : Value) (m : Machine) (f : Fault) : Fault :=
  .mentioning [id, m.id] (.because .volumeDetachment
    ("Failed detaching volume " ++ id.display ++ " from machine " ++ m.id.display
      ++ ". Reason: " ++ f.text) (some f) [("volume_id", id), ("address", address)])

/-- Asks for a volume to be detached from a machine, by force if that can be said. -/
def requestDetach (ctx : Context σ) (id : Value) (m : Machine) : Run (Session σ) Unit := do
  if native (← current).cloud then askStorage ctx (.submitDetach id m.id true)
  else askStorage ctx (.detach id)

/-- Detaches a volume from the machine with an address and waits until it is available. -/
def detach (ctx : Context σ) (id address timeout : Value) : Run (Session σ) Unit :=
  Run.translating .volumeDetachment do
    let deadline ← deadline ctx timeout
    let m ← Compute.findMachine ctx address
    let attached ← listAttached ctx m
    if !Value.mem id (attached.map (·.id)) then
      Run.fail (notAttachedFault id address)
    (requestDetach ctx id m).wrapForeign (detachmentFault id address m)
    await ctx id .available deadline

end BlockStorage.Storage
