import BlockStorage.Proofs.Operations

/-!
What becomes of a session that is closed.

A closed session holds no connection on either side and remembers nothing (`Session.Closed`). No
action changes it any more (`perform_of_closed`): a side that is closed is not opened again, not
even by being told to let go for a while, and every operation comes to a stop where it would first
need the cloud. That is after the checks that it makes on its arguments (`Operation.precheck`), and
an operation that does not pass those stops there in any session (`run_of_unchecked`).

The fault of an operation that is stopped so is that the cloud is unavailable
(`disconnect_terminal`). A creation reports it as the cause, which takes words for the size and the
place that were ordered. Where there are none, nothing is told of the closed connection
(`create_unsayable`).
-/
namespace BlockStorage

/-! ### Checks -/

/-- What can be looked for. An address that can be no key is refused by the cache, if there is
one. -/
def Compute.searchable (settings : Settings) (address : Value) : Except Fault Unit :=
  if settings.cacheAddresses && !address.hashable then .error (.unhashable address) else .ok ()

/-- The fault of tags on a cloud that has none. -/
def Storage.tagless (c : Cloud) : Fault :=
  .mentioning [c.title]
    (.because .tagQuery ("Tagging is not supported by " ++ c.display) none [])

namespace Operation

variable {σ : Type}

/-- What an operation checks before it needs the cloud. -/
def precheck (ctx : Context σ) (s : Session σ) (op : Operation) : Except Fault Unit :=
  let c := s.gateway.cloud
  let now := ctx.backend.now s.world.cloud
  let deadline := Deadline.after now ctx.settings.operationTimeout
  match op with
  | create template location timeout => do
    let o ← Storage.order ctx.settings c now template location timeout
    if Storage.native c && !o.template.size.writable then
      .error (Storage.creationReport o.template.size o.place .null .notWritable)
    else .ok ()
  | attach id device address timeout => do
    Storage.require "volume_id" id
    Storage.require "device" device
    let _ ← deadline timeout
    Compute.searchable ctx.settings address
  | detach _ address timeout => do
    let _ ← deadline timeout
    Compute.searchable ctx.settings address
  | delete _ _ timeout => do
    let _ ← deadline timeout
    .ok ()
  | list address | volumeIds address | find address => Compute.searchable ctx.settings address
  | name _ => if Storage.native c then .ok () else .error (Storage.tagless c)
  | listAll | status _ | machines | check => .ok ()

/-- How the operation reports a fault of its checks. -/
def report : Operation → Fault → Fault
  | attach .. => .translate .volumeAttachment
  | detach .. => .translate .volumeDetachment
  | name id => fun f => if f.isOwn then f else Storage.tagFault id f
  | _ => id

end Operation

namespace Compute

open Session

variable {σ : Type} {ctx : Context σ} {s : Session σ}

/-- An address that cannot be looked for is refused in any session. -/
theorem run_findMachine_unsearchable {address : Value} {f : Fault}
    (h : searchable ctx.settings address = .error f) :
    (findMachine ctx address).run s = (.failed f, s) := by
  unfold searchable at h
  split at h
  · rename_i hkey
    cases h
    simp only [Bool.and_eq_true] at hkey
    unfold findMachine findRemembered
    rw [if_pos hkey.1, if_pos hkey.2]
    exact Run.run_bind_failed (Run.run_fail _ _)
  · cases h

end Compute

namespace Operation

variable {σ : Type} {ctx : Context σ} {s : Session σ}

/-- A timeout that is no good is found out before anything that comes after it. -/
theorem run_deadline_bind_failed {timeout : Value} {rest : Except Fault Unit}
    {k : Float → Run (Session σ) Unit} {f : Fault}
    (h : (do
      let _ ← Deadline.after (ctx.backend.now s.world.cloud) ctx.settings.operationTimeout timeout
      rest) = .error f)
    (hk : rest = .error f → ∀ deadline, (k deadline).run s = (.failed f, s)) :
    (Storage.deadline ctx timeout >>= k).run s = (.failed f, s) := by
  rw [Storage.deadline, bind_assoc, Run.run_bind_done (Session.run_now ctx s)]
  exact Run.run_ofExcept_bind_failed h fun deadline _ hrest => hk hrest deadline

theorem run_deadline_bind_passed {timeout : Value} {rest : Except Fault Unit}
    {k : Float → Run (Session σ) Unit} {r : Outcome Unit × Session σ}
    (h : (do
      let _ ← Deadline.after (ctx.backend.now s.world.cloud) ctx.settings.operationTimeout timeout
      rest) = .ok ())
    (hk : rest = .ok () → ∀ deadline, (k deadline).run s = r) :
    (Storage.deadline ctx timeout >>= k).run s = r := by
  rw [Storage.deadline, bind_assoc, Run.run_bind_done (Session.run_now ctx s)]
  exact Run.run_ofExcept_bind_passed h fun deadline _ hrest => hk hrest deadline

/-- A creation whose checks are not passed is not ordered, or it cannot be asked for. -/
theorem run_create_unchecked {template location timeout : Value} {f : Fault}
    (h : (create template location timeout).precheck ctx s = .error f) :
    (Storage.create ctx template location timeout).run s = (.failed f, s) := by
  unfold Storage.create
  rw [Run.run_bind_done (Session.run_current s), Run.run_bind_done (Session.run_now ctx s)]
  refine Run.run_ofExcept_bind_failed h fun o horder hcheck => ?_
  split at hcheck
  · rename_i hunsayable
    cases hcheck
    simp only [Bool.and_eq_true, Bool.not_eq_true'] at hunsayable
    exact Storage.provision_refused
      (Storage.run_requestCreate_unwritable hunsayable.1 hunsayable.2)
  · cases hcheck

theorem run_attach_unchecked {id device address timeout : Value} {f : Fault}
    (h : (attach id device address timeout).precheck ctx s = .error f) :
    (Storage.attach ctx id device address timeout).run s =
      (.failed (f.translate .volumeAttachment), s) := by
  refine Run.run_translating_failed ?_
  refine Run.run_ofExcept_bind_failed h fun _ _ h => ?_
  refine Run.run_ofExcept_bind_failed h fun _ _ h => ?_
  refine run_deadline_bind_failed h fun h deadline => ?_
  exact Run.run_bind_failed (Compute.run_findMachine_unsearchable h)

theorem run_detach_unchecked {id address timeout : Value} {f : Fault}
    (h : (detach id address timeout).precheck ctx s = .error f) :
    (Storage.detach ctx id address timeout).run s =
      (.failed (f.translate .volumeDetachment), s) := by
  refine Run.run_translating_failed ?_
  refine run_deadline_bind_failed h fun h deadline => ?_
  exact Run.run_bind_failed (Compute.run_findMachine_unsearchable h)

theorem run_delete_unchecked {location id timeout : Value} {f : Fault}
    (h : (delete location id timeout).precheck ctx s = .error f) :
    (Storage.delete ctx location id timeout).run s = (.failed f, s) :=
  run_deadline_bind_failed h fun h _ => nomatch h

theorem run_name_unchecked {id : Value} {f : Fault} (h : (name id).precheck ctx s = .error f) :
    (Storage.volumeName ctx id).run s =
      (.failed (if f.isOwn then f else Storage.tagFault id f), s) := by
  simp only [precheck] at h
  split at h
  · cases h
  · rename_i hgeneric
    cases h
    refine Run.run_bind_failed (Run.run_wrapForeign_failed ?_)
    unfold Storage.queryTags
    rw [Run.run_bind_done (Session.run_current s)]
    dsimp only
    rw [if_neg hgeneric]
    rfl

/-- **An operation that does not pass its checks needs no cloud**, in any session: it fails, and
nothing else happens. -/
theorem run_of_unchecked {op : Operation} {f : Fault} (h : op.precheck ctx s = .error f) :
    (op.run ctx).run s = (.failed (op.report f), s) := by
  cases op with
  | create template location timeout => exact Run.run_bind_failed (run_create_unchecked h)
  | attach id device address timeout => exact run_attach_unchecked h
  | detach id address timeout => exact run_detach_unchecked h
  | delete location id timeout => exact run_delete_unchecked h
  | name id => exact Run.run_bind_failed (run_name_unchecked h)
  | list address =>
    have hfind := Compute.run_findMachine_unsearchable (s := s) h
    exact Run.run_bind_failed (Run.run_bind_failed hfind)
  | volumeIds address =>
    have hfind := Compute.run_findMachine_unsearchable (s := s) h
    exact Run.run_bind_failed (Run.run_bind_failed hfind)
  | find address => exact Run.run_bind_failed (Compute.run_findMachine_unsearchable h)
  | listAll => cases h
  | status id => cases h
  | machines => cases h
  | check => cases h

end Operation

/-! ### Closed sessions -/

namespace Session

variable {σ : Type} {ctx : Context σ} {s : Session σ}

/-- Both sides are closed and hold nothing, and nothing is remembered. -/
structure Closed (s : Session σ) : Prop where
  compute : s.gateway.compute = ⟨none, true⟩
  storage : s.gateway.storage = ⟨none, true⟩
  sightings : s.gateway.sightings = []

/-- Nothing is left of a closed session but its world and its cloud. -/
theorem Closed.form (h : s.Closed) :
    ∃ w c, s = ⟨w, ⟨c, ⟨none, true⟩, ⟨none, true⟩, []⟩⟩ := by
  obtain ⟨w, c, compute, storage, sightings⟩ := s
  obtain ⟨rfl, rfl, rfl⟩ : compute = ⟨none, true⟩ ∧ storage = ⟨none, true⟩ ∧ sightings = [] :=
    ⟨h.compute, h.storage, h.sightings⟩
  exact ⟨w, c, rfl⟩

theorem closed_releasing (s : Session σ) (w : World σ) : (s.releasing true w).Closed := by
  refine ⟨?_, ?_, rfl⟩
  · show Side.mk none (s.gateway.compute.closed || true) = _
    rw [Bool.or_true]
  · show Side.mk none (s.gateway.storage.closed || true) = _
    rw [Bool.or_true]

theorem run_computeConnection_closed (h : s.Closed) :
    (computeConnection ctx).run s = (.failed (closedFault s.gateway.cloud), s) :=
  computeConnection_closed ctx s (by rw [h.compute])

theorem run_storageConnection_closed (h : s.Closed) :
    (storageConnection ctx).run s = (.failed (closedFault s.gateway.cloud), s) :=
  storageConnection_closed ctx s (by rw [h.storage])

theorem run_askCompute_closed (h : s.Closed) (r : Request) :
    (askCompute ctx r).run s = (.failed (closedFault s.gateway.cloud), s) :=
  Run.run_bind_failed (run_computeConnection_closed h)

theorem run_askStorage_closed (h : s.Closed) (r : Request) :
    (askStorage ctx r).run s = (.failed (closedFault s.gateway.cloud), s) :=
  Run.run_bind_failed (run_storageConnection_closed h)

end Session

/-! ### Operations on closed sessions -/

namespace Compute

open Session

variable {σ : Type} {ctx : Context σ} {s : Session σ}

/-- With nothing remembered there is nothing to ask the cache for. -/
theorem run_findRemembered_closed (h : s.Closed) {address : Value}
    (haddress : address.hashable = true) :
    (findRemembered ctx address).run s = (.done none, s) := by
  unfold findRemembered
  rw [haddress, if_neg (by simp), Run.run_bind_done (run_current s), h.sightings]
  rfl

theorem run_fetchInstances_closed (h : s.Closed) :
    (fetchInstances ctx).run s = (.failed (closedFault s.gateway.cloud), s) :=
  run_askCompute_closed h _

theorem run_findMachine_closed (h : s.Closed)
    (hown : (closedFault s.gateway.cloud).isOwn = true) {address : Value}
    (haddress : searchable ctx.settings address = .ok ()) :
    (findMachine ctx address).run s = (.failed (closedFault s.gateway.cloud), s) := by
  have hscan : (scan ctx address).run s = (.failed (closedFault s.gateway.cloud), s) :=
    Run.run_bind_failed (Run.run_wrapForeign_own hown (run_fetchInstances_closed h))
  unfold findMachine
  by_cases hcache : ctx.settings.cacheAddresses = true
  · have hkey : address.hashable = true := by
      cases hkey : address.hashable with
      | true => rfl
      | false => simp [searchable, hcache, hkey] at haddress
    rw [if_pos hcache, Run.run_bind_done (run_findRemembered_closed h hkey)]
    exact hscan
  · rw [if_neg hcache]
    exact hscan

theorem run_listMachines_closed (h : s.Closed)
    (hown : (closedFault s.gateway.cloud).isOwn = true) :
    (listMachines ctx).run s = (.failed (closedFault s.gateway.cloud), s) :=
  Run.run_translating_own hown (Run.run_bind_failed (run_fetchInstances_closed h))

end Compute

namespace Storage

open Session

variable {σ : Type} {ctx : Context σ} {s : Session σ}

theorem run_describeDisks_closed (h : s.Closed) (ids : List Value) :
    (describeDisks ctx ids).run s = (.failed (closedFault s.gateway.cloud), s) := by
  unfold describeDisks
  rw [Run.run_bind_done (run_current s)]
  split
  · exact run_askStorage_closed h _
  · exact run_askStorage_closed h _

theorem run_listAll_closed (h : s.Closed) (hown : (closedFault s.gateway.cloud).isOwn = true) :
    (listAll ctx).run s = (.failed (closedFault s.gateway.cloud), s) := by
  refine Run.run_translating_own hown (Run.run_bind_failed ?_)
  exact Run.run_wrapForeign_own hown (run_describeDisks_closed h [])

theorem run_status_closed (h : s.Closed) (hown : (closedFault s.gateway.cloud).isOwn = true)
    (id : Value) : (status ctx id).run s = (.failed (closedFault s.gateway.cloud), s) := by
  refine Run.run_translating_own hown (Run.run_bind_failed (Run.run_bind_failed ?_))
  exact run_describeDisks_closed h [id]

theorem run_volumeName_closed (h : s.Closed) (hown : (closedFault s.gateway.cloud).isOwn = true)
    (hnative : native s.gateway.cloud = true) (id : Value) :
    (volumeName ctx id).run s = (.failed (closedFault s.gateway.cloud), s) := by
  refine Run.run_bind_failed (Run.run_wrapForeign_own hown ?_)
  unfold queryTags
  rw [Run.run_bind_done (run_current s)]
  dsimp only
  rw [if_pos hnative]
  exact run_askStorage_closed h _

theorem run_requestCreate_closed (h : s.Closed) (location : Value) {t : StorageTemplate}
    (hsize : native s.gateway.cloud = true → t.size.writable = true) :
    (requestCreate ctx location t).run s = (.failed (closedFault s.gateway.cloud), s) := by
  by_cases hnative : native s.gateway.cloud = true
  · rw [run_requestCreate_native hnative (hsize hnative)]
    exact Run.run_bind_failed (run_askStorage_closed h _)
  · unfold requestCreate
    rw [Run.run_bind_done (run_current s), if_neg hnative]
    exact run_askStorage_closed h _

/-- An ordered volume is not created, and the report names the closed connection as the cause. -/
theorem run_create_closed (ctx : Context σ) (h : s.Closed) {template location timeout : Value}
    {o : Order}
    (horder : order ctx.settings s.gateway.cloud (ctx.backend.now s.world.cloud) template location
      timeout = .ok o)
    (hsize : native s.gateway.cloud = true → o.template.size.writable = true) :
    (create ctx template location timeout).run s =
      (.failed (creationReport o.template.size o.place .null (closedFault s.gateway.cloud)),
        s) := by
  rw [run_create horder]
  exact provision_refused (run_requestCreate_closed h o.place hsize)

/-- A place that there are no words for cannot be reported. -/
theorem run_create_unsayable (ctx : Context σ) (h : s.Closed) {template location timeout : Value}
    {o : Order}
    (horder : order ctx.settings s.gateway.cloud (ctx.backend.now s.world.cloud) template location
      timeout = .ok o)
    (hsize : native s.gateway.cloud = true → o.template.size.writable = true)
    (hplace : o.place.writable = false)
    (htimeout : (closedFault s.gateway.cloud).isA .timeout = false) :
    (create ctx template location timeout).run s = (.failed .notWritable, s) := by
  rw [run_create_closed ctx h horder hsize, (reported o .null _).untold htimeout fun hw => ?_]
  rw [hplace] at hw
  exact absurd hw.2 Bool.false_ne_true

end Storage

namespace Operation

variable {σ : Type} {ctx : Context σ} {s : Session σ}

/-- The operation makes no volume. -/
def Plain : Operation → Prop
  | create .. => False
  | _ => True

/-- Where an operation would go on to the cloud, it finds the connection closed. -/
theorem run_of_closed (h : s.Closed)
    (hown : (Session.closedFault s.gateway.cloud).isOwn = true) {op : Operation} (hop : op.Plain)
    (hcheck : op.precheck ctx s = .ok ()) :
    (op.run ctx).run s = (.failed (Session.closedFault s.gateway.cloud), s) := by
  cases op with
  | create template location timeout => exact hop.elim
  | attach id device address timeout =>
    refine Run.run_translating_own hown ?_
    refine Run.run_ofExcept_bind_passed hcheck fun _ _ hcheck => ?_
    refine Run.run_ofExcept_bind_passed hcheck fun _ _ hcheck => ?_
    refine run_deadline_bind_passed hcheck fun hcheck deadline => ?_
    exact Run.run_bind_failed (Compute.run_findMachine_closed h hown hcheck)
  | detach id address timeout =>
    refine Run.run_translating_own hown ?_
    refine run_deadline_bind_passed hcheck fun hcheck deadline => ?_
    exact Run.run_bind_failed (Compute.run_findMachine_closed h hown hcheck)
  | delete location id timeout =>
    refine run_deadline_bind_passed hcheck fun _ deadline => Run.run_bind_failed ?_
    exact Run.run_wrapForeign_own hown (Session.run_askStorage_closed h _)
  | list address =>
    have hfind := Compute.run_findMachine_closed h hown hcheck
    exact Run.run_bind_failed (Run.run_bind_failed hfind)
  | listAll => exact Run.run_bind_failed (Storage.run_listAll_closed h hown)
  | status id => exact Run.run_bind_failed (Storage.run_status_closed h hown id)
  | name id =>
    simp only [precheck] at hcheck
    split at hcheck
    · rename_i hnative
      exact Run.run_bind_failed (Storage.run_volumeName_closed h hown hnative id)
    · cases hcheck
  | volumeIds address =>
    have hfind := Compute.run_findMachine_closed h hown hcheck
    exact Run.run_bind_failed (Run.run_bind_failed hfind)
  | machines => exact Run.run_bind_failed (Compute.run_listMachines_closed h hown)
  | find address => exact Run.run_bind_failed (Compute.run_findMachine_closed h hown hcheck)
  | check => exact Run.run_bind_failed (Compute.run_listMachines_closed h hown)

/-- A creation passes its checks exactly if it is ordered and can be asked for. -/
theorem precheck_create {template location timeout : Value} :
    (create template location timeout).precheck ctx s = .ok () ↔
      ∃ o, Storage.order ctx.settings s.gateway.cloud (ctx.backend.now s.world.cloud) template
          location timeout = .ok o ∧
        (Storage.native s.gateway.cloud = true → o.template.size.writable = true) := by
  simp only [precheck, bind, Except.bind]
  cases Storage.order ctx.settings s.gateway.cloud (ctx.backend.now s.world.cloud) template
      location timeout with
  | error f =>
    constructor
    · nofun
    · rintro ⟨o, horder, -⟩
      cases horder
  | ok o =>
    dsimp only
    constructor
    · intro h
      refine ⟨o, rfl, fun hnative => ?_⟩
      split at h
      · cases h
      · rename_i hsayable
        simpa [hnative] using hsayable
    · rintro ⟨o', horder, hsize⟩
      cases horder
      rw [if_neg]
      simp only [Bool.and_eq_true, Bool.not_eq_true', not_and, Bool.not_eq_false]
      exact hsize

/-- Every operation fails, and changes nothing. -/
theorem fails_of_closed (h : s.Closed) (hown : (Session.closedFault s.gateway.cloud).isOwn = true)
    (op : Operation) : ∃ f, (op.run ctx).run s = (.failed f, s) := by
  cases hcheck : op.precheck ctx s with
  | error f => exact ⟨_, run_of_unchecked hcheck⟩
  | ok _ =>
    cases op with
    | create template location timeout =>
      obtain ⟨o, horder, hsize⟩ := precheck_create.1 hcheck
      exact ⟨_, Run.run_bind_failed (Storage.run_create_closed ctx h horder hsize)⟩
    | _ => exact ⟨_, run_of_closed h hown trivial hcheck⟩

end Operation

/-! ### Actions on closed sessions -/

namespace Session

variable {σ : Type} {ctx : Context σ} {s : Session σ}

theorem run_setConnection_closed (h : s.Closed) (via : Connection) :
    ∃ f, (setConnection via).run s = (.failed f, s) ∧
      (s.gateway.cloud.title.writable = true → f.isA .cloudUnavailable = true) := by
  rcases run_setConnection (by rw [h.compute, h.storage]) via with ⟨hopen, -⟩ | hrefused
  · rw [h.compute] at hopen
    cases hopen
  · exact hrefused

theorem run_setComputeConnection_closed (h : s.Closed) (via : Connection) :
    ∃ f, (setComputeConnection via).run s = (.failed f, s) ∧
      (s.gateway.cloud.title.writable = true → f.isA .cloudUnavailable = true) := by
  unfold setComputeConnection
  rw [Run.run_bind_done (run_current s)]
  cases hfits : checkFits (computeExpects s.gateway.cloud) via with
  | error f => exact ⟨f, rfl, fun _ => isA_of_checkFits hfits⟩
  | ok _ =>
    rw [Run.ofExcept_ok, pure_bind, h.compute]
    exact ⟨_, rfl, isA_closedFault⟩

theorem run_setStorageConnection_closed (h : s.Closed) (via : Connection) :
    ∃ f, (setStorageConnection via).run s = (.failed f, s) ∧
      (s.gateway.cloud.title.writable = true → f.isA .cloudUnavailable = true) := by
  unfold setStorageConnection
  rw [Run.run_bind_done (run_current s)]
  cases hfits : checkFits (storageExpects s.gateway.cloud) via with
  | error f => exact ⟨f, rfl, fun _ => isA_of_checkFits hfits⟩
  | ok _ =>
    rw [Run.ofExcept_ok, pure_bind, h.storage]
    exact ⟨_, rfl, isA_closedFault⟩

/-- There is nothing that a closed side could let go of. -/
theorem run_releaseCompute_closed (h : s.Closed) (final : Bool) :
    (releaseCompute ctx final).run s = (.done (), s) := by
  obtain ⟨w, c, rfl⟩ := h.form
  rfl

theorem run_releaseStorage_closed (h : s.Closed) (final : Bool) :
    (releaseStorage ctx final).run s = (.done (), s) := by
  obtain ⟨w, c, rfl⟩ := h.form
  rfl

theorem run_forgetAll_closed (h : s.Closed) : forgetAll.run s = (.done (), s) := by
  obtain ⟨w, c, rfl⟩ := h.form
  rfl

theorem run_disconnect_closed (h : s.Closed) : (disconnect ctx).run s = (.done (), s) := by
  unfold disconnect
  rw [Run.run_bind_done (run_releaseStorage_closed h true),
    Run.run_bind_done (run_releaseCompute_closed h true)]
  exact run_forgetAll_closed h

theorem run_forget_closed (h : s.Closed) (address : Value) :
    (forget address).run s = (.done (), s) := by
  unfold forget
  split
  · exact run_forgetAll_closed h
  · rw [Run.run_bind_done (run_current s), h.sightings, if_pos (by simp)]
    obtain ⟨w, c, rfl⟩ := h.form
    rfl

/-- **No action changes a closed session**, not even one on one side alone. -/
theorem perform_of_closed (h : s.Closed) (hown : (closedFault s.gateway.cloud).isOwn = true)
    (a : Action) : a.perform ctx s = s := by
  cases a with
  | operate op =>
    have hfails : ∃ f, (op.run ctx).run s = (.failed f, s) := op.fails_of_closed h hown
    obtain ⟨f, hrun⟩ := hfails
    exact congrArg Prod.snd hrun
  | forget address => exact congrArg Prod.snd (run_forget_closed h address)
  | connection => exact congrArg Prod.snd (Run.run_bind_failed (run_computeConnection_closed h))
  | storageConnection =>
    exact congrArg Prod.snd (Run.run_bind_failed (run_storageConnection_closed h))
  | setConnection via =>
    obtain ⟨f, hrun, -⟩ := run_setConnection_closed h via
    exact congrArg Prod.snd hrun
  | useTemplate name =>
    rcases run_useComputeTemplate ctx s name with hsame | ⟨region, w, hopen, -, -⟩
    · exact hsame
    · rw [h.compute] at hopen
      cases hopen
  | disconnect => exact congrArg Prod.snd (run_disconnect_closed h)
  | setCompute via =>
    obtain ⟨f, hrun, -⟩ := run_setComputeConnection_closed h via
    exact congrArg Prod.snd hrun
  | setStorage via =>
    obtain ⟨f, hrun, -⟩ := run_setStorageConnection_closed h via
    exact congrArg Prod.snd hrun
  | releaseCompute final => exact congrArg Prod.snd (run_releaseCompute_closed h final)
  | releaseStorage final => exact congrArg Prod.snd (run_releaseStorage_closed h final)

theorem afterAll_of_closed (h : s.Closed) (hown : (closedFault s.gateway.cloud).isOwn = true)
    (actions : List Action) : s.afterAll ctx actions = s := by
  induction actions with
  | nil => rfl
  | cons a rest ih =>
    show (a.perform ctx s).afterAll ctx rest = s
    rw [perform_of_closed h hown a]
    exact ih

/-! ### Closing is terminal -/

/-- The run fails because the cloud is unavailable, and changes nothing. -/
def Unavailable {α : Type} (s : Session σ) (x : Run (Session σ) α) : Prop :=
  ∃ f, x.run s = (.failed f, s) ∧ f.isA .cloudUnavailable = true

/-- What holds for good of a session that is closed. -/
structure Terminal (ctx : Context σ) (s : Session σ) : Prop where
  closed : s.Closed
  /-- Whatever is done, nothing is asked of the cloud, and no connection is opened or kept. -/
  unchanged : ∀ actions, s.afterAll ctx actions = s
  unconnected : Unavailable s (computeConnection ctx) ∧ Unavailable s (storageConnection ctx)
  refuses : ∀ via, Unavailable s (setConnection via) ∧ Unavailable s (setComputeConnection via) ∧
    Unavailable s (setStorageConnection via)
  /-- An operation that passes its checks finds the cloud unavailable. -/
  unavailable : ∀ op : Operation, op.Plain → op.precheck ctx s = .ok () →
    Unavailable s (op.run ctx)
  /-- A creation reports that as its cause, as far as there are words for the report. -/
  uncreated : ∀ template location timeout,
    (Operation.create template location timeout).precheck ctx s = .ok () → ∃ o f cause,
      Storage.order ctx.settings s.gateway.cloud (ctx.backend.now s.world.cloud) template location
          timeout = .ok o ∧
        (Storage.create ctx template location timeout).run s = (.failed f, s) ∧
        cause.isA .cloudUnavailable = true ∧ cause.isA .timeout = false ∧
        Storage.Reported o .null cause f

theorem terminal_of_closed (h : s.Closed) (htitle : s.gateway.cloud.title.writable = true) :
    Terminal ctx s := by
  have hkind := isA_closedFault htitle
  have hown := Fault.isOwn_of_isA hkind
  refine ⟨h, afterAll_of_closed h hown, ?_, fun via => ?_, fun op hop hcheck => ?_, ?_⟩
  · exact ⟨⟨_, run_computeConnection_closed h, hkind⟩, ⟨_, run_storageConnection_closed h, hkind⟩⟩
  · obtain ⟨f, hboth, hf⟩ := run_setConnection_closed h via
    obtain ⟨g, hcompute, hg⟩ := run_setComputeConnection_closed h via
    obtain ⟨k, hstorage, hk⟩ := run_setStorageConnection_closed h via
    exact ⟨⟨f, hboth, hf htitle⟩, ⟨g, hcompute, hg htitle⟩, ⟨k, hstorage, hk htitle⟩⟩
  · exact ⟨_, op.run_of_closed h hown hop hcheck, hkind⟩
  · intro template location timeout hcheck
    obtain ⟨o, horder, hsize⟩ := Operation.precheck_create.1 hcheck
    have htimeout : (closedFault s.gateway.cloud).isA .timeout = false := by
      unfold closedFault
      rw [Fault.mentioning_of_writable _ (by simpa using htitle)]
      rfl
    exact ⟨o, _, _, horder, Storage.run_create_closed ctx h horder hsize, hkind, htimeout,
      Storage.reported o .null _⟩

/-- **Closing is terminal.** A session can always be closed, and from then on nothing changes it. It
refuses connections, and what passes its checks and would go on to the cloud fails because that is
unavailable. What does not pass its checks needs no cloud, in this session or any other. -/
theorem disconnect_terminal (ctx : Context σ) (s : Session σ)
    (htitle : s.gateway.cloud.title.writable = true) :
    (∃ s₀, (disconnect ctx).run s = (.done (), s₀) ∧ s₀.gateway.cloud = s.gateway.cloud ∧
      Terminal ctx s₀) ∧
      ∀ (t : Session σ) (op : Operation) (f : Fault), op.precheck ctx t = .error f →
        (op.run ctx).run t = (.failed (op.report f), t) := by
  refine ⟨?_, fun t op f hcheck => op.run_of_unchecked hcheck⟩
  obtain ⟨w, hrun, -⟩ := run_disconnect ctx s
  exact ⟨_, hrun, rfl, terminal_of_closed (closed_releasing s w) htitle⟩

/-- A closed session has no machines to look for. -/
theorem disconnect_terminal_find :
    Sandbox.account.title.writable = true ∧
      ∃ s₀, (disconnect (Sandbox.context Sandbox.plainSettings)).run
          (Sandbox.start (Sandbox.pair ["10.0.0.1"] [])) = (.done (), s₀) ∧
        Unavailable s₀ ((Operation.find (.text "10.0.0.1")).run
          (Sandbox.context Sandbox.plainSettings)) := by
  have htitle : Sandbox.account.title.writable = true := Value.writable_text "trial"
  obtain ⟨⟨s₀, hrun, -, hterminal⟩, -⟩ := disconnect_terminal
    (Sandbox.context Sandbox.plainSettings) (Sandbox.start (Sandbox.pair ["10.0.0.1"] [])) htitle
  exact ⟨htitle, s₀, hrun, hterminal.unavailable (.find (.text "10.0.0.1")) trivial rfl⟩

/-- A creation in a place that is too long to be written needs the cloud, and fails without a word
of the closed connection. -/
theorem create_unsayable :
    ∃ s₀, (disconnect (Sandbox.context Sandbox.plainSettings)).run (Sandbox.start { clock := 0 }) =
        (.done (), s₀) ∧
      (Operation.create (.text "small") Sandbox.overlong .null).precheck
        (Sandbox.context Sandbox.plainSettings) s₀ = .ok () ∧
      (Storage.create (Sandbox.context Sandbox.plainSettings) (.text "small") Sandbox.overlong
          .null).run s₀ = (.failed .notWritable, s₀) ∧
      Fault.notWritable.isA .volumeCreation = false ∧
      Fault.notWritable.isA .cloudUnavailable = false := by
  have hplace : Storage.placeFor Sandbox.small Sandbox.overlong = .ok Sandbox.overlong := by
    unfold Storage.placeFor Value.orElse
    simp only [Sandbox.truthy_overlong, if_true]
  have horder : Storage.order Sandbox.plainSettings Sandbox.account 0 (.text "small")
      Sandbox.overlong .null = .ok ⟨Sandbox.small, Sandbox.overlong, 300⟩ :=
    Storage.order_eq_ok_iff.2 ⟨rfl, rfl, hplace, rfl⟩
  have hsize : Sandbox.small.size.writable = true := by decide +kernel
  refine ⟨(Sandbox.start { clock := 0 }).releasing true (Sandbox.start { clock := 0 }).world, rfl,
    Operation.precheck_create.2 ⟨_, horder, fun _ => hsize⟩, ?_, rfl, rfl⟩
  exact Storage.run_create_unsayable (Sandbox.context Sandbox.plainSettings)
    (closed_releasing _ _) horder (fun _ => hsize) Sandbox.writable_overlong rfl

end Session

end BlockStorage
