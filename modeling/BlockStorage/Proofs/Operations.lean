import BlockStorage.Proofs.Creation

/-!
Everything that can be done with a session.

There are twelve operations on volumes and machines (`Operation`). Whatever they do is made of
steps, and none of them closes a connection (`Operation.within_works`). Besides operations there are
the actions on the session itself: its connection is asked for or replaced, its region is changed, and
it is closed (`Action`). Those that act on both sides are joint; the others open, replace or close the
connection of one side alone.

What the actions do that no step does is said here once: a given connection is used by both sides
or by none (`run_setConnection`), and both sides let go of their connections together
(`run_disconnect`, `run_useComputeTemplate`).
-/
namespace BlockStorage

/-! ### Operations -/

/-- The operations on volumes and machines, with their arguments. -/
inductive Operation where
  | create (template location timeout : Value)
  | attach (id device address timeout : Value)
  | detach (id address timeout : Value)
  | delete (location id timeout : Value)
  | list (address : Value)
  | listAll
  | status (id : Value)
  | name (id : Value)
  | volumeIds (address : Value)
  | machines
  | find (address : Value)
  | check

namespace Operation

variable {σ : Type}

/-- The operation, whatever its result. -/
def run (ctx : Context σ) : Operation → Run (Session σ) Unit
  | create template location timeout => do
    let _ ← Storage.create ctx template location timeout
  | attach id device address timeout => Storage.attach ctx id device address timeout
  | detach id address timeout => Storage.detach ctx id address timeout
  | delete location id timeout => Storage.delete ctx location id timeout
  | list address => do let _ ← Storage.list ctx address
  | listAll => do let _ ← Storage.listAll ctx
  | status id => do let _ ← Storage.status ctx id
  | name id => do let _ ← Storage.volumeName ctx id
  | volumeIds address => do let _ ← Compute.volumeIds ctx address
  | machines => do let _ ← Compute.listMachines ctx
  | find address => do let _ ← Compute.findMachine ctx address
  | check => Compute.checkConnection ctx

end Operation

/-- The operation is none that changes a volume. -/
def Operation.Reads : Operation → Prop
  | create .. | attach .. | detach .. | delete .. => False
  | _ => True

/-- Whatever can be done. -/
def Deed.Any (_ : Deed) : Prop := True

/-- What only reads: machines and volumes are listed, and tags are asked for. -/
def Deed.Reads : Deed → Prop
  | .asks .listInstances | .asks (.describeInstances _) => True
  | .asks .listDisks | .asks (.describeDisks _) => True
  | .asks (.describeTags _) => True
  | _ => False

theorem Deed.Reads.works {d : Deed} (h : d.Reads) : d.Works := by
  cases d with
  | asks r => cases r <;> trivial
  | sleeps seconds => trivial

/-! ### Operations are made of steps -/

namespace Compute

open Session

variable {σ : Type} {ctx : Context σ} {allowed : Deed → Prop}

theorem within_listMachines (hlist : allowed (.asks .listInstances)) :
    Within ctx allowed (listMachines ctx) := by
  refine Within.translating ?_ _
  refine (within_fetchInstances hlist).bind fun nodes => ?_
  exact Within.forEach fun i _ => within_describe i

theorem within_checkConnection (hlist : allowed (.asks .listInstances)) :
    Within ctx allowed (checkConnection ctx) :=
  (within_listMachines hlist).bind fun _ => Within.pure _

theorem works_findMachine (ctx : Context σ) (address : Value) :
    Within ctx Deed.Works (findMachine ctx address) :=
  within_findMachine address trivial fun _ => trivial

theorem within_volumeIds (address : Value) (hlist : allowed (.asks .listInstances))
    (hone : ∀ id, allowed (.asks (.describeInstances [id]))) :
    Within ctx allowed (volumeIds ctx address) :=
  (within_findMachine address hlist hone).bind fun _ => Within.ofExcept _

end Compute

namespace Storage

open Session

variable {σ : Type}

theorem within_deadline (ctx : Context σ) (timeout : Value) :
    Within ctx Deed.Works (deadline ctx timeout) :=
  Within.now.bind fun _ => Within.ofExcept _

section Listing

variable {ctx : Context σ} {allowed : Deed → Prop}

theorem within_toVolumes (seen : List Value) (disks : List Disk)
    (htags : ∀ id, allowed (.asks (.describeTags id))) :
    Within ctx allowed (toVolumes ctx seen disks) := by
  induction disks generalizing seen with
  | nil => exact Within.pure _
  | cons d rest ih =>
    unfold toVolumes
    split
    · exact Within.fail _
    · split
      · exact ih seen
      · refine (within_toVolume d (htags d.id)).bind fun v => ?_
        exact (ih _).bind fun _ => Within.pure _

/-- Listing volumes lists them and asks for the tags of each. -/
theorem within_listAll (hsome : allowed (.asks (.describeDisks [])))
    (hall : allowed (.asks .listDisks)) (htags : ∀ id, allowed (.asks (.describeTags id))) :
    Within ctx allowed (listAll ctx) := by
  refine Within.translating ?_ _
  refine ((within_describeDisks [] hsome hall).wrapForeign _).bind fun disks => ?_
  exact within_toVolumes [] disks htags

theorem within_listAttached (m : Machine) (hsome : allowed (.asks (.describeDisks [])))
    (hall : allowed (.asks .listDisks)) (htags : ∀ id, allowed (.asks (.describeTags id))) :
    Within ctx allowed (listAttached ctx m) := by
  refine (Within.ofExcept _).bind fun attached => ?_
  exact (within_listAll hsome hall htags).bind fun volumes => Within.ofExcept _

theorem within_list (address : Value) (hlist : allowed (.asks .listInstances))
    (hone : ∀ id, allowed (.asks (.describeInstances [id])))
    (hsome : allowed (.asks (.describeDisks []))) (hall : allowed (.asks .listDisks))
    (htags : ∀ id, allowed (.asks (.describeTags id))) : Within ctx allowed (list ctx address) :=
  (Compute.within_findMachine address hlist hone).bind fun m =>
    within_listAttached m hsome hall htags

end Listing

theorem works_await (ctx : Context σ) (id : Value) (wanted : Status) (deadline : Float) :
    Within ctx Deed.Works (await ctx id wanted deadline) :=
  within_await id wanted deadline trivial trivial trivial

theorem within_delete (ctx : Context σ) (location id timeout : Value) :
    Within ctx Deed.Works (delete ctx location id timeout) := by
  refine (within_deadline ctx timeout).bind fun deadline => ?_
  refine ((within_askStorage trivial).wrapForeign _).bind fun _ => ?_
  refine (works_await ctx id _ deadline).catching fun f => ?_
  split
  · exact Within.pure _
  · exact Within.fail _

theorem within_create (ctx : Context σ) (template location timeout : Value) :
    Within ctx Deed.Works (create ctx template location timeout) := by
  refine Within.current.bind fun g => Within.now.bind fun now => ?_
  exact (Within.ofExcept _).bind fun o => within_provision ctx o

theorem within_requestAttach (ctx : Context σ) (m : Machine) (id device : Value) :
    Within ctx Deed.Works (requestAttach ctx m id device) := by
  intro s
  have hsteps : Steps ctx Deed.Works s ((storageConnection ctx).run s).2 :=
    within_storageConnection s
  unfold requestAttach
  cases hrun : (storageConnection ctx).run s with
  | mk out s₁ =>
    rw [hrun] at hsteps
    cases out with
    | failed f => rwa [Run.run_bind_failed hrun]
    | stalled => rwa [Run.run_bind_stalled hrun]
    | done via =>
      rw [Run.run_bind_done hrun]
      cases handle m with
      | error f => exact hsteps
      | ok referred =>
        rw [Run.ofExcept_ok, pure_bind]
        exact hsteps.trans (within_request trivial (.inr (storageConnection_done hrun)))

theorem within_attach (ctx : Context σ) (id device address timeout : Value) :
    Within ctx Deed.Works (attach ctx id device address timeout) := by
  refine Within.translating ?_ _
  refine (Within.ofExcept _).bind fun _ => (Within.ofExcept _).bind fun _ => ?_
  refine (within_deadline ctx timeout).bind fun deadline => ?_
  refine (Compute.works_findMachine ctx address).bind fun m => ?_
  refine (Within.ofExcept _).bind fun held => ?_
  have hrest : Within ctx Deed.Works (do
      (requestAttach ctx m id device).wrapForeign (attachmentFault id address m)
      await ctx id .inUse deadline) :=
    ((within_requestAttach ctx m id device).wrapForeign _).bind fun _ =>
      works_await ctx id _ deadline
  dsimp only
  split
  · exact (Within.fail _).bind fun _ => hrest
  · exact hrest

theorem within_requestDetach (ctx : Context σ) (id : Value) (m : Machine) :
    Within ctx Deed.Works (requestDetach ctx id m) := by
  refine Within.current.bind fun g => ?_
  split
  · exact within_askStorage trivial
  · exact within_askStorage trivial

theorem within_detach (ctx : Context σ) (id address timeout : Value) :
    Within ctx Deed.Works (detach ctx id address timeout) := by
  refine Within.translating ?_ _
  refine (within_deadline ctx timeout).bind fun deadline => ?_
  refine (Compute.works_findMachine ctx address).bind fun m => ?_
  refine (within_listAttached m trivial trivial fun _ => trivial).bind fun attached => ?_
  have hrest : Within ctx Deed.Works (do
      (requestDetach ctx id m).wrapForeign (detachmentFault id address m)
      await ctx id .available deadline) :=
    ((within_requestDetach ctx id m).wrapForeign _).bind fun _ =>
      works_await ctx id _ deadline
  dsimp only
  split
  · exact (Within.fail _).bind fun _ => hrest
  · exact hrest

end Storage

namespace Operation

open Session

variable {σ : Type}

/-- An operation that changes no volume only reads. -/
theorem within_reads (ctx : Context σ) {op : Operation} (hop : op.Reads) :
    Within ctx Deed.Reads (op.run ctx) := by
  cases op with
  | create | attach | detach | delete => exact hop.elim
  | list address =>
    refine Within.bind ?_ fun _ => Within.pure _
    exact Storage.within_list address trivial (fun _ => trivial) trivial trivial fun _ => trivial
  | listAll =>
    exact (Storage.within_listAll trivial trivial fun _ => trivial).bind fun _ => Within.pure _
  | status id => exact (Storage.within_status id trivial trivial).bind fun _ => Within.pure _
  | name id => exact (Storage.within_volumeName id trivial).bind fun _ => Within.pure _
  | volumeIds address =>
    exact (Compute.within_volumeIds address trivial fun _ => trivial).bind fun _ => Within.pure _
  | machines => exact (Compute.within_listMachines trivial).bind fun _ => Within.pure _
  | find address =>
    exact (Compute.within_findMachine address trivial fun _ => trivial).bind fun _ => Within.pure _
  | check => exact Compute.within_checkConnection trivial

/-- **An operation is made of steps**, whatever it is and however it ends, and closes no
connection. -/
theorem within_works (ctx : Context σ) (op : Operation) : Within ctx Deed.Works (op.run ctx) := by
  cases op with
  | create template location timeout =>
    exact (Storage.within_create ctx template location timeout).bind fun _ => Within.pure _
  | attach id device address timeout => exact Storage.within_attach ctx id device address timeout
  | detach id address timeout => exact Storage.within_detach ctx id address timeout
  | delete location id timeout => exact Storage.within_delete ctx location id timeout
  | _ =>
    refine Within.mono (within_reads ctx ?_) fun _ => Deed.Reads.works
    trivial

theorem within_run (ctx : Context σ) (op : Operation) : Within ctx Deed.Any (op.run ctx) :=
  (within_works ctx op).mono fun _ _ => trivial

end Operation

namespace Session

variable {σ : Type} {ctx : Context σ} {s : Session σ}

/-! ### Given connections -/

/-- The session with a connection that both sides use. -/
def holding (s : Session σ) (via : Connection) : Session σ :=
  { s with gateway := { s.gateway with
      compute := { s.gateway.compute with connection := some via }
      storage := { s.gateway.storage with connection := some via } } }

theorem isA_closedFault {c : Cloud} (h : c.title.writable = true) :
    (closedFault c).isA .cloudUnavailable = true := by
  unfold closedFault
  rw [Fault.mentioning_of_writable _ (by simpa using h)]
  rfl

/-- What fits the compute side fits the storage side, which asks for no more. -/
theorem checkFits_storage {c : Cloud} {via : Connection}
    (h : checkFits (computeExpects c) via = .ok ()) :
    checkFits (storageExpects c) via = .ok () := by
  unfold storageExpects
  split
  · rename_i hamazon
    unfold checkFits computeExpects at h
    simp only [hamazon, Cloud.Class.hasAccount, if_true] at h
    unfold checkFits
    split
    · rename_i hpart
      split
      · rename_i hforeign
        rw [if_pos hforeign] at h
        cases h
      · rfl
    · rfl
  · rfl

theorem isA_of_checkFits {expects : Option String} {via : Connection} {f : Fault}
    (h : checkFits expects via = .error f) : f.isA .cloudUnavailable = true := by
  unfold checkFits at h
  split at h
  · split at h
    · cases h
      rfl
    · cases h
  · cases h

/-- A given connection is used by both sides, or it is refused and nothing is changed. -/
theorem run_setConnection (hclosed : s.gateway.storage.closed = s.gateway.compute.closed)
    (via : Connection) :
    (s.gateway.compute.closed = false ∧
        (setConnection via).run s = (.done (), s.holding via)) ∨
      ∃ f, (setConnection via).run s = (.failed f, s) ∧
        (s.gateway.cloud.title.writable = true → f.isA .cloudUnavailable = true) := by
  unfold setConnection setComputeConnection setStorageConnection
  rw [bind_assoc, Run.run_bind_done (run_current s), bind_assoc]
  cases hfits : checkFits (computeExpects s.gateway.cloud) via with
  | error f => exact .inr ⟨f, rfl, fun _ => isA_of_checkFits hfits⟩
  | ok _ =>
    rw [Run.ofExcept_ok, pure_bind]
    cases hcompute : s.gateway.compute.closed with
    | true => exact .inr ⟨_, rfl, isA_closedFault⟩
    | false =>
      refine .inl ⟨rfl, ?_⟩
      rw [hcompute] at hclosed
      simp only [Bool.false_eq_true, if_false, modifyGateway, Run.run_bind, Run.run_modify,
        run_current, checkFits_storage hfits, Run.ofExcept_ok, Run.run_pure, hclosed, holding]

/-! ### Letting go -/

/-- Closing a connection has no effect but on the world, and opens none. -/
theorem run_hangUp (ctx : Context σ) (s : Session σ) (held : Option Connection) :
    ∃ w, (hangUp ctx held).run s = (.done (), { s with world := w }) ∧
      w.connections = s.world.connections := by
  cases held with
  | none => exact ⟨s.world, rfl, rfl⟩
  | some via =>
    unfold hangUp
    rw [Run.run_catching, request, run_inWorld]
    by_cases hserves : via.serves .close = true
    · rw [World.run_request hserves]
      cases (ctx.backend.respond via .close s.world.cloud).1 with
      | ok _ => exact ⟨_, rfl, rfl⟩
      | error f => exact ⟨_, rfl, rfl⟩
    · rw [World.run_request_refused hserves]
      exact ⟨s.world, rfl, rfl⟩

theorem run_releaseCompute (ctx : Context σ) (final : Bool) (s : Session σ) :
    ∃ w, (releaseCompute ctx final).run s = (.done (), { s with
        world := w
        gateway := { s.gateway with
          compute := ⟨none, s.gateway.compute.closed || final⟩ } }) ∧
      w.connections = s.world.connections := by
  unfold releaseCompute modifyGateway
  rw [Run.run_bind_done (run_current s), Run.run_bind_done (Run.run_modify _ s)]
  exact run_hangUp ctx _ _

theorem run_releaseStorage (ctx : Context σ) (final : Bool) (s : Session σ) :
    ∃ w, (releaseStorage ctx final).run s = (.done (), { s with
        world := w
        gateway := { s.gateway with
          storage := ⟨none, s.gateway.storage.closed || final⟩ } }) ∧
      w.connections = s.world.connections := by
  unfold releaseStorage modifyGateway
  rw [Run.run_bind_done (run_current s), Run.run_bind_done (Run.run_modify _ s)]
  exact run_hangUp ctx _ _

/-- The session after both sides let go of their connections, in the world that is left. -/
def releasing (s : Session σ) (final : Bool) (w : World σ) : Session σ where
  world := w
  gateway := { s.gateway with
    compute := ⟨none, s.gateway.compute.closed || final⟩
    storage := ⟨none, s.gateway.storage.closed || final⟩
    sightings := [] }

/-- Both sides let go, and what was seen is forgotten. -/
theorem run_release (ctx : Context σ) (final : Bool) (s : Session σ) :
    ∃ w, (do releaseStorage ctx final; releaseCompute ctx final; forgetAll :
        Run (Session σ) Unit).run s = (.done (), s.releasing final w) ∧
      w.connections = s.world.connections := by
  obtain ⟨w₁, hstorage, hcount₁⟩ := run_releaseStorage ctx final s
  obtain ⟨w₂, hcompute, hcount₂⟩ := run_releaseCompute ctx final { s with
    world := w₁
    gateway := { s.gateway with storage := ⟨none, s.gateway.storage.closed || final⟩ } }
  refine ⟨w₂, ?_, hcount₂.trans hcount₁⟩
  rw [Run.run_bind_done hstorage, Run.run_bind_done hcompute]
  rfl

/-- Closing always succeeds. -/
theorem run_disconnect (ctx : Context σ) (s : Session σ) :
    ∃ w, (disconnect ctx).run s = (.done (), s.releasing true w) ∧
      w.connections = s.world.connections :=
  run_release ctx true s

/-- A compute template that moves a session to another region makes both sides let go. Otherwise
nothing is changed. -/
theorem run_useComputeTemplate (ctx : Context σ) (s : Session σ) (name : Value) :
    ((useComputeTemplate ctx name).run s).2 = s ∨
      ∃ region w, s.gateway.compute.closed = false ∧ w.connections = s.world.connections ∧
        (useComputeTemplate ctx name).run s = (.done (), ({ s with gateway := { s.gateway with
          cloud := { s.gateway.cloud with region } } } : Session σ).releasing false w) := by
  unfold useComputeTemplate
  rw [Run.run_bind_done (run_current s)]
  cases s.gateway.cloud.computeTemplate name with
  | error f => exact .inl rfl
  | ok template =>
    rw [Run.ofExcept_ok, pure_bind]
    split
    · cases region s.gateway.cloud with
      | error f => exact .inl rfl
      | ok old =>
        rw [Run.ofExcept_ok, pure_bind]
        split
        · cases hclosed : s.gateway.compute.closed with
          | true => exact .inl rfl
          | false =>
            rw [if_neg Bool.false_ne_true, modifyGateway, Run.run_bind_done (Run.run_modify _ s)]
            obtain ⟨w, hrelease, hcount⟩ := run_release ctx false { s with
              gateway := { s.gateway with
                cloud := { s.gateway.cloud with region := template.location } } }
            exact .inr ⟨template.location, w, rfl, hcount, hrelease⟩
        · exact .inl rfl
    · exact .inl rfl

end Session

/-! ### Actions -/

/-- What can be done with a session. -/
inductive Action where
  | operate (op : Operation)
  | forget (address : Value)
  | connection
  | storageConnection
  | setConnection (via : Connection)
  | useTemplate (name : Value)
  | disconnect
  -- On one side alone.
  | setCompute (via : Connection)
  | setStorage (via : Connection)
  | releaseCompute (final : Bool)
  | releaseStorage (final : Bool)

namespace Action

variable {σ : Type}

/-- The action, whatever its result. -/
def run (ctx : Context σ) : Action → Run (Session σ) Unit
  | operate op => op.run ctx
  | forget address => Session.forget address
  | connection => do let _ ← Session.computeConnection ctx
  | storageConnection => do let _ ← Session.storageConnection ctx
  | setConnection via => Session.setConnection via
  | useTemplate name => Session.useComputeTemplate ctx name
  | disconnect => Session.disconnect ctx
  | setCompute via => Session.setComputeConnection via
  | setStorage via => Session.setStorageConnection via
  | releaseCompute final => Session.releaseCompute ctx final
  | releaseStorage final => Session.releaseStorage ctx final

/-- The action is not on one side alone. -/
def Joint : Action → Prop
  | setCompute _ | setStorage _ | releaseCompute _ | releaseStorage _ => False
  | _ => True

/-- The action closes the session or moves it to another region. -/
def Resets : Action → Prop
  | disconnect | useTemplate _ => True
  | _ => False

/-- The session after the action, however that ended. -/
def perform (ctx : Context σ) (a : Action) (s : Session σ) : Session σ := ((a.run ctx).run s).2

end Action

/-- The session after some actions, the first one first. -/
def Session.afterAll {σ : Type} (ctx : Context σ) (actions : List Action) (s : Session σ) :
    Session σ :=
  actions.foldl (fun s a => a.perform ctx s) s

end BlockStorage
