import BlockStorage.Proofs.Attaching

/-!
Faults that blame no input.

That some input is bad is said where it is looked at, before the cloud is asked to change anything.
Whatever goes wrong in the cloud is told in foreign words, which stay foreign or become ours of other
kinds, and the parts of an operation that ask the cloud find nothing wrong with its input.

Statements: decisions on what was told fail with foreign faults only (`NeverOwn`), what is made of them
while the cloud is asked blames no input (`Blameless`), and so no machine is looked for, no volume
listed, provided or waited for with a fault that does (`blameless_findMachine`, `blameless_listAll`,
`blameless_provision`, `blameless_await`).
-/
namespace BlockStorage

namespace Fault

/-- The fault blames no input. -/
def Blameless (f : Fault) : Prop := f.isA .validation = false

namespace Blameless

variable {f : Fault}

theorem of_foreign (h : f.isOwn = false) : f.Blameless := by
  cases f with
  | own => cases h
  | foreign => rfl

theorem because {kind : Kind} {message : String} {cause : Option Fault}
    {context : List (String × Value)} (hkind : kind.isA .validation = false) :
    (Fault.because kind message cause context).Blameless := hkind

theorem mentioning (h : f.Blameless) (shown : List Value) :
    (Fault.mentioning shown f).Blameless := by
  unfold Fault.mentioning
  split
  · exact h
  · rfl

theorem translate (h : f.Blameless) {kind : Kind} (hkind : kind.isA .validation = false) :
    (f.translate kind).Blameless := by
  unfold Fault.translate
  split
  · exact h
  · rfl
  · exact hkind

/-- What blames no input does not tell that a volume is already attached. -/
theorem not_alreadyAttached (h : f.Blameless) : f.isA .alreadyAttached = false := by
  cases hreason : f.isA .alreadyAttached with
  | false => rfl
  | true =>
    cases f with
    | foreign => cases hreason
    | own kind message context cause =>
      have hblames : kind.isA .validation = true := Kind.isA_trans hreason rfl
      exact absurd (hblames.symm.trans h) (by simp)

end Blameless

/-- Faults of one family are of no other: an expired wait blames no input. -/
theorem Blameless.of_timeout {f : Fault} (h : f.isA .timeout = true) : f.Blameless := by
  cases f with
  | foreign => cases h
  | own kind message context cause => cases kind <;> first | rfl | cases h

end Fault

/-! ### Decisions -/

/-- A decision is not taken for foreign reasons only. -/
def NeverOwn {α : Type} (e : Except Fault α) : Prop := ∀ f, e = .error f → f.isOwn = false

namespace NeverOwn

variable {α β : Type} {e : Except Fault α}

theorem ok (a : α) : NeverOwn (.ok a : Except Fault α) := nofun

theorem error {f : Fault} (h : f.isOwn = false) : NeverOwn (.error f : Except Fault α) := by
  rintro _ ⟨⟩
  exact h

theorem bind {next : α → Except Fault β} (he : NeverOwn e) (hnext : ∀ a, NeverOwn (next a)) :
    NeverOwn (e >>= next) := by
  cases e with
  | error f => exact error (he f rfl)
  | ok a => exact hnext a

theorem map (f : α → β) (he : NeverOwn e) : NeverOwn (e.map f) := by
  cases e with
  | error g => exact error (he g rfl)
  | ok a => exact ok (f a)

theorem mapM {decide : α → Except Fault β} (h : ∀ a, NeverOwn (decide a)) (xs : List α) :
    NeverOwn (xs.mapM decide) := by
  induction xs with
  | nil => exact ok []
  | cons x rest ih =>
    rw [List.mapM_cons]
    exact (h x).bind fun y => ih.bind fun ys => ok (y :: ys)

/-- Such a decision blames no input where it is taken. -/
theorem blameless {σ : Type} (he : NeverOwn e) :
    (Run.ofExcept e : Run σ α).OnlyFails Fault.Blameless :=
  .ofExcept fun f hf => .of_foreign (he f hf)

end NeverOwn

/-! ### What was told -/

theorem Value.neverOwn_members (v : Value) : NeverOwn v.members := by
  unfold members
  split <;> first | exact .ok _ | exact .error rfl

theorem Value.neverOwn_nth (what place : String) (xs : List Value) (key : Value) :
    NeverOwn (nth what place xs key) := by
  unfold nth
  split
  · unfold notPosition
    split <;> exact .error rfl
  · split
    · exact .error rfl
    · split
      · exact .ok _
      · exact .error rfl

theorem Value.neverOwn_item (v key : Value) : NeverOwn (v.item key) := by
  unfold item
  split
  · unfold entry
    split
    · exact .error rfl
    · dsimp only
      split
      · exact .ok _
      · exact .error rfl
  · exact neverOwn_nth _ _ _ key
  · exact neverOwn_nth _ _ _ key
  · exact neverOwn_nth _ _ _ key
  · exact .error rfl

namespace Record

theorem neverOwn_elements (v : Value) : NeverOwn (elements v) := by
  unfold elements
  split
  · exact v.neverOwn_members
  · exact .ok _

theorem neverOwn_takeTexts (v : Value) : NeverOwn (takeTexts v) := (neverOwn_elements v).map _

theorem neverOwn_entries (v : Value) (wanted : String) : NeverOwn (entries v wanted) := by
  unfold entries
  split
  · exact .ok _
  · exact .error rfl

theorem neverOwn_pair (v : Value) (i : Nat) : NeverOwn (pair v i) := by
  unfold pair
  split
  · split
    · exact .ok _
    · exact .error rfl
  · exact .error rfl
  · exact .error rfl

theorem neverOwn_copyEntries (v : Value) : NeverOwn (copyEntries v) := by
  unfold copyEntries
  split
  · exact .ok _
  · refine v.neverOwn_members.bind fun xs => ?_
    exact (NeverOwn.mapM (fun x => neverOwn_pair x.1 x.2) xs.zipIdx).bind fun _ => .ok _

end Record

theorem Device.neverOwn_ofMapping (v : Value) : NeverOwn (ofMapping v) :=
  (Record.neverOwn_entries v "get").bind fun _ =>
    (Record.neverOwn_entries _ "get").bind fun _ => .ok _

theorem Instance.neverOwn_devices (cls : Cloud.Class) (i : Instance) : NeverOwn (i.devices cls) := by
  unfold devices
  split
  · exact (Record.neverOwn_elements i.mapping).bind fun _ =>
      NeverOwn.mapM Device.neverOwn_ofMapping _
  · exact .ok _

/-- A machine is not described for foreign reasons only, if that holds of its private addresses. -/
theorem Instance.neverOwn_describe {i : Instance} (hi : NeverOwn i.privateAddresses)
    (cls : Cloud.Class) : NeverOwn (i.describe cls) := by
  refine hi.bind fun told => (Record.neverOwn_takeTexts told).bind fun _ => ?_
  refine (Record.neverOwn_takeTexts i.publicAddresses).bind fun _ => ?_
  exact (i.neverOwn_devices cls).bind fun _ => .ok _

namespace Machine

theorem neverOwn_members (xs : List Value) : NeverOwn (members xs) := by
  unfold members
  split
  · exact .error rfl
  · exact .ok _

theorem neverOwn_hasAddress (m : Machine) (address : Value) : NeverOwn (m.hasAddress address) := by
  refine (neverOwn_members _).bind fun known => ?_
  split
  · exact .ok _
  · exact .error rfl

theorem neverOwn_attachedVolumes (m : Machine) : NeverOwn m.attachedVolumes := neverOwn_members _

theorem neverOwn_holdsVolume (m : Machine) (volume : Value) : NeverOwn (m.holdsVolume volume) := by
  refine m.neverOwn_attachedVolumes.bind fun attached => ?_
  split
  · exact .ok _
  · exact .error rfl

end Machine

theorem Status.neverOwn_ofState (state : Value) : NeverOwn (ofState state) := by
  unfold ofState
  split
  · exact .ok _
  · split
    · exact .ok _
    · exact .error rfl

theorem Clock.neverOwn_checkSleep (seconds : Value) : NeverOwn (checkSleep seconds) := by
  unfold checkSleep
  split
  · exact .error rfl
  · split
    · exact .error rfl
    · exact .ok _

theorem Session.neverOwn_driverOf (settings : Settings) : NeverOwn (driverOf settings) :=
  (Value.neverOwn_item _ _).bind fun _ => Value.neverOwn_item _ _

namespace Storage

theorem neverOwn_tagOf (sheet : TagSheet) (name : Value) : NeverOwn (tagOf sheet name) := by
  have hlookup : ∀ ts, NeverOwn (tagOf.lookUp name ts) := fun ts => by
    unfold tagOf.lookUp
    split
    · exact .ok _
    · exact .error rfl
  unfold tagOf
  split
  · exact hlookup _
  · split
    · exact .error rfl
    · exact hlookup _

theorem neverOwn_sizeOf (v : Value) : NeverOwn (sizeOf v) := by
  unfold sizeOf
  split
  · exact .ok _
  · exact .error rfl
  · exact .ok _

theorem neverOwn_restrict (volumes : List Volume) (attached : List Value) :
    NeverOwn (restrict volumes attached) := by
  unfold restrict
  split
  · exact .error rfl
  · exact .ok _

theorem neverOwn_handle (m : Machine) : NeverOwn (handle m) := by
  unfold handle
  split
  · exact .ok _
  · split
    · exact .ok _
    · exact .error rfl

end Storage

/-! ### What the cloud does -/

/-- What goes wrong in the cloud is told in foreign words. -/
structure Backend.Foreign {σ : Type} (b : Backend σ) : Prop where
  connect : ∀ how w f, (b.connect how w).1 = .error f → f.isOwn = false
  respond : ∀ via r w f, (b.respond via r w).1 = .error f → f.isOwn = false
  sleep : ∀ seconds w f, (b.sleep seconds w).1 = .error f → f.isOwn = false

/-- So is what goes wrong with the machines that the cloud tells of. -/
structure Backend.Alien {σ : Type} (b : Backend σ) : Prop extends b.Foreign where
  listed : ∀ via w nodes, (b.respond via .listInstances w).1 = .ok nodes →
    ∀ i ∈ nodes, NeverOwn i.privateAddresses
  described : ∀ via ids w nodes, (b.respond via (.describeInstances ids) w).1 = .ok nodes →
    ∀ i ∈ nodes, NeverOwn i.privateAddresses

namespace Session

open Fault

variable {σ α : Type} {ctx : Context σ}

theorem blameless_act {act : σ → Except Fault α × σ}
    (h : ∀ w f, (act w).1 = .error f → f.isOwn = false) : (World.act act).OnlyFails Blameless := by
  intro w f w' hrun
  rw [World.run_act] at hrun
  exact .of_foreign (h w.cloud f (Outcome.ofExcept_eq_failed.1 (congrArg Prod.fst hrun)))

theorem blameless_inWorld {x : Run (World σ) α} (h : x.OnlyFails Blameless) :
    (inWorld x : Run (Session σ) α).OnlyFails Blameless := fun s f _ hrun =>
  h s.world f _ (Prod.ext (congrArg Prod.fst hrun :) rfl)

theorem blameless_current : (current : Run (Session σ) Gateway).OnlyFails Blameless :=
  Run.OnlyFails.get.bind fun _ => .pure _

theorem blameless_request (hforeign : ctx.backend.Foreign) (via : Connection) (r : Request) :
    (request ctx via r).OnlyFails Blameless := by
  refine blameless_inWorld ?_
  unfold World.request
  split
  · exact (Run.OnlyFails.modify _).bind fun _ => blameless_act (hforeign.respond via r)
  · exact .fail rfl

theorem blameless_sleep (hforeign : ctx.backend.Foreign) (seconds : Value) :
    (sleep ctx seconds).OnlyFails Blameless := by
  refine blameless_inWorld ((Clock.neverOwn_checkSleep seconds).blameless.bind fun _ => ?_)
  exact (Run.OnlyFails.modify _).bind fun _ => blameless_act (hforeign.sleep seconds)

theorem blameless_connect (hforeign : ctx.backend.Foreign) : (connect ctx).OnlyFails Blameless := by
  refine blameless_current.bind fun g => ?_
  dsimp only
  split
  · refine (neverOwn_driverOf ctx.settings).blameless.bind fun driver => blameless_inWorld ?_
    refine (Run.OnlyFails.modify _).bind fun _ => ?_
    refine (blameless_act (hforeign.connect _)).bind fun _ => ?_
    exact Run.OnlyFails.get.bind fun _ => (Run.OnlyFails.modify _).bind fun _ => .pure _
  · exact .fail rfl

theorem blameless_closedFault (c : Cloud) : (closedFault c).Blameless := .mentioning (.because rfl) _

theorem blameless_computeConnection (hforeign : ctx.backend.Foreign) :
    (computeConnection ctx).OnlyFails Blameless := by
  refine blameless_current.bind fun g => ?_
  split
  · exact .fail (blameless_closedFault g.cloud)
  · split
    · exact .pure _
    · refine Run.OnlyFails.bind (.wrapForeign ?_ fun _ => .because rfl) fun via => ?_
      · exact blameless_connect hforeign
      · exact (Run.OnlyFails.modify _).bind fun _ => .pure _

theorem blameless_storageConnection (hforeign : ctx.backend.Foreign) :
    (storageConnection ctx).OnlyFails Blameless := by
  refine blameless_current.bind fun g => ?_
  split
  · exact .fail (blameless_closedFault g.cloud)
  · split
    · exact .pure _
    · refine Run.OnlyFails.bind (.wrapForeign ?_ fun _ => .because rfl) fun via => ?_
      · exact blameless_computeConnection hforeign
      · exact (Run.OnlyFails.modify _).bind fun _ => .pure _

theorem blameless_askCompute (hforeign : ctx.backend.Foreign) (r : Request) :
    (askCompute ctx r).OnlyFails Blameless :=
  (blameless_computeConnection hforeign).bind fun via => blameless_request hforeign via r

theorem blameless_askStorage (hforeign : ctx.backend.Foreign) (r : Request) :
    (askStorage ctx r).OnlyFails Blameless :=
  (blameless_storageConnection hforeign).bind fun via => blameless_request hforeign via r

/-- What cannot be forgotten is no key. -/
theorem blameless_forget (address : Value) :
    (forget address : Run (Session σ) Unit).OnlyFails Blameless := by
  unfold forget
  split
  · exact .modify _
  · refine blameless_current.bind fun g => ?_
    split
    · exact .modify _
    · exact .fail rfl

end Session

/-! ### Machines -/

namespace Compute

open Session Fault

variable {σ : Type} {ctx : Context σ} {s s' : Session σ}

/-- What is asked for through the compute side was told by the cloud. -/
theorem told_of_askCompute {r : Request} {a : r.Answer}
    (h : (askCompute ctx r).run s = (.done a, s')) :
    ∃ via w, (ctx.backend.respond via r w).1 = .ok a := by
  obtain ⟨via, s₁, -, hrequest⟩ := Run.done_of_run_bind h
  rw [request, run_inWorld] at hrequest
  by_cases hserves : via.serves r = true
  · rw [World.run_request hserves] at hrequest
    exact ⟨via, _, Outcome.ofExcept_eq_done.1 (congrArg Prod.fst hrequest)⟩
  · rw [World.run_request_refused hserves] at hrequest
    cases hrequest

theorem neverOwn_of_fetchInstances (halien : ctx.backend.Alien) {nodes : List Instance}
    (h : (fetchInstances ctx).run s = (.done nodes, s')) :
    ∀ i ∈ nodes, NeverOwn i.privateAddresses := by
  obtain ⟨via, w, htold⟩ := told_of_askCompute h
  exact halien.listed via w nodes htold

theorem neverOwn_of_fetchInstance (halien : ctx.backend.Alien) {id : Value} {i : Instance}
    (h : (fetchInstance ctx id).run s = (.done (some i), s')) : NeverOwn i.privateAddresses := by
  unfold fetchInstance at h
  rw [Run.run_bind_done (run_current s)] at h
  split at h
  · rw [Run.run_catching] at h
    split at h
    · cases h
    · rw [map_eq_pure_bind] at h
      obtain ⟨nodes, s₁, hasked, hhead⟩ := Run.done_of_run_bind h
      obtain ⟨via, w, htold⟩ := told_of_askCompute hasked
      have hhead : nodes.head? = some i := Outcome.done.inj (congrArg Prod.fst hhead)
      exact halien.described via [id] w nodes htold i (List.mem_of_mem_head? hhead)
  · obtain ⟨nodes, s₁, hlist, hfound⟩ := Run.done_of_run_bind h
    have hfound : nodes.find? (fun i => i.id.equal id) = some i :=
      Outcome.done.inj (congrArg Prod.fst hfound)
    exact neverOwn_of_fetchInstances halien hlist i (List.mem_of_find?_eq_some hfound)

theorem blameless_fetchInstance (hforeign : ctx.backend.Foreign) (id : Value) :
    (fetchInstance ctx id).OnlyFails Blameless := by
  refine blameless_current.bind fun g => ?_
  split
  · exact .catching fun _ => .pure _
  · exact (blameless_askCompute hforeign _).bind fun _ => .pure _

theorem blameless_describe {i : Instance} (hi : NeverOwn i.privateAddresses) :
    (describe i : Run (Session σ) Machine).OnlyFails Blameless :=
  blameless_current.bind fun g => (Instance.neverOwn_describe hi g.cloud.cls).blameless

theorem blameless_listMachines (halien : ctx.backend.Alien) :
    (listMachines ctx).OnlyFails Blameless := by
  refine Run.OnlyFails.mapFault ?_ fun _ hf => hf.translate rfl
  refine Run.OnlyFails.bind_done (blameless_askCompute halien.toForeign _) fun s nodes s' hlist => ?_
  exact .forEach fun i hi => blameless_describe (neverOwn_of_fetchInstances halien hlist i hi)

/-- By induction on the machines that are left. -/
theorem blameless_search (address : Value) {nodes : List Instance}
    (hnodes : ∀ i ∈ nodes, NeverOwn i.privateAddresses) :
    (search ctx address nodes).OnlyFails Blameless := by
  induction nodes with
  | nil => exact .fail (.mentioning (.because rfl) _)
  | cons i rest ih =>
    have hdescribe := blameless_describe (σ := σ) (hnodes i List.mem_cons_self)
    refine Run.OnlyFails.bind (hdescribe.wrapForeign fun _ => .mentioning (.because rfl) _)
      fun m => ?_
    refine (m.neverOwn_hasAddress address).blameless.bind fun found => ?_
    split
    · dsimp only
      split
      · exact (Run.OnlyFails.modify _).bind fun _ => .pure _
      · exact .pure _
    · exact ih fun i hi => hnodes i (List.mem_cons_of_mem _ hi)

theorem blameless_scan (halien : ctx.backend.Alien) (address : Value) :
    (scan ctx address).OnlyFails Blameless := by
  have hlist := blameless_askCompute halien.toForeign .listInstances
  refine Run.OnlyFails.bind_done (hlist.wrapForeign fun _ => .because rfl) fun s nodes s' hrun => ?_
  refine blameless_search address ?_
  exact neverOwn_of_fetchInstances halien (Run.run_mapFault_done_iff.1 hrun)

theorem blameless_findRemembered (halien : ctx.backend.Alien) (address : Value) :
    (findRemembered ctx address).OnlyFails Blameless := by
  unfold findRemembered
  split
  · exact .fail rfl
  refine blameless_current.bind fun g => ?_
  split
  · exact .pure _
  split
  · exact .pure _
  refine Run.OnlyFails.bind_done (blameless_fetchInstance halien.toForeign _)
    fun s found s' hfetch => ?_
  cases found with
  | none => exact (blameless_forget address).bind fun _ => .pure _
  | some i =>
    refine (blameless_describe (neverOwn_of_fetchInstance halien hfetch)).bind fun m => ?_
    refine (m.neverOwn_hasAddress address).blameless.bind fun still => ?_
    split
    · exact .pure _
    · exact (blameless_forget address).bind fun _ => .pure _

theorem blameless_findMachine (halien : ctx.backend.Alien) (address : Value) :
    (findMachine ctx address).OnlyFails Blameless := by
  unfold findMachine
  split
  · refine (blameless_findRemembered halien address).bind fun found => ?_
    split
    · exact .pure _
    · exact blameless_scan halien address
  · exact blameless_scan halien address

theorem blameless_volumeIds (halien : ctx.backend.Alien) (address : Value) :
    (volumeIds ctx address).OnlyFails Blameless :=
  (blameless_findMachine halien address).bind fun m => m.neverOwn_attachedVolumes.blameless

end Compute

/-! ### Volumes -/

namespace Storage

open Session Fault

variable {σ : Type} {ctx : Context σ} {s s' s₁ : Session σ} {id device address timeout : Value}
  {deadline : Float} {m : Machine} {f : Fault}

theorem blameless_describeDisks (hforeign : ctx.backend.Foreign) (ids : List Value) :
    (describeDisks ctx ids).OnlyFails Blameless := by
  refine blameless_current.bind fun g => ?_
  split
  · exact blameless_askStorage hforeign _
  · exact blameless_askStorage hforeign _

theorem blameless_describeDisk (hforeign : ctx.backend.Foreign) (id : Value) :
    (describeDisk ctx id).OnlyFails Blameless := by
  refine (blameless_describeDisks hforeign [id]).bind fun disks => ?_
  split
  · exact .pure _
  · exact .fail (.mentioning (.because rfl) _)

theorem blameless_status (hforeign : ctx.backend.Foreign) (id : Value) :
    (status ctx id).OnlyFails Blameless := by
  refine Run.OnlyFails.mapFault ?_ fun _ hf => hf.translate rfl
  refine (blameless_describeDisk hforeign id).bind fun d => ?_
  exact (Status.neverOwn_ofState d.state).blameless.bind fun st => .pure _

theorem blameless_volumeName (hforeign : ctx.backend.Foreign) (id : Value) :
    (volumeName ctx id).OnlyFails Blameless := by
  have htags : (queryTags ctx id).OnlyFails Blameless := by
    refine blameless_current.bind fun g => ?_
    dsimp only
    split
    · exact blameless_askStorage hforeign _
    · exact .fail (.mentioning (.because rfl) _)
  refine Run.OnlyFails.bind (htags.wrapForeign fun _ => .because rfl) fun sheet => ?_
  exact (neverOwn_tagOf sheet _).blameless.bind fun _ => .pure _

theorem blameless_toVolume (hforeign : ctx.backend.Foreign) (d : Disk) :
    (toVolume ctx d).OnlyFails Blameless := by
  refine (neverOwn_sizeOf d.size).blameless.bind fun size => ?_
  refine (Record.neverOwn_copyEntries _).blameless.bind fun _ => ?_
  have hname : ((volumeName ctx d.id).catching fun f =>
      if f.isOwn then pure (.text "") else Run.fail f).OnlyFails Blameless := by
    intro s f s' hrun
    rw [Run.run_catching] at hrun
    split at hrun
    · rename_i g s₁ hg
      split at hrun
      · cases hrun
      · cases hrun
        exact blameless_volumeName hforeign d.id _ _ _ hg
    · exact blameless_volumeName hforeign d.id _ _ _ hrun
  refine hname.bind fun name => (Record.neverOwn_entries _ _).blameless.bind fun places => ?_
  refine blameless_current.bind fun g => ?_
  exact (Status.neverOwn_ofState d.state).blameless.bind fun _ => .pure _

/-- By induction on the volumes that are left. -/
theorem blameless_toVolumes (hforeign : ctx.backend.Foreign) (seen : List Value)
    (disks : List Disk) : (toVolumes ctx seen disks).OnlyFails Blameless := by
  induction disks generalizing seen with
  | nil => exact .pure _
  | cons d rest ih =>
    unfold toVolumes
    split
    · exact .fail rfl
    · split
      · exact ih seen
      · refine (blameless_toVolume hforeign d).bind fun v => ?_
        exact (ih _).bind fun _ => .pure _

theorem blameless_listAll (hforeign : ctx.backend.Foreign) : (listAll ctx).OnlyFails Blameless := by
  refine Run.OnlyFails.mapFault ?_ fun _ hf => hf.translate rfl
  refine Run.OnlyFails.bind (.wrapForeign ?_ fun _ => .because rfl) fun disks => ?_
  · exact blameless_describeDisks hforeign []
  · exact blameless_toVolumes hforeign [] disks

theorem blameless_listAttached (hforeign : ctx.backend.Foreign) (m : Machine) :
    (listAttached ctx m).OnlyFails Blameless :=
  m.neverOwn_attachedVolumes.blameless.bind fun attached =>
    (blameless_listAll hforeign).bind fun volumes => (neverOwn_restrict volumes attached).blameless

theorem blameless_list (halien : ctx.backend.Alien) (address : Value) :
    (list ctx address).OnlyFails Blameless :=
  (Compute.blameless_findMachine halien address).bind fun m =>
    blameless_listAttached halien.toForeign m

/-! ### Waiting -/

/-- By induction on the patience that is left. -/
theorem blameless_await (hforeign : ctx.backend.Foreign) (id : Value) (wanted : Status)
    (deadline : Float) : (await ctx id wanted deadline).OnlyFails Blameless := by
  suffices ∀ patience last, ((watch ctx).await id wanted.toValue ctx.settings.pollInterval deadline
      patience last).OnlyFails Blameless from (this _ _).bind fun _ => .pure _
  intro patience
  induction patience with
  | zero => exact fun _ => .stall
  | succ patience ih =>
    intro last
    unfold Watch.await
    refine Run.OnlyFails.get.bind fun s => ?_
    split
    · refine Run.OnlyFails.bind (.wrapForeign ?_ fun _ => .mentioning (.because rfl) _) fun seen => ?_
      · exact blameless_status hforeign id
      · split
        · exact .pure _
        · exact (blameless_sleep hforeign _).bind fun _ => ih seen
    · exact .fail (.mentioning (.because rfl) _)

/-! ### Creating -/

theorem blameless_creationReport (size location id : Value) (f : Fault) :
    (creationReport size location id f).Blameless := by
  unfold creationReport
  split
  · rename_i htimeout
    exact .of_timeout htimeout
  · exact .mentioning (.because rfl) _

/-- An order that was made blames no input any more. -/
theorem blameless_provision (hforeign : ctx.backend.Foreign) (o : Order) :
    (provision ctx o).OnlyFails Blameless := by
  have hreports : ∀ {α : Type} (x : Run (Session σ) α) (id : Value),
      (reportingCreation o.template.size o.place id x).OnlyFails Blameless := by
    intro α x id s f s' hrun
    obtain ⟨g, -, rfl⟩ := Run.run_mapFault_failed_iff.1 hrun
    exact blameless_creationReport _ _ _ g
  refine (hreports _ _).bind fun disk => (hreports _ _).bind fun _ => ?_
  exact (blameless_toVolume hforeign disk).bind fun v => .pure _

/-! ### Attaching and detaching -/

/-- What comes to the request of an attachment blames no input any more. -/
theorem blameless_attach (hforeign : ctx.backend.Foreign)
    (h : Attaching ctx id device address timeout s deadline m s₁)
    (hrun : (attach ctx id device address timeout).run s = (.failed f, s')) : f.Blameless := by
  rw [run_attach_apart h] at hrun
  have hrequest : (requestAttach ctx m id device).OnlyFails Blameless :=
    (blameless_storageConnection hforeign).bind fun via =>
      (neverOwn_handle m).blameless.bind fun m => blameless_request hforeign via _
  refine Run.OnlyFails.mapFault ?_ (fun _ hf => hf.translate rfl) _ _ _ hrun
  refine Run.OnlyFails.bind (hrequest.wrapForeign fun _ => .mentioning (.because rfl) _) fun _ => ?_
  exact blameless_await hforeign id .inUse deadline

theorem blameless_requestDetach (hforeign : ctx.backend.Foreign) (id : Value) (m : Machine) :
    (requestDetach ctx id m).OnlyFails Blameless := by
  refine blameless_current.bind fun g => ?_
  split
  · exact blameless_askStorage hforeign _
  · exact blameless_askStorage hforeign _

end Storage

end BlockStorage
