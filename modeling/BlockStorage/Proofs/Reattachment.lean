import BlockStorage.Proofs.Attachment
import BlockStorage.Proofs.Closing
import BlockStorage.Proofs.OrderlySandbox
import Mathlib.Data.List.Nodup

/-!
Detaching a volume undoes that it was attached.

An attachment with a result has made its request, and the cloud granted it; then nothing was done but
to read and to wait. So the session is left with a cloud whose ledger has the volume at the machine
(`attached_of_done`), and in the same way a detachment leaves it with one whose ledger has the volume
at no machine (`detached_of_done`). What is reported of a machine follows from the ledger alone
(`reports_of_ready`), and so do the two guards.

Statement: what is reported after an attachment is what was reported before and the volume, and
after a detachment it is what was reported before the attachment (`detach_undoes_attach`). Between
the operations any reading and waiting may take place. An attachment without a device is refused for
that, whatever is attached (`run_attach_unequipped`).
-/
namespace BlockStorage

namespace Storage

open Session Compute

variable {σ : Type} {ctx : Context σ} {c : Cloud} {s s' : Session σ} {ledger : σ → Ledger}
  {Good : σ → Prop} {l : Ledger} {i : Instance} {address volume : String}
  {device timeout : Value}

/-! ### What the operations leave behind -/

/-- A volume with a text for its id is attached only if that is not empty. -/
theorem ne_empty_of_given (h : Given (.text volume) device) : volume ≠ "" := by
  simpa [Value.truthy] using h.1

/-- An attachment that succeeds leaves a cloud whose ledger has the volume at the machine. -/
theorem attached_of_done (hrec : Recording ctx ledger Good) (hat : Locates ctx l.hosts address i)
    (hs : Ready (Shows ledger Good l) c s)
    (hrun : (attach ctx (.text volume) device (.text address) timeout).run s = (.done (), s')) :
    volume ≠ "" ∧ volume ∈ l.ids ∧
      Ready (Shows ledger Good (l.attach volume i.id device)) c s' := by
  have hsteady := hrec.steady hs.sound.good
  obtain ⟨hgood, hledger⟩ := hs.sound.good
  have hsound := hrec.sound s.world.cloud hgood
  rw [hledger] at hsound
  have hplain := hsound.plain i hat.mem
  obtain ⟨deadline, m, s₁, s₂, hattaching, hrequest, hwait⟩ := attaching_of_done hrun
  obtain ⟨m', s₁', hfind, hs₁, hm⟩ := run_findMachine_steady hsteady hat.machine hs
  cases hfind.symm.trans hattaching.found
  have hid := id_of_describe (l.plain_machine hplain) hm
  change m.id = i.id at hid
  obtain ⟨host, hhost⟩ := hplain.id
  have hnamed : host ≠ "" := by
    rintro rfl
    exact hsound.named i hat.mem hhost
  -- The request is made for the machine that was found, through the connection of the storage side.
  obtain ⟨via, s₃, hconnection, hdriver, hs₃⟩ :=
    run_storageConnection_ready (hrec.opens l) hs₁
  unfold requestAttach at hrequest
  rw [Run.run_bind_done hconnection, handle_of_text (hid.trans hhost) hnamed, Run.ofExcept_ok,
    pure_bind, request, run_inWorld,
    World.run_request (Connection.serves_of_driver hdriver _)] at hrequest
  obtain ⟨hanswer, rfl⟩ := Prod.mk.inj hrequest
  obtain ⟨hthere, hshows⟩ := hrec.attach via m volume device s₃.world.cloud hs₃.sound.good.1
    (Outcome.ofExcept_eq_done.1 hanswer)
  rw [hs₃.sound.good.2] at hthere hshows
  rw [hid] at hshows
  exact ⟨ne_empty_of_given hattaching.given, hthere,
    (hs₃.in_world hshows).quiet hrec.toViewed (quiet_of_await hwait)⟩

/-- A detachment that succeeds leaves a cloud whose ledger has the volume at no machine. -/
theorem detached_of_done (hrec : Recording ctx ledger Good) (hamazon : c.cls = .amazon)
    (hat : Locates ctx l.hosts address i) (hs : Ready (Shows ledger Good l) c s)
    (hrun : (detach ctx (.text volume) (.text address) timeout).run s = (.done (), s')) :
    Ready (Shows ledger Good (l.detach volume)) c s' := by
  have hsteady := hrec.steady hs.sound.good
  obtain ⟨deadline, m, s₁, volumes, s₂, s₃, hdetaching, hrequest, hwait⟩ := detaching_of_done hrun
  obtain ⟨m', s₁', hfind, hs₁, hm⟩ := run_findMachine_steady hsteady hat.machine hs
  cases hfind.symm.trans hdetaching.found
  obtain ⟨_, s₂', -, hs₂, hlist, -⟩ :=
    run_listAttached_steady hsteady hs₁ (volumeIds_of_located hsteady hat.machine hs hm)
  cases hlist.symm.trans hdetaching.listed
  have hnative : native s₂.gateway.cloud = true := by
    rw [hs₂.sound.cloud]
    simp [native, hamazon]
  obtain ⟨via, s₄, hs₄, hask⟩ :=
    run_askStorage_ready (hrec.opens l) hs₂ (.submitDetach (.text volume) m.id true)
  unfold requestDetach at hrequest
  rw [Run.run_bind_done (run_current s₂), if_pos hnative, hask] at hrequest
  obtain ⟨hanswer, rfl⟩ := Prod.mk.inj hrequest
  have hshows := hrec.detach via volume m.id s₄.world.cloud hs₄.sound.good.1
    (Outcome.ofExcept_eq_done.1 hanswer)
  rw [hs₄.sound.good.2] at hshows
  exact (hs₄.in_world hshows).quiet hrec.toViewed (quiet_of_await hwait)

/-! ### What is reported -/

/-- What is reported of the machine with an address, however much has been read and waited for since:
the ids of its volumes are `carried`, and those of the volumes that are listed as its are `listed`,
none of them twice. -/
structure Reports (ctx : Context σ) (address : String) (s : Session σ)
    (carried listed : List String) : Prop where
  volumeIds : ∀ t, Steps ctx Deed.Quiet s t →
    ∃ t', (volumeIds ctx (.text address)).run t = (.done (carried.map .text), t')
  list : ∀ t, Steps ctx Deed.Quiet s t →
    ∃ volumes t', (list ctx (.text address)).run t = (.done volumes, t') ∧
      volumes.map (·.id) = listed.map .text
  once : carried.Nodup ∧ listed.Nodup

/-- An operation is refused for a reason, with whatever timeout, having only read, however much has
been read and waited for since. -/
def Refuses (ctx : Context σ) (s : Session σ) (op : Value → Run (Session σ) Unit)
    (reason : Fault.Kind) : Prop :=
  ∀ t timeout deadline, Steps ctx Deed.Quiet s t → Due ctx timeout t deadline →
    ∃ f t', (op timeout).run t = (.failed f, t') ∧ f.isA reason = true ∧
      Grows (Event.Within Deed.Reads) t.world.journal t'.world.journal

/-- The ledger decides what is reported. -/
theorem reports_of_ready (hrec : Recording ctx ledger Good) (hat : Locates ctx l.hosts address i)
    (hs : Ready (Shows ledger Good l) c s) :
    Reports ctx address s (l.machine i).carried.eraseDups (present (l.machine i) l.ids) where
  volumeIds t ht := by
    have hsteady := hrec.steady hs.sound.good
    have hready := hs.quiet hrec.toViewed ht
    obtain ⟨m, t₁, hfind, -, hm⟩ := run_findMachine_steady hsteady hat.machine hready
    refine ⟨t₁, ?_⟩
    unfold volumeIds
    rw [Run.run_bind_done hfind,
      Machine.attachedVolumes_texts (volumeIds_of_located hsteady hat.machine hready hm)]
    rfl
  list t ht := by
    have hsteady := hrec.steady hs.sound.good
    have hready := hs.quiet hrec.toViewed ht
    obtain ⟨m, t₁, hfind, ht₁, hm⟩ := run_findMachine_steady hsteady hat.machine hready
    obtain ⟨volumes, t', -, -, hlist, hids⟩ := run_listAttached_steady hsteady ht₁
      (volumeIds_of_located hsteady hat.machine hready hm)
    exact ⟨_, t', (Run.run_bind_done hfind).trans hlist, hids⟩
  once := ⟨nodup_eraseDups _, nodup_present _ _⟩

theorem refuses_attach (hrec : Recording ctx ledger Good) (hat : Locates ctx l.hosts address i)
    (hs : Ready (Shows ledger Good l) c s) (hvolume : volume ≠ "")
    (hheld : volume ∈ (l.machine i).carried) (hdevice : device.truthy = true) :
    Refuses ctx s (attach ctx (.text volume) device (.text address)) .alreadyAttached := by
  intro t timeout deadline ht hdue
  have hguard := guarded_attach (hrec.steady hs.sound.good) hat.machine
    (hs.quiet hrec.toViewed ht) hvolume hdevice hdue
  exact hguard.refused.2 hheld

theorem refuses_detach (hrec : Recording ctx ledger Good) (hat : Locates ctx l.hosts address i)
    (hs : Ready (Shows ledger Good l) c s) (habsent : volume ∉ present (l.machine i) l.ids) :
    Refuses ctx s (detach ctx (.text volume) (.text address)) .volumeNotFound := by
  intro t timeout deadline ht hdue
  have hguard := guarded_detach (hrec.steady hs.sound.good) hat.machine
    (hs.quiet hrec.toViewed ht) volume hdue
  exact hguard.refused.2 habsent

/-! ### Attaching and detaching -/

/-- An attachment without a device is refused for that, in any session. -/
theorem run_attach_unequipped (ctx : Context σ) (s : Session σ) (id address timeout : Value)
    (hdevice : device.truthy = false) :
    ∃ f, (attach ctx id device address timeout).run s = (.failed f, s) ∧
      f.isA .parameterMissing = true := by
  have hgiven : ∃ name, (Operation.attach id device address timeout).precheck ctx s =
      .error (.because .parameterMissing name none []) := by
    cases hid : id.truthy with
    | false => exact ⟨"volume_id", by simp only [Operation.precheck, require, hid]; rfl⟩
    | true => exact ⟨"device", by simp only [Operation.precheck, require, hid, hdevice]; rfl⟩
  obtain ⟨name, hname⟩ := hgiven
  exact ⟨_, Operation.run_attach_unchecked hname, rfl⟩

/-- A session in which a volume has been attached to the machine with an address, of which `carried`
and `listed` were reported before. -/
structure Attached (ctx : Context σ) (address volume : String) (carried listed : List String)
    (s : Session σ) : Prop where
  /-- The machine has what it had and the volume, which is listed once. -/
  reports : ∃ now shown, Reports ctx address s now shown ∧
    (∀ v, v ∈ now ↔ v = volume ∨ v ∈ carried) ∧ shown.count volume = 1
  /-- The volume is not attached again. -/
  refused : ∀ device : Value, device.truthy = true →
    Refuses ctx s (attach ctx (.text volume) device (.text address)) .alreadyAttached
  /-- Nor is it attached without a device, which is refused first. -/
  unequipped : ∀ device : Value, device.truthy = false → ∀ t timeout,
    ∃ f, (attach ctx (.text volume) device (.text address) timeout).run t = (.failed f, t) ∧
      f.isA .parameterMissing = true
  /-- Once the volume has been detached, the same is reported as before, and it is not detached
  again. -/
  detached : ∀ timeout t s', Steps ctx Deed.Quiet s t →
    (detach ctx (.text volume) (.text address) timeout).run t = (.done (), s') →
      Reports ctx address s' carried listed ∧
        Refuses ctx s' (detach ctx (.text volume) (.text address)) .volumeNotFound

/-- An attachment leaves the machine with the volume, until that is detached. -/
theorem attached_of_apart (hrec : Recording ctx ledger Good) (hamazon : c.cls = .amazon)
    (hat : Locates ctx l.hosts address i) (hs : Ready (Shows ledger Good l) c s)
    (hapart : volume ∉ (l.machine i).carried)
    (hrun : (attach ctx (.text volume) device (.text address) timeout).run s = (.done (), s')) :
    Attached ctx address volume (l.machine i).carried.eraseDups (present (l.machine i) l.ids)
      s' := by
  obtain ⟨hvolume, hthere, hs'⟩ := attached_of_done hrec hat hs hrun
  have hsound := hrec.sound s.world.cloud hs.sound.good.1
  rw [hs.sound.good.2] at hsound
  have hplain := hsound.plain i hat.mem
  have hnow : ∀ v, v ∈ ((l.attach volume i.id device).machine i).carried ↔
      v = volume ∨ v ∈ (l.machine i).carried := fun v =>
    Ledger.mem_carried_attach hplain hvolume hthere
  have hheld : volume ∈ ((l.attach volume i.id device).machine i).carried :=
    (hnow volume).2 (.inl rfl)
  have hat' : Locates ctx (l.attach volume i.id device).hosts address i := hat
  refine ⟨⟨_, _, reports_of_ready hrec hat' hs', fun v => ?_, ?_⟩, fun device' hdevice => ?_,
    fun _ hdevice t timeout' => run_attach_unequipped ctx t _ _ timeout' hdevice,
    fun timeout' t s'' ht hdetach => ?_⟩
  · rw [List.mem_eraseDups, List.mem_eraseDups]
    exact hnow v
  · apply List.count_eq_one_of_mem (nodup_present _ _)
    rw [Ledger.ids_attach, present, List.mem_filter, List.mem_eraseDups]
    exact ⟨hthere, decide_eq_true hheld⟩
  · exact refuses_attach hrec hat' hs' hvolume hheld hdevice
  · have hs'' := detached_of_done hrec hamazon hat' (hs'.quiet hrec.toViewed ht) hdetach
    have hat'' : Locates ctx ((l.attach volume i.id device).detach volume).hosts address i := hat
    have hsame : (((l.attach volume i.id device).detach volume).machine i).carried =
        (l.machine i).carried := Ledger.carried_detach_attach hplain hapart hvolume
    have hpresent : present (((l.attach volume i.id device).detach volume).machine i)
        ((l.attach volume i.id device).detach volume).ids = present (l.machine i) l.ids := by
      rw [Ledger.ids_detach, Ledger.ids_attach, present, present, hsame]
    have hreports := reports_of_ready hrec hat'' hs''
    rw [hsame, hpresent] at hreports
    refine ⟨hreports, refuses_detach hrec hat'' hs'' ?_⟩
    rw [hpresent, present, List.mem_filter]
    exact fun h => hapart (of_decide_eq_true h.2)

/-- **Detaching undoes attaching**, in a cloud that records attachments. If a volume that a machine
does not have is attached to it, the machine is reported to have what it had and the volume, which is
listed once and is not attached again. If it is then detached, the reports are those from before, and
it is not detached again. -/
theorem detach_undoes_attach (hrec : Recording ctx ledger Good) (hamazon : c.cls = .amazon)
    (hs : Ready Good c s) (hat : Locates ctx (ledger s.world.cloud).hosts address i) :
    ∃ carried listed, Reports ctx address s carried listed ∧
      ∀ volume, volume ∉ carried → ∀ device timeout t s', Steps ctx Deed.Quiet s t →
        (attach ctx (.text volume) device (.text address) timeout).run t = (.done (), s') →
        Attached ctx address volume carried listed s' := by
  have hready : Ready (Shows ledger Good (ledger s.world.cloud)) c s :=
    hs.mono ⟨hs.sound.good, rfl⟩
  refine ⟨_, _, reports_of_ready hrec hat hready, fun volume hapart device timeout t s' ht hrun => ?_⟩
  rw [List.mem_eraseDups] at hapart
  exact attached_of_apart hrec hamazon hat (hready.quiet hrec.toViewed ht) hapart hrun

/-- A machine with some addresses, and with the devices that it came with. -/
def fitted (id : String) (addresses : List String) (devices : List Fields) : Sandbox.Host :=
  { Sandbox.hostWith id addresses with mapping := .list (devices.map .dict) }

section Fitted

variable {id : String} {addresses : List String} {devices : List Fields}

theorem plain_fitted
    (h : ∀ e ∈ devices, ∃ t, Record.get e "ebs" = .dict [("volume_id", .text t)]) :
    (fitted id addresses devices).given.Plain where
  id := ⟨id, rfl⟩
  privateAddresses := ⟨_, rfl, .inr ⟨addresses, rfl⟩⟩
  publicAddresses := .inl rfl
  mapping := by
    refine .inr ⟨devices, rfl, fun e he => ?_⟩
    obtain ⟨t, ht⟩ := h e he
    exact .inr ⟨_, ht⟩

theorem labelled_fitted
    (h : ∀ e ∈ devices, ∃ t, Record.get e "ebs" = .dict [("volume_id", .text t)]) :
    (fitted id addresses devices).given.Labelled := by
  intro es hes e he ebs hebs
  have hsame : es = devices :=
    (List.map_inj_right fun _ _ h => Value.dict.inj h).1 (Value.list.inj hes).symm
  rw [hsame] at he
  obtain ⟨t, ht⟩ := h e he
  rw [ht] at hebs
  cases hebs
  exact .inr ⟨t, rfl⟩

end Fitted

/-- A cloud of two machines and two volumes, one of which is attached to the second machine. The
first machine came with a device that holds no volume. -/
def shelf : Sandbox where
  clock := 0
  hosts := [fitted "i-1" ["10.0.0.1"] [naming ""], fitted "i-2" ["10.0.0.2"] []]
  drives := [
    { id := .text "va" },
    { id := .text "vb", states := [.text "inuse"], host := .text "i-2", device := .text "/dev/sdf" }]

/-- A session with that cloud, in which addresses are cached. -/
def shelfContext : Context Sandbox := Sandbox.context Sandbox.cachingSettings

/-- The session once the first volume is attached to the first machine. -/
def shelfAttached : Session Sandbox :=
  ((attach shelfContext (.text "va") (.text "/dev/sdf") (.text "10.0.0.1") (.int 5)).run
    (Sandbox.start shelf)).2

/-- The session once it is detached again. -/
def shelfDetached : Session Sandbox :=
  ((detach shelfContext (.text "va") (.text "10.0.0.1") (.int 5)).run shelfAttached).2

theorem sound_shelf : shelf.ledger.Sound := by
  have htables : ∀ e ∈ [naming ""], ∃ t, Record.get e "ebs" = .dict [("volume_id", .text t)] := by
    intro e he
    rw [List.mem_singleton.1 he]
    exact ⟨"", rfl⟩
  have hhosts : ∀ i ∈ shelf.ledger.hosts, i = (fitted "i-1" ["10.0.0.1"] [naming ""]).given ∨
      i = (fitted "i-2" ["10.0.0.2"] []).given := by
    simp [Sandbox.ledger, shelf]
  refine ⟨fun i hi => ?_, fun i hi => ?_, fun i hi => ?_⟩
  · rcases hhosts i hi with rfl | rfl
    · exact plain_fitted htables
    · exact plain_fitted nofun
  · rcases hhosts i hi with rfl | rfl
    · exact labelled_fitted htables
    · exact labelled_fitted nofun
  · rcases hhosts i hi with rfl | rfl
    · exact fun h => absurd (Value.text.inj h) (by decide)
    · exact fun h => absurd (Value.text.inj h) (by decide)

theorem orderly_shelf : shelf.Orderly where
  latencies := rfl
  troubles := rfl
  hosts := sound_shelf
  drives d hd := by
    simp only [shelf, List.mem_cons, List.not_mem_nil, or_false] at hd
    rcases hd with rfl | rfl
    · exact ⟨rfl, .inr (.inl ⟨1, rfl⟩), by simp [Value.hashable], rfl⟩
    · exact ⟨rfl, .inr (.inl ⟨1, rfl⟩), by simp [Value.hashable], rfl⟩
  once := by decide
  course := by simp [Sandbox.Course.Orderly, shelf, Value.hashable]
  tags := by simp [shelf]

theorem ready_shelf : Ready Sandbox.Orderly Sandbox.account (Sandbox.start shelf) where
  sound := ⟨rfl, rfl, rfl, nofun, orderly_shelf⟩
  opened := rfl
  driver := by
    rintro via (h | h) <;> cases h

/-- The first volume is attached to the first machine, which then has it and is not given it again,
and is detached, after which the machine has nothing and the volume is not detached again. -/
theorem detach_undoes_attach_shelf :
    (attach shelfContext (.text "va") (.text "/dev/sdf") (.text "10.0.0.1") (.int 5)).run
      (Sandbox.start shelf) = (.done (), shelfAttached) ∧
    (∃ now shown, Reports shelfContext "10.0.0.1" shelfAttached now shown ∧
      (∀ v, v ∈ now ↔ v = "va") ∧ shown.count "va" = 1) ∧
    Refuses shelfContext shelfAttached
      (attach shelfContext (.text "va") (.text "/dev/sdg") (.text "10.0.0.1")) .alreadyAttached ∧
    (detach shelfContext (.text "va") (.text "10.0.0.1") (.int 5)).run shelfAttached =
      (.done (), shelfDetached) ∧
    (∃ listed, Reports shelfContext "10.0.0.1" shelfDetached [] listed) ∧
    Refuses shelfContext shelfDetached (detach shelfContext (.text "va") (.text "10.0.0.1"))
      .volumeNotFound := by
  have hattach : (attach shelfContext (.text "va") (.text "/dev/sdf") (.text "10.0.0.1")
      (.int 5)).run (Sandbox.start shelf) = (.done (), shelfAttached) := rfl
  have hdone : ((detach shelfContext (.text "va") (.text "10.0.0.1") (.int 5)).run
      shelfAttached).1.gives (fun _ => true) = true := by decide +kernel
  have hdetach : (detach shelfContext (.text "va") (.text "10.0.0.1") (.int 5)).run shelfAttached =
      (.done (), shelfDetached) := by
    unfold shelfDetached
    obtain ⟨_, hrun, -⟩ := Outcome.done_of_gives hdone
    exact hrun
  have hat : Locates shelfContext shelf.ledger.hosts "10.0.0.1"
      (fitted "i-1" ["10.0.0.1"] [naming ""]).given := ⟨rfl, fun _ => by decide⟩
  have hrec : Recording shelfContext Sandbox.ledger Sandbox.Orderly :=
    Sandbox.recording_orderly rfl rfl
  obtain ⟨carried, listed, hreports, hinverse⟩ := detach_undoes_attach hrec rfl ready_shelf hat
  have hnone : carried = [] := by
    obtain ⟨t, hrun⟩ := hreports.volumeIds _ .refl
    have hids : ((volumeIds shelfContext (.text "10.0.0.1")).run (Sandbox.start shelf)).1 =
        .done [] := rfl
    rw [hrun] at hids
    simpa using hids
  subst hnone
  obtain ⟨⟨now, shown, hnow, hmem, hcount⟩, hrefused, -, hdetached⟩ :=
    hinverse "va" List.not_mem_nil _ _ _ _ .refl hattach
  obtain ⟨hbefore, hgone⟩ := hdetached _ _ _ .refl hdetach
  refine ⟨hattach, ⟨now, shown, hnow, fun v => ?_, hcount⟩, hrefused _ rfl, hdetach,
    ⟨listed, hbefore⟩, hgone⟩
  rw [hmem]
  simp

/-- Once a volume that the machine did not have is attached to it, another attachment without a device
is refused for that, and not because the volume is attached. -/
theorem attach_unequipped :
    ((volumeIds shelfContext (.text "10.0.0.1")).run (Sandbox.start shelf)).1 = .done [] ∧
    (attach shelfContext (.text "va") (.text "/dev/sdf") (.text "10.0.0.1") (.int 5)).run
      (Sandbox.start shelf) = (.done (), shelfAttached) ∧
    ∃ f, (attach shelfContext (.text "va") (.text "") (.text "10.0.0.1") (.int 5)).run
      shelfAttached = (.failed f, shelfAttached) ∧ f.isA .parameterMissing = true ∧
        f.isA .alreadyAttached = false :=
  ⟨rfl, rfl, _, Operation.run_attach_unchecked rfl, rfl, rfl⟩

end Storage

end BlockStorage
