import BlockStorage.Proofs.CloudFaults
import BlockStorage.Proofs.SingleChange
import BlockStorage.Proofs.SteadyCloud

/-!
What is attached to a machine.

Four operations read this, in different ways. The ids of a machine's volumes come from its device
mapping, and so does the guard of an attachment. A machine's volumes are those of the region that are
among these ids, and the guard of a detachment looks for the volume there. So a volume that the
machine carries and the region does not list can neither be attached nor detached.

Statement: in a cloud that stays as it is all four agree (`consistent_of_steady`). The guards come
after the arguments are looked at, so an attachment without a device, or one with a timeout that is no
duration, is not refused for the reason that the volume is attached (`attach_unheeded`).
-/
namespace BlockStorage

namespace Storage

open Session Compute

section Steady

variable {σ : Type} {ctx : Context σ} {c : Cloud} {s s' s₁ : Session σ} {nodes : List Instance}
  {ids : List String} {Good : σ → Prop} {id device address timeout : Value}
  {i : Instance} {m : Machine} {deadline : Float} {via : Connection} {f : Fault}

/-! ### Reading what is attached -/

/-- The volumes of a region that a machine carries, in the order of the region. -/
def present (i : Instance) (ids : List String) : List String :=
  ids.eraseDups.filter (· ∈ i.carried)

theorem nodup_present (i : Instance) (ids : List String) : (present i ids).Nodup :=
  (nodup_eraseDups ids).filter _

/-- The ids of volumes that are restricted to some ids. -/
theorem ids_filter {volumes : List Volume} {ts : List String}
    (h : volumes.map (·.id) = ts.map .text) (attached : List String) :
    (volumes.filter fun v => Value.mem v.id (attached.map .text)).map (·.id) =
      (ts.filter (· ∈ attached)).map .text := by
  calc (volumes.filter fun v => Value.mem v.id (attached.map .text)).map (·.id)
      = (volumes.map (·.id)).filter fun v => Value.mem v (attached.map .text) := by
        rw [List.filter_map]
        rfl
    _ = (ts.map .text).filter fun v => Value.mem v (attached.map .text) := by rw [h]
    _ = (ts.filter (· ∈ attached)).map .text := by
        rw [List.filter_map]
        exact congrArg (List.map Value.text)
          (List.filter_congr fun t _ => Value.mem_texts t attached)

/-- The volumes of a machine are those of the region that it carries. -/
theorem run_listAttached_steady (hsteady : Steady ctx nodes ids Good) (hs : Ready Good c s)
    (hm : m.volumeIds = i.carried.map .text) :
    ∃ volumes s', (listAll ctx).run s = (.done volumes, s') ∧ Ready Good c s' ∧
      (listAttached ctx m).run s = (.done (volumes.filter fun v =>
        Value.mem v.id (i.carried.eraseDups.map .text)), s') ∧
      (volumes.filter fun v => Value.mem v.id (i.carried.eraseDups.map .text)).map (·.id) =
        (present i ids).map .text := by
  obtain ⟨volumes, s', hrun, hs', hids⟩ := run_listAll_steady hsteady hs
  refine ⟨volumes, s', hrun, hs', ?_, ?_⟩
  · unfold listAttached
    rw [Machine.attachedVolumes_texts hm, Run.ofExcept_ok, pure_bind, Run.run_bind_done hrun,
      restrict_texts hids, Run.ofExcept_ok, Run.run_pure]
  · rw [ids_filter hids, present]
    congr 1
    exact List.filter_congr fun t _ => decide_eq_decide.2 List.mem_eraseDups

/-! ### Making the request -/

/-- A machine whose id can be written can be referred to. -/
theorem handle_of_writable (h : m.id.writable = true) : ∃ referred, handle m = .ok referred := by
  unfold handle
  split
  · exact ⟨_, rfl⟩
  · exact ⟨_, rfl⟩

/-- The machine of a description is the one described. -/
theorem id_of_describe (hplain : i.Plain) (hm : i.describe c.cls = .ok m) : m.id = i.id := by
  obtain ⟨m', hm', hid, -⟩ := Instance.describe_plain hplain c.cls
  rw [hm] at hm'
  cases hm'
  exact hid

theorem writable_of_describe (hplain : i.Plain) (hm : i.describe c.cls = .ok m) :
    m.id.writable = true := by
  obtain ⟨text, htext⟩ := hplain.id
  rw [id_of_describe hplain hm, htext, Value.writable_text]

/-- An attachment that comes to its request makes it. -/
theorem single_attach (hsteady : Steady ctx nodes ids Good) (hs : Ready Good c s₁)
    (hm : m.id.writable = true) (h : Attaching ctx id device address timeout s deadline m s₁) :
    ∃ referred via s₂, handle m = .ok referred ∧
      Single ctx Deed.Reads id (.attach referred id device) via s s₂
        ((attach ctx id device address timeout).run s).2 := by
  obtain ⟨referred, hreferred⟩ := handle_of_writable hm
  obtain ⟨via, s₂, hstorage, hdriver, -⟩ := run_storageConnection_ready hsteady.truthful.opens hs
  have hfind : Steps ctx Deed.Reads s ((findMachine ctx address).run s).2 :=
    reads_findMachine ctx address s
  have hconnect : Steps ctx Deed.Reads s₁ ((storageConnection ctx).run s₁).2 :=
    within_storageConnection s₁
  rw [h.found] at hfind
  rw [hstorage] at hconnect
  refine ⟨referred, via, s₂, hreferred, ?_⟩
  rw [run_attach_apart h, Run.translating, Run.state_mapFault]
  refine single_of_request (hfind.trans hconnect) (storageConnection_done hstorage)
    (Connection.serves_of_driver hdriver _) ?_ (polled_await ctx id .inUse deadline)
  unfold requestAttach
  rw [Run.run_bind_done hstorage, hreferred]
  rfl

/-- A detachment that comes to its request makes it. -/
theorem single_detach (hsteady : Steady ctx nodes ids Good) {s₂ : Session σ}
    (hs : Ready Good c s₂) {volumes : List Volume}
    (h : Detaching ctx id address timeout s deadline m s₁ volumes s₂) :
    ∃ via s₃, Single ctx Deed.Reads id (if native c then .submitDetach id m.id true else .detach id)
      via s s₃ ((detach ctx id address timeout).run s).2 := by
  obtain ⟨via, s₃, hstorage, hdriver, -⟩ := run_storageConnection_ready hsteady.truthful.opens hs
  have hfind : Steps ctx Deed.Reads s ((findMachine ctx address).run s).2 :=
    reads_findMachine ctx address s
  have hlist : Steps ctx Deed.Reads s₁ ((listAttached ctx m).run s₁).2 :=
    reads_listAttached ctx m s₁
  have hconnect : Steps ctx Deed.Reads s₂ ((storageConnection ctx).run s₂).2 :=
    within_storageConnection s₂
  rw [h.found] at hfind
  rw [h.listed] at hlist
  rw [hstorage] at hconnect
  refine ⟨via, s₃, ?_⟩
  rw [run_detach_present h, Run.translating, Run.state_mapFault]
  have hreach := (hfind.trans hlist).trans hconnect
  have hheld := storageConnection_done hstorage
  have hpolls := polled_await ctx id .available deadline
  have hcurrent : (current : Run (Session σ) Gateway).run s₂ = (.done s₂.gateway, s₂) := rfl
  cases hnative : native c with
  | true =>
    show Single ctx Deed.Reads id (.submitDetach id m.id true) via s s₃ _
    refine single_of_request hreach hheld (Connection.serves_of_driver hdriver _) ?_ hpolls
    unfold requestDetach
    rw [Run.run_bind_done hcurrent, hs.sound.cloud, hnative]
    exact Run.run_bind_done hstorage
  | false =>
    show Single ctx Deed.Reads id (.detach id) via s s₃ _
    refine single_of_request hreach hheld (Connection.serves_of_driver hdriver _) ?_ hpolls
    unfold requestDetach
    rw [Run.run_bind_done hcurrent, hs.sound.cloud, hnative]
    exact Run.run_bind_done hstorage

/-- What made a change did more than to read. -/
theorem Single.changed {early : Deed → Prop} {r : Request} (h : Single ctx early id r via s s₁ s')
    (hr : r.mutating = true) :
    ¬Grows (Event.Within Deed.Reads) s.world.journal s'.world.journal := by
  rintro ⟨events, hevents, hreads⟩
  obtain ⟨before, hbefore, -⟩ := h.before
  obtain ⟨after, hafter, -, -⟩ := h.after
  rw [hafter, hbefore, ← List.cons_append, ← List.append_assoc] at hevents
  have hmem : Event.requested via r ∈ events := by
    rw [← List.append_cancel_right hevents]
    simp
  have hchanges := Event.changes_of_reads (hreads _ hmem)
  rw [Event.changes, hr] at hchanges
  cases hchanges

/-! ### Guards -/

/-- An operation on a volume has a guard: having only read, it is refused for some reason exactly if
it is barred, and otherwise it makes its request, once. -/
structure Guarded (ctx : Context σ) (s : Session σ) (id : Value) (op : Run (Session σ) Unit)
    (reason : Fault.Kind) (wanted : Request → Prop) (barred : Prop) : Prop where
  refused : (∃ f s', op.run s = (.failed f, s') ∧ f.isA reason = true ∧
    Grows (Event.Within Deed.Reads) s.world.journal s'.world.journal) ↔ barred
  requested : ¬barred → ∃ r via s₁, wanted r ∧
    Single ctx Deed.Reads id r via s s₁ (op.run s).2

/-- What is refused if it is barred and makes its request if it is not has a guard. -/
theorem Guarded.of_cases {op : Run (Session σ) Unit} {reason : Fault.Kind}
    {wanted : Request → Prop} {barred : Prop} (hwanted : ∀ r, wanted r → r.mutating = true)
    (hbarred : barred → ∃ f s', op.run s = (.failed f, s') ∧ f.isA reason = true ∧
      Steps ctx Deed.Reads s s')
    (hfree : ¬barred → ∃ r via s₁, wanted r ∧
      Single ctx Deed.Reads id r via s s₁ (op.run s).2) :
    Guarded ctx s id op reason wanted barred := by
  refine ⟨⟨?_, fun h => ?_⟩, hfree⟩
  · rintro ⟨f, s', hrun, -, hreads⟩
    by_contra hno
    obtain ⟨r, via, s₁, hr, hsingle⟩ := hfree hno
    rw [hrun] at hsingle
    exact hsingle.changed (hwanted r hr) hreads
  · obtain ⟨f, s', hrun, hreason, hreach⟩ := hbarred h
    exact ⟨f, s', hrun, hreason, hreach.journal⟩

theorem isA_alreadyAttachedFault (id address : String) (hm : m.id.writable = true) :
    (alreadyAttachedFault (.text id) (.text address) m).isA .alreadyAttached = true := by
  unfold alreadyAttachedFault
  rw [Fault.mentioning_of_writable]
  · rfl
  · simp [hm]

theorem isA_notAttachedFault (id address : String) :
    (notAttachedFault (.text id) (.text address)).isA .volumeNotFound = true := by
  unfold notAttachedFault
  rw [Fault.mentioning_of_writable]
  · rfl
  · simp

end Steady

/-! ### Consistency -/

section Consistent

variable {σ : Type} {ctx : Context σ} {c : Cloud} {s : Session σ} {nodes : List Instance}
  {ids : List String} {Good : σ → Prop} {address : String} {i : Instance}

/-- What the operations on the volumes of a machine come to in every session that is ready: `i` is the
machine with the address, and `ids` are those of the region's volumes. -/
structure Consistent (ctx : Context σ) (Good : σ → Prop) (c : Cloud) (i : Instance)
    (ids : List String) (address : String) : Prop where
  /-- The ids of the machine's volumes are those that its device mapping names, each once. -/
  carried : ∀ s, Ready Good c s → ∃ s', (volumeIds ctx (.text address)).run s =
    (.done (i.carried.eraseDups.map .text), s')
  /-- The volumes of the region have the ids of the region, each once. -/
  region : ∀ s, Ready Good c s → ∃ volumes s', (listAll ctx).run s = (.done volumes, s') ∧
    volumes.map (·.id) = ids.eraseDups.map .text
  /-- The volumes of the machine are those of the region, as they are listed right after the machine
  was found, restricted to these ids, in order. -/
  list : ∀ s, Ready Good c s → ∃ m s₁ volumes s',
    (findMachine ctx (.text address)).run s = (.done m, s₁) ∧ Ready Good c s₁ ∧
    (listAll ctx).run s₁ = (.done volumes, s') ∧
    (Storage.list ctx (.text address)).run s = (.done (volumes.filter fun v =>
      Value.mem v.id (i.carried.eraseDups.map .text)), s') ∧
    (volumes.filter fun v => Value.mem v.id (i.carried.eraseDups.map .text)).map (·.id) =
      (present i ids).map .text
  /-- No id is there twice. -/
  once : i.carried.eraseDups.Nodup ∧ ids.eraseDups.Nodup ∧ (present i ids).Nodup
  /-- A volume is refused as already attached exactly if the machine carries it; otherwise it is asked
  to be attached. -/
  attach : ∀ s (id : String) (device timeout : Value) deadline, Ready Good c s → id ≠ "" →
    device.truthy = true → Due ctx timeout s deadline →
    Guarded ctx s (.text id) (Storage.attach ctx (.text id) device (.text address) timeout)
      .alreadyAttached (fun r => ∃ m referred, i.describe c.cls = .ok m ∧
        handle m = .ok referred ∧ r = .attach referred (.text id) device) (id ∈ i.carried)
  /-- Nothing else that can go wrong is reported as that. -/
  blamed : ∀ s (id : String) (device timeout : Value) deadline f s', Ready Good c s → id ≠ "" →
    device.truthy = true → Due ctx timeout s deadline →
    (Storage.attach ctx (.text id) device (.text address) timeout).run s = (.failed f, s') →
    f.isA .alreadyAttached = true → id ∈ i.carried
  /-- A volume is refused as not found exactly if it is not listed as the machine's; otherwise it is
  asked to be detached. -/
  detach : ∀ s (id : String) (timeout : Value) deadline, Ready Good c s →
    Due ctx timeout s deadline →
    Guarded ctx s (.text id) (Storage.detach ctx (.text id) (.text address) timeout)
      .volumeNotFound (fun r => ∃ m, i.describe c.cls = .ok m ∧
        r = if native c then .submitDetach (.text id) m.id true else .detach (.text id))
      (id ∉ present i ids)

theorem volumeIds_of_located (hsteady : Steady ctx nodes ids Good)
    (hat : Locates ctx nodes address i) (hs : Ready Good c s) {m : Machine}
    (hm : i.describe c.cls = .ok m) : m.volumeIds = i.carried.map .text :=
  Instance.volumeIds_of_describe (hsteady.plain i hat.mem) (hsteady.labelled i hat.mem)
    hs.sound.account hm

/-- The guard of an attachment looks at what the machine carries. -/
theorem guarded_attach (hsteady : Steady ctx nodes ids Good) (hat : Locates ctx nodes address i)
    (hs : Ready Good c s) {id : String} {device timeout : Value} {deadline : Float} (hid : id ≠ "")
    (hdevice : device.truthy = true) (hdue : Due ctx timeout s deadline) :
    Guarded ctx s (.text id) (Storage.attach ctx (.text id) device (.text address) timeout)
      .alreadyAttached (fun r => ∃ m referred, i.describe c.cls = .ok m ∧
        handle m = .ok referred ∧ r = .attach referred (.text id) device) (id ∈ i.carried) := by
  obtain ⟨m, s₁, hfind, hs₁, hm⟩ := run_findMachine_steady hsteady hat hs
  have hwritable := writable_of_describe (hsteady.plain i hat.mem) hm
  have hholds := Machine.holdsVolume_texts (volumeIds_of_located hsteady hat hs hm) id
  have hgiven : Given (.text id) device := ⟨by simpa [Value.truthy] using hid, hdevice⟩
  refine .of_cases ?_ (fun hheld => ?_) fun hapart => ?_
  · rintro r ⟨m, referred, -, -, rfl⟩
    rfl
  · have hreason := isA_alreadyAttachedFault id address hwritable
    rw [decide_eq_true hheld] at hholds
    have hrun := run_attach_held hgiven hdue hfind hholds
    rw [Fault.translate_own _ (Fault.isOwn_of_isA hreason)] at hrun
    have hreach := reads_findMachine ctx (.text address) s
    rw [hfind] at hreach
    exact ⟨_, s₁, hrun, hreason, hreach⟩
  · rw [decide_eq_false hapart] at hholds
    obtain ⟨referred, via, s₂, hreferred, hsingle⟩ :=
      single_attach hsteady hs₁ hwritable ⟨hgiven, hdue, hfind, hholds⟩
    exact ⟨_, via, s₂, ⟨m, referred, hm, hreferred, rfl⟩, hsingle⟩

/-- Only that guard tells that a volume is already attached. -/
theorem carried_of_blamed (hsteady : Steady ctx nodes ids Good) (hforeign : ctx.backend.Foreign)
    (hat : Locates ctx nodes address i) (hs : Ready Good c s) {id : String}
    {device timeout : Value} {deadline : Float} (hid : id ≠ "") (hdevice : device.truthy = true)
    (hdue : Due ctx timeout s deadline) {f : Fault} {s' : Session σ}
    (hrun : (Storage.attach ctx (.text id) device (.text address) timeout).run s =
      (.failed f, s')) (hreason : f.isA .alreadyAttached = true) : id ∈ i.carried := by
  obtain ⟨m, s₁, hfind, -, hm⟩ := run_findMachine_steady hsteady hat hs
  have hholds := Machine.holdsVolume_texts (volumeIds_of_located hsteady hat hs hm) id
  by_contra hapart
  rw [decide_eq_false hapart] at hholds
  have hgiven : Given (.text id) device := ⟨by simpa [Value.truthy] using hid, hdevice⟩
  have hblameless := blameless_attach hforeign ⟨hgiven, hdue, hfind, hholds⟩ hrun
  exact absurd (hreason.symm.trans hblameless.not_alreadyAttached) (by simp)

/-- The guard of a detachment looks at what is listed. -/
theorem guarded_detach (hsteady : Steady ctx nodes ids Good) (hat : Locates ctx nodes address i)
    (hs : Ready Good c s) (id : String) {timeout : Value} {deadline : Float}
    (hdue : Due ctx timeout s deadline) :
    Guarded ctx s (.text id) (Storage.detach ctx (.text id) (.text address) timeout)
      .volumeNotFound (fun r => ∃ m, i.describe c.cls = .ok m ∧
        r = if native c then .submitDetach (.text id) m.id true else .detach (.text id))
      (id ∉ present i ids) := by
  obtain ⟨m, s₁, hfind, hs₁, hm⟩ := run_findMachine_steady hsteady hat hs
  obtain ⟨volumes, s₂, -, hs₂, hlist, hids⟩ :=
    run_listAttached_steady hsteady hs₁ (volumeIds_of_located hsteady hat hs hm)
  have hmem : Value.mem (.text id) (_ : List Value) = decide (id ∈ present i ids) :=
    (congrArg (Value.mem (.text id)) hids).trans (Value.mem_texts id (present i ids))
  refine .of_cases ?_ (fun habsent => ?_) fun hpresent => ?_
  · rintro r ⟨m, -, rfl⟩
    cases native c <;> rfl
  · have hreason := isA_notAttachedFault id address
    rw [decide_eq_false habsent] at hmem
    have hrun := run_detach_absent hdue hfind hlist hmem
    rw [Fault.translate_own _ (Fault.isOwn_of_isA hreason)] at hrun
    have hreach := (reads_findMachine ctx (.text address)).bind fun m => reads_listAttached ctx m
    have hreach := hreach s
    rw [Run.run_bind_done hfind, hlist] at hreach
    exact ⟨_, s₂, hrun, hreason, hreach⟩
  · rw [decide_eq_true (not_not.1 hpresent)] at hmem
    obtain ⟨via, s₃, hsingle⟩ := single_detach hsteady hs₂ ⟨hdue, hfind, hlist, hmem⟩
    exact ⟨_, via, s₃, ⟨m, hm, rfl⟩, hsingle⟩

/-- **The guards agree with what is listed.** In a cloud that stays as it is, the ids of a machine's
volumes are those in its device mapping, its volumes are those of the region that have these ids, and
the guards of attachments and of detachments look at just that. With the address cache on, one machine
at most may have the address. -/
theorem consistent_of_steady (hsteady : Steady ctx nodes ids Good)
    (hforeign : ctx.backend.Foreign) (hat : Locates ctx nodes address i) :
    Consistent ctx Good c i ids address where
  carried s hs := by
    obtain ⟨m, s₁, hfind, -, hm⟩ := run_findMachine_steady hsteady hat hs
    refine ⟨s₁, ?_⟩
    unfold volumeIds
    rw [Run.run_bind_done hfind,
      Machine.attachedVolumes_texts (volumeIds_of_located hsteady hat hs hm)]
    rfl
  region s hs := by
    obtain ⟨volumes, s', hrun, -, hids⟩ := run_listAll_steady hsteady hs
    exact ⟨volumes, s', hrun, hids⟩
  list s hs := by
    obtain ⟨m, s₁, hfind, hs₁, hm⟩ := run_findMachine_steady hsteady hat hs
    obtain ⟨volumes, s', hrun, -, hlist, hids⟩ :=
      run_listAttached_steady hsteady hs₁ (volumeIds_of_located hsteady hat hs hm)
    exact ⟨m, s₁, volumes, s', hfind, hs₁, hrun, (Run.run_bind_done hfind).trans hlist, hids⟩
  once := ⟨nodup_eraseDups _, nodup_eraseDups _, nodup_present i ids⟩
  attach s id device timeout deadline hs hid hdevice hdue :=
    guarded_attach hsteady hat hs hid hdevice hdue
  blamed s id device timeout deadline f s' hs hid hdevice hdue hrun hreason :=
    carried_of_blamed hsteady hforeign hat hs hid hdevice hdue hrun hreason
  detach s id timeout deadline hs hdue := guarded_detach hsteady hat hs id hdue

/-- The entry of a device mapping for a volume. -/
def naming (id : String) : Fields :=
  [("device_name", .text "/dev/sdf"), ("ebs", .dict [("volume_id", .text id)])]

/-- Two volumes, one of which is named twice, and a device that has none. -/
def mapped : List Fields :=
  [naming "va", [("device_name", .text "/dev/sda")], naming "va", naming "vx"]

/-- A machine with these volumes. -/
def laden : Instance where
  id := .text "i-1"
  name := .text "n1"
  privateAddresses := .ok (.list [.text "10.0.0.1"])
  publicAddresses := .null
  mapping := .list (mapped.map .dict)

/-- Two volumes, one of which is listed twice. -/
def stock : List String := ["vb", "va", "va"]

/-- A cloud that has that machine and these volumes, whatever it is asked to do. -/
def still : Backend Unit where
  now _ := 0
  sleep _ _ := (.ok (), ())
  connect _ _ := (.ok (), ())
  respond _ r _ := (answer r, ())
where
  disk (id : String) : Disk := ⟨.text id, .int 1, .text "available", .null⟩
  answer : (r : Request) → Except Fault r.Answer
    | .listInstances => .ok [laden]
    | .describeInstances ids => .ok ([laden].filter fun i => Value.mem i.id ids)
    | .listDisks | .describeDisks _ => .ok (stock.map disk)
    | .describeTags _ => .ok (.tags [])
    | .attach .. | .detach _ | .submitDetach .. => .ok ()
    | _ => .error Sandbox.boom

/-- A session with that cloud, in which addresses are cached. -/
def stillContext : Context Unit := ⟨still, Sandbox.cachingSettings, Cloud.usual, 10⟩

def stillStart : Session Unit := ⟨⟨(), [], 0⟩, { cloud := Sandbox.account }⟩

theorem get_mapped {e : Fields} (h : e ∈ mapped) :
    Record.get e "ebs" = .null ∨ ∃ id, Record.get e "ebs" = .dict [("volume_id", .text id)] := by
  simp only [mapped, List.mem_cons, List.not_mem_nil, or_false] at h
  rcases h with rfl | rfl | rfl | rfl
  · exact .inr ⟨"va", rfl⟩
  · exact .inl rfl
  · exact .inr ⟨"va", rfl⟩
  · exact .inr ⟨"vx", rfl⟩

theorem plain_laden : laden.Plain where
  id := ⟨"i-1", rfl⟩
  privateAddresses := ⟨_, rfl, .inr ⟨["10.0.0.1"], rfl⟩⟩
  publicAddresses := .inl rfl
  mapping := .inr ⟨mapped, rfl, fun _ he => (get_mapped he).imp_right fun ⟨_, h⟩ => ⟨_, h⟩⟩

theorem labelled_laden : laden.Labelled := by
  intro es hes e he ebs hebs
  have hsame : es = mapped :=
    (List.map_inj_right fun _ _ h => Value.dict.inj h).1 (Value.list.inj hes).symm
  rw [hsame] at he
  rcases get_mapped he with hnone | ⟨id, hid⟩
  · rw [hnone] at hebs
    cases hebs
  · rw [hid] at hebs
    cases hebs
    exact .inr ⟨id, rfl⟩

theorem steady_still : Steady stillContext [laden] stock fun _ => True where
  driver := ⟨_, rfl⟩
  connect _ w _ := ⟨w, rfl, trivial⟩
  reads _ _ _ _ _ := trivial
  machines _ _ _ := rfl
  machine _ id _ found _ hfound i hi := by
    cases hfound
    obtain ⟨hi, hasked⟩ := List.mem_filter.1 hi
    refine ⟨hi, ?_⟩
    rw [List.mem_singleton.1 hi] at hasked ⊢
    have hid : id = .text "i-1" := by simpa [Value.mem, laden] using hasked
    rw [hid]
    rfl
  volumes _ _ _ := by
    refine ⟨stock.map still.disk, rfl, ?_, fun d hd => ?_⟩
    · rw [List.map_map]
      rfl
    · obtain ⟨id, -, rfl⟩ := List.mem_map.1 hd
      exact ⟨.inr (.inl ⟨1, rfl⟩), rfl, .inl rfl⟩
  tags _ _ _ sheet _ h := by
    cases h
    trivial
  plain i hi := by
    rw [List.mem_singleton.1 hi]
    exact plain_laden
  labelled i hi := by
    rw [List.mem_singleton.1 hi]
    exact labelled_laden
  key := rfl

theorem foreign_still : still.Foreign where
  connect _ _ _ h := nomatch h
  respond _ r _ f h := by
    cases r <;> cases h <;> rfl
  sleep _ _ _ h := nomatch h

theorem ready_still : Ready (fun _ => True) Sandbox.account stillStart where
  sound := ⟨rfl, rfl, rfl, nofun, trivial⟩
  opened := rfl
  driver := by
    rintro via (h | h) <;> cases h

/-- The machine has both volumes and lists one, which is not attached again, while the other is not
detached. -/
theorem consistent_of_steady_still :
    (∃ s', (volumeIds stillContext (.text "10.0.0.1")).run stillStart =
      (.done [.text "va", .text "vx"], s')) ∧
    (∃ volumes s', (list stillContext (.text "10.0.0.1")).run stillStart = (.done volumes, s') ∧
      volumes.map (·.id) = [.text "va"]) ∧
    (∃ f s', (Storage.attach stillContext (.text "va") (.text "/dev/sdf") (.text "10.0.0.1")
      (.int 5)).run stillStart = (.failed f, s') ∧ f.isA .alreadyAttached = true) ∧
    ∃ f s', (Storage.detach stillContext (.text "vx") (.text "10.0.0.1") (.int 5)).run stillStart =
      (.failed f, s') ∧ f.isA .volumeNotFound = true := by
  have hat : Locates stillContext [laden] "10.0.0.1" laden := ⟨rfl, fun _ => by decide⟩
  obtain ⟨hcarried, -, hlist, -, hattach, -, hdetach⟩ :=
    consistent_of_steady (c := Sandbox.account) steady_still foreign_still hat
  have hdue : ∃ deadline, Due stillContext (.int 5) stillStart deadline := ⟨_, rfl⟩
  obtain ⟨deadline, hdue⟩ := hdue
  refine ⟨hcarried stillStart ready_still, ?_, ?_, ?_⟩
  · obtain ⟨m, s₁, volumes, s', -, -, -, hrun, hids⟩ := hlist stillStart ready_still
    exact ⟨_, s', hrun, hids⟩
  · obtain ⟨f, s', hrun, hreason, -⟩ := (hattach stillStart "va" (.text "/dev/sdf") (.int 5) deadline
      ready_still (by decide) rfl hdue).refused.2 (by decide)
    exact ⟨f, s', hrun, hreason⟩
  · obtain ⟨f, s', hrun, hreason, -⟩ :=
      (hdetach stillStart "vx" (.int 5) deadline ready_still hdue).refused.2 (by decide)
    exact ⟨f, s', hrun, hreason⟩

/-- An attachment of one of the machine's volumes is not refused for that if it has no device, or if
its timeout is a word, and a detachment with such a timeout is not refused for that the volume is not
there. -/
theorem attach_unheeded :
    (∃ s', (volumeIds stillContext (.text "10.0.0.1")).run stillStart =
      (.done [.text "va", .text "vx"], s')) ∧
    (∃ f, (Storage.attach stillContext (.text "va") (.text "") (.text "10.0.0.1") (.int 5)).run
      stillStart = (.failed f, stillStart) ∧ f.isA .parameterMissing = true ∧
        f.isA .alreadyAttached = false) ∧
    (∃ f, (Storage.attach stillContext (.text "va") (.text "/dev/sdf") (.text "10.0.0.1")
      (.text "soon")).run stillStart = (.failed f, stillStart) ∧ f.isA .validation = true ∧
        f.isA .alreadyAttached = false) ∧
    ∃ f, (Storage.detach stillContext (.text "vx") (.text "10.0.0.1") (.text "soon")).run
      stillStart = (.failed f, stillStart) ∧ f.isA .validation = true ∧
        f.isA .volumeNotFound = false :=
  ⟨⟨_, rfl⟩, ⟨_, rfl, rfl, rfl⟩, ⟨_, rfl, rfl, rfl⟩, _, rfl, rfl, rfl⟩

end Consistent

end Storage

end BlockStorage
