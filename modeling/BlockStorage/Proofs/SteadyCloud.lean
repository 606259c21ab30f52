import BlockStorage.Proofs.AddressCache
import BlockStorage.Proofs.OwnFaults
import BlockStorage.Proofs.ReadySession

/-!
Clouds that stay as they are, and what is attached in them.

A machine's device mapping may have entries without a volume, and may name a volume more than once.
What a machine carries are the volumes that are named there (`Instance.carried`), and its description
has each of them once (`attachedVolumes_texts`).

A steady cloud answers requests that only read, always with the same machines and with volumes of the
same ids, in the same order; all else that it tells of a volume may change. Reading leaves a ready
session ready (`Ready.steps`), so that every look-up finds the machine with an address
(`run_findMachine_steady`) and every listing shows the same ids, each once (`run_listAll_steady`).
-/
namespace BlockStorage

/-! ### Each once -/

theorem nodup_eraseDups {α : Type} [BEq α] [LawfulBEq α] (xs : List α) : xs.eraseDups.Nodup := by
  match xs with
  | [] => exact List.nodup_nil
  | a :: rest =>
    rw [List.eraseDups_cons, List.nodup_cons]
    refine ⟨fun hmem => ?_, nodup_eraseDups _⟩
    rw [List.mem_eraseDups, List.mem_filter] at hmem
    simp at hmem
termination_by xs.length
decreasing_by exact Nat.lt_succ_of_le (List.length_filter_le _ _)

/-- What is not among some texts before, each once. -/
def fresh (seen ts : List String) : List String := (ts.filter (· ∉ seen)).eraseDups

theorem fresh_nil (ts : List String) : fresh [] ts = ts.eraseDups := by
  rw [fresh, List.filter_eq_self.2]
  intro t _
  simp

theorem fresh_cons_of_mem {seen : List String} {t : String} (h : t ∈ seen) (ts : List String) :
    fresh seen (t :: ts) = fresh seen ts := by
  simp [fresh, h]

/-- A new text is among those before from then on. -/
theorem fresh_cons_of_not_mem {seen later : List String} {t : String} (h : t ∉ seen)
    (hlater : ∀ x, x ∈ later ↔ x = t ∨ x ∈ seen) (ts : List String) :
    fresh seen (t :: ts) = t :: fresh later ts := by
  simp only [fresh, h, not_false_eq_true, decide_true, List.filter_cons_of_pos,
    List.eraseDups_cons, List.filter_filter]
  congr 3
  funext x
  by_cases hx : x = t <;> simp [hlater, hx]

namespace Value

theorem mem_texts (s : String) (ts : List String) :
    mem (.text s) (ts.map .text) = decide (s ∈ ts) := by
  rw [Bool.eq_iff_iff, mem_text_iff, decide_eq_true_iff]
  simp

/-- Texts, each once. -/
theorem distinct_texts (ts : List String) : distinct (ts.map .text) = ts.eraseDups.map .text := by
  suffices ∀ us seen : List String,
      (us.map Value.text).foldl (fun seen v => if mem v seen then seen else seen ++ [v])
        (seen.map .text) = (seen ++ fresh seen us).map .text by
    have h := this ts []
    rwa [fresh_nil, List.nil_append] at h
  intro us
  induction us with
  | nil => simp [fresh]
  | cons u rest ih =>
    intro seen
    rw [List.map_cons, List.foldl_cons, mem_texts]
    by_cases hu : u ∈ seen
    · rw [decide_eq_true hu, if_pos rfl, ih, fresh_cons_of_mem hu]
    · have hlater : ∀ x, x ∈ seen ++ [u] ↔ x = u ∨ x ∈ seen := fun x => by
        rw [List.mem_append, List.mem_singleton]
        exact or_comm
      rw [decide_eq_false hu, if_neg Bool.false_ne_true,
        show seen.map Value.text ++ [.text u] = (seen ++ [u]).map .text by simp, ih,
        fresh_cons_of_not_mem hu hlater, List.append_assoc, List.singleton_append]

end Value

/-! ### What a machine carries -/

/-- A text that is not empty. -/
def Value.nonempty? : Value → Option String
  | .text t => if t = "" then none else some t
  | _ => none

/-- Of what is read as a text, what counts as true are the texts that are not empty. -/
theorem Value.truthy_of_label {v : Value} (h : v = .null ∨ ∃ t, v = .text t) :
    [Record.takeText (v.orElse (.text ""))].filter truthy = v.nonempty?.toList.map .text := by
  rcases h with rfl | ⟨t, rfl⟩
  · rfl
  · by_cases ht : t = ""
    · subst ht
      rfl
    · have htruthy : (Value.text t).truthy = true := by simpa [truthy] using ht
      simp [orElse, nonempty?, Record.takeText, htruthy, ht]

namespace Device

/-- The volume that an entry of a device mapping names, if it names one. -/
def carried? (entry : Value) : Option String := do
  let mapping ← entry.entries?
  let ebs ← (Record.get mapping "ebs").entries?
  (Record.get ebs "volume_id").nonempty?

/-- The volume of an entry has a text for its id, if it has one. -/
def Labelled (entry : Fields) : Prop :=
  ∀ ebs, Record.get entry "ebs" = .dict ebs →
    Record.get ebs "volume_id" = .null ∨ ∃ t, Record.get ebs "volume_id" = .text t

/-- What a device has for a volume counts as true exactly if its entry names one. -/
theorem volume_of_mapping {entry : Fields}
    (hplain : Record.get entry "ebs" = .null ∨ ∃ ebs, Record.get entry "ebs" = .dict ebs)
    (hlabelled : Labelled entry) {device : Device} (h : ofMapping (.dict entry) = .ok device) :
    [device.volume].filter Value.truthy = (carried? (.dict entry)).toList.map .text := by
  rcases hplain with hnone | ⟨ebs, hebs⟩
  · have hcarried : carried? (.dict entry) = none := by
      show (Record.get entry "ebs").entries?.bind _ = none
      rw [hnone]
      rfl
    simp only [ofMapping, Record.entries, hnone, bind, Except.bind] at h
    cases h
    rw [hcarried]
    rfl
  · have hcarried : carried? (.dict entry) = (Record.get ebs "volume_id").nonempty? := by
      show (Record.get entry "ebs").entries?.bind _ = _
      rw [hebs]
      rfl
    simp only [ofMapping, Record.entries, hebs, Value.orElse_dict_self, bind, Except.bind] at h
    cases h
    rw [hcarried]
    exact Value.truthy_of_label (hlabelled ebs hebs)

theorem volumes_of_mapping {es : List Fields} {devices : List Device}
    (hplain : ∀ e ∈ es, Record.get e "ebs" = .null ∨ ∃ ebs, Record.get e "ebs" = .dict ebs)
    (hlabelled : ∀ e ∈ es, Labelled e) (h : (es.map Value.dict).mapM ofMapping = .ok devices) :
    (devices.map (·.volume)).filter Value.truthy =
      ((es.map Value.dict).filterMap carried?).map .text := by
  induction es generalizing devices with
  | nil =>
    cases h
    rfl
  | cons e rest ih =>
    rw [List.map_cons, List.mapM_cons] at h
    cases hdevice : ofMapping (.dict e) with
    | error f =>
      rw [hdevice] at h
      cases h
    | ok device =>
      cases hrest : (rest.map Value.dict).mapM ofMapping with
      | error f =>
        rw [hdevice, hrest] at h
        cases h
      | ok others =>
        rw [hdevice, hrest] at h
        cases h
        have hhead := volume_of_mapping (hplain e List.mem_cons_self)
          (hlabelled e List.mem_cons_self) hdevice
        have htail := ih (fun x hx => hplain x (List.mem_cons_of_mem e hx))
          (fun x hx => hlabelled x (List.mem_cons_of_mem e hx)) hrest
        rw [List.map_cons, ← List.singleton_append, List.filter_append, hhead, htail,
          ← List.map_append, List.map_cons (f := Value.dict), List.filterMap_cons]
        cases carried? (.dict e) <;> rfl

end Device

theorem Record.elements_list (xs : List Value) : elements (.list xs) = .ok xs := by
  cases xs <;> rfl

namespace Instance

/-- The volumes that the device mapping of a machine names. -/
def carried (i : Instance) : List String :=
  match i.mapping with
  | .list entries => entries.filterMap Device.carried?
  | _ => []

/-- The volumes in the device mapping have texts for ids, as far as they have any. -/
def Labelled (i : Instance) : Prop :=
  ∀ es : List Fields, i.mapping = .list (es.map .dict) → ∀ e ∈ es, Device.Labelled e

variable {i : Instance} {cls : Cloud.Class} {m : Machine}

theorem devices_of_describe (h : i.describe cls = .ok m) : i.devices cls = .ok m.devices := by
  simp only [describe, bind, Except.bind] at h
  repeat' split at h
  all_goals cases h
  assumption

/-- The description of a machine has the volumes that the machine carries. -/
theorem volumeIds_of_describe (hplain : i.Plain) (hlabelled : i.Labelled)
    (haccount : cls.hasAccount = true) (h : i.describe cls = .ok m) :
    m.volumeIds = i.carried.map .text := by
  have hdevices := devices_of_describe h
  unfold devices at hdevices
  rw [if_pos haccount] at hdevices
  rcases hplain.mapping with hmapping | ⟨es, hmapping, htables⟩
  · rw [hmapping] at hdevices
    have hnone : m.devices = [] := (Except.ok.inj hdevices).symm
    simp [Machine.volumeIds, carried, hnone, hmapping]
  · rw [hmapping, Record.elements_list] at hdevices
    have hvolumes := Device.volumes_of_mapping htables (hlabelled es hmapping) hdevices
    rw [Machine.volumeIds, hvolumes, carried, hmapping]

end Instance

namespace Machine

variable {m : Machine} {ts : List String}

/-- Volumes with texts for ids can be put into a set. -/
theorem attachedVolumes_texts (h : m.volumeIds = ts.map .text) :
    m.attachedVolumes = .ok (ts.eraseDups.map .text) := by
  unfold attachedVolumes members
  rw [h, Value.distinct_texts, List.find?_eq_none.2]
  intro v hv
  obtain ⟨t, -, rfl⟩ := List.mem_map.1 hv
  exact Bool.false_ne_true

theorem holdsVolume_texts (h : m.volumeIds = ts.map .text) (id : String) :
    m.holdsVolume (.text id) = .ok (decide (id ∈ ts)) := by
  unfold holdsVolume
  rw [attachedVolumes_texts h]
  show Except.ok (Value.mem (.text id) _) = _
  rw [Value.mem_texts]
  simp

end Machine

namespace Compute

open Session

variable {σ : Type} {ctx : Context σ} {c : Cloud} {s s' s₁ : Session σ} {nodes : List Instance}
  {ids : List String} {Good : σ → Prop}

/-! ### Clouds that stay as they are -/

/-- What is asked of a cloud, as long as it is in a good state. Connections can be opened, and
machines and volumes are listed when asked for, always the same machines and always volumes of the
same ids. Asking for one machine or for tags may fail. Reading changes nothing of this. -/
structure Steady (ctx : Context σ) (nodes : List Instance) (ids : List String)
    (Good : σ → Prop) : Prop where
  driver : ∃ name, driverOf ctx.settings = .ok name
  connect : ∀ how w, Good w → ∃ w', ctx.backend.connect how w = (.ok (), w') ∧ Good w'
  reads : ∀ via (r : Request) w, Deed.Reads (.asks r) → Good w →
    Good (ctx.backend.respond via r w).2
  machines : ∀ via w, Good w → (ctx.backend.respond via .listInstances w).1 = .ok nodes
  machine : ∀ via id w found, Good w →
    (ctx.backend.respond via (.describeInstances [id]) w).1 = .ok found →
      ∀ i ∈ found, i ∈ nodes ∧ i.id.equal id = true
  volumes : ∀ via w, Good w → ∃ disks, (ctx.backend.respond via .listDisks w).1 = .ok disks ∧
    disks.map (·.id) = ids.map .text ∧ ∀ d ∈ disks, d.Plain
  tags : ∀ via id w sheet, Good w →
    (ctx.backend.respond via (.describeTags id) w).1 = .ok sheet → sheet.Plain
  plain : ∀ i ∈ nodes, i.Plain
  labelled : ∀ i ∈ nodes, i.Labelled
  key : ctx.settings.nameTag.hashable = true

theorem Steady.truthful (h : Steady ctx nodes ids Good) :
    Truthful ctx (fun _ => nodes) Good where
  driver := h.driver
  connect := h.connect
  list via w hw := ⟨_, Prod.ext (h.machines via w hw) rfl, h.reads via .listInstances w trivial hw⟩
  describe via id w hw := ⟨_, _, rfl, h.reads via (.describeInstances [id]) w trivial hw,
    fun found hfound => h.machine via id w found hw hfound⟩
  plain _ _ := h.plain

/-- Reading leaves the session ready. -/
theorem Ready.steps (hsteady : Steady ctx nodes ids Good) (hs : Ready Good c s)
    (h : Steps ctx Deed.Reads s s') : Ready Good c s' := by
  refine hs.steps_of hsteady.truthful.opens (fun d hd => ?_) h
  cases d with
  | asks r => exact fun via w hw => hsteady.reads via r w hd hw
  | sleeps seconds => exact hd.elim

/-! ### Look-ups -/

/-- The machine is the first with the address, and the only one if addresses are cached. -/
structure Locates (ctx : Context σ) (nodes : List Instance) (address : String) (i : Instance) :
    Prop where
  first : nodes.find? (·.has address) = some i
  only : ctx.settings.cacheAddresses = true → (nodes.filter (·.has address)).length ≤ 1

theorem Locates.mem {address : String} {i : Instance} (h : Locates ctx nodes address i) :
    i ∈ nodes := List.mem_of_find?_eq_some h.first

/-- The machine with an address is found. -/
theorem run_findMachine_steady (hsteady : Steady ctx nodes ids Good) {address : String}
    {i : Instance} (hat : Locates ctx nodes address i) (hs : Ready Good c s) :
    ∃ m s', (findMachine ctx (.text address)).run s = (.done m, s') ∧ Ready Good c s' ∧
      i.describe c.cls = .ok m := by
  have htrue := hsteady.truthful
  obtain ⟨m, hm, -⟩ := Instance.describe_plain (hsteady.plain i hat.mem) c.cls
  have hscanned : scanned c.cls address nodes = .done m := by
    unfold scanned
    rw [hat.first]
    exact congrArg Outcome.ofExcept hm
  have hfound : ∃ s', (findMachine ctx (.text address)).run s = (.done m, s') := by
    cases hcache : ctx.settings.cacheAddresses with
    | false =>
      obtain ⟨s', hrun⟩ := run_findMachine_uncached htrue hcache hs.sound address
      exact ⟨s', by rw [hrun, hscanned]⟩
    | true =>
      obtain ⟨out, s', hrun, -, hout, -⟩ := run_findMachine_cached htrue hcache hs.sound address
      refine ⟨s', ?_⟩
      rcases hout with ⟨m', rfl, hlisted⟩ | rfl
      · rw [hrun, (resolved_of_listed hlisted).unique (hat.only hcache), hscanned]
      · rw [hrun, hscanned]
  obtain ⟨s', hrun⟩ := hfound
  have hreach : Steps ctx Deed.Reads s ((findMachine ctx (.text address)).run s).2 :=
    within_findMachine (.text address) trivial (fun _ => trivial) s
  rw [hrun] at hreach
  exact ⟨m, s', hrun, hs.steps hsteady hreach, hm⟩

end Compute

namespace Storage

open Session Compute

variable {σ : Type} {ctx : Context σ} {c : Cloud} {s s' s₁ : Session σ} {nodes : List Instance}
  {ids : List String} {Good : σ → Prop}

/-! ### Listings -/

/-- The tags that are told of a volume are plain. -/
theorem plain_of_queryTags_steady (hsteady : Steady ctx nodes ids Good) (hs : Ready Good c s)
    {id : Value} {sheet : TagSheet} (h : (queryTags ctx id).run s = (.done sheet, s')) :
    sheet.Plain := by
  unfold queryTags at h
  rw [Run.run_bind_done (run_current s)] at h
  dsimp only at h
  split at h
  · obtain ⟨via, s₁, hs₁, hrun⟩ :=
      run_askStorage_ready hsteady.truthful.opens hs (.describeTags id)
    rw [hrun] at h
    exact hsteady.tags via id _ sheet hs₁.sound.good
      (Outcome.ofExcept_eq_done.1 (congrArg Prod.fst h))
  · cases h

/-- Volumes are told of by their ids, each once. By induction on the volumes, with the ids that were
seen before. -/
theorem run_toVolumes_steady (hsteady : Steady ctx nodes ids Good) {disks : List Disk}
    (hplain : ∀ d ∈ disks, d.Plain) (seen : List String) {ts : List String}
    (hids : disks.map (·.id) = ts.map .text) (hs : Ready Good c s) :
    ∃ volumes s', (toVolumes ctx (seen.map .text) disks).run s = (.done volumes, s') ∧
      volumes.map (·.id) = (fresh seen ts).map .text := by
  induction disks generalizing s ts seen with
  | nil =>
    cases ts with
    | nil => exact ⟨[], s, rfl, rfl⟩
    | cons t ts => cases hids
  | cons d rest ih =>
    cases ts with
    | nil => cases hids
    | cons t ts =>
      rw [List.map_cons, List.map_cons, List.cons.injEq] at hids
      obtain ⟨hid, hids⟩ := hids
      have hrest : ∀ d ∈ rest, d.Plain := fun x hx => hplain x (List.mem_cons_of_mem d hx)
      unfold toVolumes
      rw [hid, if_neg (show ¬(!(Value.text t).hashable) = true from Bool.false_ne_true),
        Value.mem_texts]
      by_cases ht : t ∈ seen
      · rw [decide_eq_true ht, if_pos rfl, fresh_cons_of_mem ht]
        exact ih hrest seen hids hs
      · rw [decide_eq_false ht, if_neg Bool.false_ne_true]
        obtain ⟨v, s₁, htold⟩ := toVolume_plain (hplain d List.mem_cons_self) hsteady.key
          fun sheet s' h => plain_of_queryTags_steady hsteady hs h
        have hreach : Steps ctx Deed.Reads s ((toVolume ctx d).run s).2 :=
          within_toVolume d trivial s
        rw [htold] at hreach
        obtain ⟨volumes, s', hvolumes, hfresh⟩ :=
          ih hrest (t :: seen) hids (hs.steps hsteady hreach)
        refine ⟨v :: volumes, s', ?_, ?_⟩
        · rw [Run.run_bind_done htold]
          exact Run.run_bind_done hvolumes
        · rw [List.map_cons, id_of_toVolume htold, hid, hfresh,
            fresh_cons_of_not_mem ht fun _ => List.mem_cons]
          rfl

/-- Every volume is asked for if no ids are given. -/
theorem run_describeDisks_all (s : Session σ) :
    (describeDisks ctx []).run s = (askStorage ctx .listDisks).run s := by
  unfold describeDisks
  rw [Run.run_bind_done (run_current s), List.isEmpty_nil, Bool.not_true, Bool.and_false,
    if_neg Bool.false_ne_true]

/-- The volumes of the region are listed, each once. -/
theorem run_listAll_steady (hsteady : Steady ctx nodes ids Good) (hs : Ready Good c s) :
    ∃ volumes s', (listAll ctx).run s = (.done volumes, s') ∧ Ready Good c s' ∧
      volumes.map (·.id) = ids.eraseDups.map .text := by
  have hreach : Steps ctx Deed.Reads s ((listAll ctx).run s).2 :=
    within_listAll trivial trivial (fun _ => trivial) s
  obtain ⟨via, s₁, hs₁, hask⟩ := run_askStorage_ready hsteady.truthful.opens hs .listDisks
  obtain ⟨disks, hanswer, hids, hplain⟩ := hsteady.volumes via _ hs₁.sound.good
  rw [hanswer] at hask
  have hlist : (describeDisks ctx []).run s = (.done disks, _) := (run_describeDisks_all s).trans hask
  have hs₂ : Ready Good c ((describeDisks ctx []).run s).2 :=
    hs.steps hsteady (within_describeDisks [] trivial trivial s)
  rw [hlist] at hs₂
  obtain ⟨volumes, s', htold, hfresh⟩ := run_toVolumes_steady hsteady hplain [] hids hs₂
  have hrun := run_listAll_done hlist htold
  rw [hrun] at hreach
  rw [fresh_nil] at hfresh
  exact ⟨volumes, s', hrun, hs.steps hsteady hreach, hfresh⟩

/-- Volumes with texts for ids can be restricted to those that are attached. -/
theorem restrict_texts {volumes : List Volume} {ts : List String}
    (h : volumes.map (·.id) = ts.map .text) (attached : List Value) :
    restrict volumes attached = .ok (volumes.filter fun v => Value.mem v.id attached) := by
  unfold restrict
  rw [List.find?_eq_none.2]
  intro v hv
  obtain ⟨t, -, ht⟩ := List.mem_map.1 (h ▸ List.mem_map.2 ⟨v, hv, rfl⟩)
  rw [← ht]
  exact Bool.false_ne_true

end Storage

end BlockStorage
