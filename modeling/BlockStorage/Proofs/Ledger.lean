import BlockStorage.Proofs.SteadyCloud

/-!
Clouds that keep a ledger of attachments.

The ledger has the machines as they came and the volumes, each with the machine that it is attached
to. What a machine is told to have is not kept but read off the ledger: the devices that it came
with, and then the volumes that are attached to it (`Ledger.machine`). To attach a volume is to set
its machine and to detach it is to clear that, so a machine gains the volume that is attached to it
(`Ledger.mem_held_attach`) and is left with what it had when that is detached again
(`Ledger.held_detach_attach`).

A recording cloud tells what the ledger says, and changes the ledger when it grants to attach or to
detach a volume, and not otherwise (`Recording`). While nothing is changed it is a steady cloud
(`Recording.steady`).
-/
namespace BlockStorage

/-- A volume, and the machine that it is attached to and the device that it is there, if it is
attached. -/
structure Holding where
  volume : String
  holder : Value := .null
  device : Value := .null

/-- The entry of a volume in the device mapping of its machine. -/
def Holding.entry (x : Holding) : Fields :=
  [("device_name", x.device), ("ebs", .dict [("volume_id", .text x.volume)])]

theorem Holding.get_entry (x : Holding) :
    Record.get x.entry "ebs" = .dict [("volume_id", .text x.volume)] := rfl

theorem Holding.carried_entry (x : Holding) :
    Device.carried? (.dict x.entry) = if x.volume = "" then none else some x.volume := rfl

/-- What a cloud keeps of attachments: its machines, with the devices that they came with, and its
volumes. -/
structure Ledger where
  hosts : List Instance
  holdings : List Holding

namespace Ledger

/-! ### Telling -/

/-- The ids of the volumes. -/
def ids (l : Ledger) : List String := l.holdings.map (·.volume)

/-- What is attached to a machine. -/
def heldBy (l : Ledger) (host : Value) : List Holding := l.holdings.filter (·.holder.equal host)

/-- The volumes that are attached to a machine, as far as they have ids. -/
def held (l : Ledger) (host : Value) : List String :=
  ((l.heldBy host).map (·.volume)).filter (· ≠ "")

/-- The entries of what is attached to a machine. -/
def entries (l : Ledger) (host : Value) : List Value := (l.heldBy host).map fun x => .dict x.entry

/-- The device mapping of a machine: the one that it came with, and then what is attached to it. -/
def mapping (l : Ledger) (i : Instance) : Value :=
  match i.mapping with
  | .list given => .list (given ++ l.entries i.id)
  | v => if (l.entries i.id).isEmpty then v else .list (l.entries i.id)

/-- What is told of a machine. -/
def machine (l : Ledger) (i : Instance) : Instance := { i with mapping := l.mapping i }

def machines (l : Ledger) : List Instance := l.hosts.map l.machine

/-! ### Changing -/

/-- Changes the volume with an id. -/
def change (l : Ledger) (volume : String) (f : Holding → Holding) : Ledger :=
  { l with holdings := l.holdings.map fun x => if x.volume = volume then f x else x }

def attach (l : Ledger) (volume : String) (host device : Value) : Ledger :=
  l.change volume fun x => { x with holder := host, device }

def detach (l : Ledger) (volume : String) : Ledger :=
  l.change volume fun x => { x with holder := .null, device := .null }

variable {l : Ledger} {i : Instance} {volume host : String} {device : Value}

theorem ids_change {f : Holding → Holding} (hf : ∀ x, (f x).volume = x.volume) :
    (l.change volume f).ids = l.ids := by
  unfold ids change
  rw [List.map_map]
  apply List.map_congr_left
  intro x _
  show (if x.volume = volume then f x else x).volume = x.volume
  split
  · exact hf x
  · rfl

@[simp]
theorem ids_attach (l : Ledger) (volume : String) (host device : Value) :
    (l.attach volume host device).ids = l.ids := ids_change fun _ => rfl

@[simp]
theorem ids_detach (l : Ledger) (volume : String) : (l.detach volume).ids = l.ids :=
  ids_change fun _ => rfl

theorem mem_held {v : String} :
    v ∈ l.held (.text host) ↔
      (∃ x ∈ l.holdings, x.holder = .text host ∧ x.volume = v) ∧ v ≠ "" := by
  simp [held, heldBy, and_assoc]

/-- A machine has what it had and the volume that was attached to it. -/
theorem mem_held_attach (hvolume : volume ≠ "") (hthere : volume ∈ l.ids) {v : String} :
    v ∈ (l.attach volume (.text host) device).held (.text host) ↔
      v = volume ∨ v ∈ l.held (.text host) := by
  obtain ⟨x, hx, rfl⟩ := List.mem_map.1 hthere
  rw [mem_held, mem_held]
  constructor
  · rintro ⟨⟨y, hy, hholder, rfl⟩, hv⟩
    obtain ⟨z, hz, rfl⟩ := List.mem_map.1 hy
    by_cases hsame : z.volume = x.volume
    · left
      simp only [hsame, if_true]
    · simp only [hsame, if_false] at hholder hv ⊢
      exact .inr ⟨⟨z, hz, hholder, rfl⟩, hv⟩
  · rintro (rfl | ⟨⟨z, hz, hholder, rfl⟩, hv⟩)
    · refine ⟨⟨{ x with holder := .text host, device }, List.mem_map.2 ⟨x, hx, ?_⟩, rfl, rfl⟩,
        hvolume⟩
      simp
    · by_cases hsame : z.volume = x.volume
      · refine ⟨⟨{ z with holder := .text host, device }, List.mem_map.2 ⟨z, hz, ?_⟩, rfl, rfl⟩, hv⟩
        simp [hsame]
      · refine ⟨⟨z, List.mem_map.2 ⟨z, hz, ?_⟩, hholder, rfl⟩, hv⟩
        simp [hsame]

/-- To detach what a machine does not have takes nothing from it. -/
theorem held_detach (hapart : volume ∉ l.held (.text host)) (hvolume : volume ≠ "") :
    (l.detach volume).held (.text host) = l.held (.text host) := by
  have hfree : ∀ x ∈ l.holdings, x.volume = volume → x.holder.equal (.text host) = false := by
    intro x hx hsame
    rw [Bool.eq_false_iff]
    intro hheld
    have hholder := Value.equal_text_iff.1 hheld
    exact hapart (mem_held.2 ⟨⟨x, hx, hholder, hsame⟩, hvolume⟩)
  suffices (l.detach volume).heldBy (.text host) = l.heldBy (.text host) by rw [held, held, this]
  show (l.holdings.map _).filter _ = l.holdings.filter _
  generalize l.holdings = xs at hfree
  induction xs with
  | nil => rfl
  | cons x rest ih =>
    have hrest := ih fun y hy => hfree y (List.mem_cons_of_mem x hy)
    have hhead := hfree x List.mem_cons_self
    by_cases hsame : x.volume = volume
    · rw [List.map_cons, List.filter_cons, List.filter_cons, hrest, if_pos hsame, hhead hsame]
      rfl
    · rw [List.map_cons, List.filter_cons, List.filter_cons, hrest, if_neg hsame]

/-- What was attached to a machine and is detached leaves it with what it had. -/
theorem held_detach_attach (hapart : volume ∉ l.held (.text host)) (hvolume : volume ≠ "") :
    ((l.attach volume (.text host) device).detach volume).held (.text host) =
      l.held (.text host) := by
  have hsame : (l.attach volume (.text host) device).detach volume = l.detach volume := by
    unfold attach detach change
    rw [List.map_map]
    congr 1
    apply List.map_congr_left
    intro x _
    by_cases hx : x.volume = volume <;> simp [hx]
  rw [hsame, held_detach hapart hvolume]

/-! ### Machines -/

/-- The machines of the ledger can be told of: they have ids, and devices in tables. -/
structure Sound (l : Ledger) : Prop where
  plain : ∀ i ∈ l.hosts, i.Plain
  labelled : ∀ i ∈ l.hosts, i.Labelled
  named : ∀ i ∈ l.hosts, i.id ≠ .text ""

/-- What is attached comes after the devices that the machine came with. -/
theorem mapping_of_plain (l : Ledger) (h : i.Plain) :
    (l.mapping i = .null ∧ i.mapping = .null ∧ l.heldBy i.id = []) ∨
      ∃ es : List Fields, (i.mapping = .null ∧ es = [] ∨ i.mapping = .list (es.map .dict)) ∧
        l.mapping i = .list ((es ++ (l.heldBy i.id).map Holding.entry).map .dict) := by
  have hentries : l.entries i.id = ((l.heldBy i.id).map Holding.entry).map .dict := by
    rw [List.map_map]
    rfl
  unfold mapping
  rw [hentries]
  rcases h.mapping with hnone | ⟨es, hes, -⟩
  · rw [hnone]
    by_cases hempty : l.heldBy i.id = []
    · left
      rw [hempty]
      exact ⟨rfl, rfl, rfl⟩
    · refine .inr ⟨[], .inl ⟨rfl, rfl⟩, ?_⟩
      simp [hempty]
  · rw [hes]
    exact .inr ⟨es, .inr rfl, by rw [List.map_append]⟩

/-- A machine carries what it came with and what is attached to it. -/
theorem carried_machine (l : Ledger) (h : i.Plain) :
    (l.machine i).carried = i.carried ++ l.held i.id := by
  have hheld : (((l.heldBy i.id).map Holding.entry).map Value.dict).filterMap Device.carried? =
      l.held i.id := by
    unfold held
    generalize l.heldBy i.id = xs
    induction xs with
    | nil => rfl
    | cons x rest ih =>
      simp only [List.map_cons, List.filterMap_cons, List.filter_cons, x.carried_entry, ih]
      by_cases hx : x.volume = "" <;> simp [hx]
  unfold Instance.carried
  rcases l.mapping_of_plain h with ⟨hmapping, hnone, hempty⟩ | ⟨es, hes, hmapping⟩
  · simp [machine, hmapping, hnone, held, hempty]
  · show (match l.mapping i with
      | .list entries => entries.filterMap Device.carried?
      | _ => []) = _
    rw [hmapping]
    dsimp only
    rw [List.map_append, List.filterMap_append, hheld]
    rcases hes with ⟨hnone, rfl⟩ | hes
    · rw [hnone]
      rfl
    · rw [hes]

theorem mem_carried_attach (h : i.Plain) (hvolume : volume ≠ "") (hthere : volume ∈ l.ids)
    {v : String} : v ∈ ((l.attach volume i.id device).machine i).carried ↔
      v = volume ∨ v ∈ (l.machine i).carried := by
  obtain ⟨host, hhost⟩ := h.id
  rw [carried_machine _ h, carried_machine _ h, hhost, List.mem_append, List.mem_append,
    mem_held_attach hvolume hthere]
  exact or_left_comm

theorem carried_detach_attach (h : i.Plain) (hapart : volume ∉ (l.machine i).carried)
    (hvolume : volume ≠ "") :
    (((l.attach volume i.id device).detach volume).machine i).carried = (l.machine i).carried := by
  obtain ⟨host, hhost⟩ := h.id
  rw [carried_machine _ h, hhost, List.mem_append, not_or] at hapart
  rw [carried_machine _ h, carried_machine _ h, hhost, held_detach_attach hapart.2 hvolume]

theorem plain_machine (l : Ledger) (h : i.Plain) : (l.machine i).Plain where
  id := h.id
  privateAddresses := h.privateAddresses
  publicAddresses := h.publicAddresses
  mapping := by
    show (l.mapping i).IsMapping
    rcases l.mapping_of_plain h with ⟨hmapping, -, -⟩ | ⟨es, hes, hmapping⟩
    · exact .inl hmapping
    · refine .inr ⟨_, hmapping, fun e he => ?_⟩
      rcases List.mem_append.1 he with he | he
      · rcases hes with ⟨-, rfl⟩ | hes
        · cases he
        · rcases h.mapping with hnone | ⟨es', hes', htables⟩
          · cases hnone.symm.trans hes
          · have hsame : es = es' :=
              (List.map_inj_right fun _ _ h => Value.dict.inj h).1 (Value.list.inj (hes.symm.trans hes'))
            exact htables e (hsame ▸ he)
      · obtain ⟨x, -, rfl⟩ := List.mem_map.1 he
        exact .inr ⟨_, x.get_entry⟩

theorem labelled_machine (l : Ledger) (h : i.Plain) (hlabelled : i.Labelled) :
    (l.machine i).Labelled := by
  intro es hes e he
  rcases l.mapping_of_plain h with ⟨hmapping, -, -⟩ | ⟨given, hgiven, hmapping⟩
  · cases hmapping.symm.trans hes
  · have hsame : _ = es := (List.map_inj_right fun _ _ h => Value.dict.inj h).1
      (Value.list.inj (hmapping.symm.trans hes))
    rw [← hsame] at he
    rcases List.mem_append.1 he with he | he
    · rcases hgiven with ⟨-, rfl⟩ | hgiven
      · cases he
      · exact hlabelled given hgiven e he
    · obtain ⟨x, -, rfl⟩ := List.mem_map.1 he
      intro ebs hebs
      cases hebs
      exact .inr ⟨x.volume, rfl⟩

end Ledger

namespace Compute

open Session

variable {σ : Type} {ctx : Context σ} {ledger : σ → Ledger} {Good : σ → Prop} {l : Ledger}
  {i : Instance} {address : String} {w : σ}

/-- What is attached to a machine does not matter to where it is found. -/
theorem Locates.machine (h : Locates ctx l.hosts address i) :
    Locates ctx l.machines address (l.machine i) where
  first := by
    unfold Ledger.machines
    rw [List.find?_map]
    show (l.hosts.find? (·.has address)).map l.machine = _
    rw [h.first]
    rfl
  only hcache := by
    unfold Ledger.machines
    rw [List.filter_map, List.length_map]
    exact h.only hcache

/-- A cloud that tells what its ledger says. If it grants to attach or to detach a volume it changes
the ledger accordingly; it may also refuse to. Other than that it may change what it tells of
volumes, but for their ids. -/
structure Recording (ctx : Context σ) (ledger : σ → Ledger) (Good : σ → Prop) : Prop extends
    Viewed ctx ledger Good where
  sound : ∀ w, Good w → (ledger w).Sound
  machines : ∀ via w, Good w →
    (ctx.backend.respond via .listInstances w).1 = .ok (ledger w).machines
  machine : ∀ via id w found, Good w →
    (ctx.backend.respond via (.describeInstances [id]) w).1 = .ok found →
      ∀ i ∈ found, i ∈ (ledger w).machines ∧ i.id.equal id = true
  volumes : ∀ via w, Good w → ∃ disks, (ctx.backend.respond via .listDisks w).1 = .ok disks ∧
    disks.map (·.id) = (ledger w).ids.map .text ∧ ∀ d ∈ disks, d.Plain
  tags : ∀ via id w sheet, Good w →
    (ctx.backend.respond via (.describeTags id) w).1 = .ok sheet → sheet.Plain
  key : ctx.settings.nameTag.hashable = true
  attach : ∀ via (m : Machine) (id : String) device w, Good w →
    (ctx.backend.respond via (.attach m (.text id) device) w).1 = .ok () →
      id ∈ (ledger w).ids ∧ Shows ledger Good ((ledger w).attach id m.id device)
        (ctx.backend.respond via (.attach m (.text id) device) w).2
  detach : ∀ via (id : String) host w, Good w →
    (ctx.backend.respond via (.submitDetach (.text id) host true) w).1 = .ok () →
      Shows ledger Good ((ledger w).detach id)
        (ctx.backend.respond via (.submitDetach (.text id) host true) w).2

/-- As long as the ledger stays as it is, so does the cloud. -/
theorem Recording.steady (h : Recording ctx ledger Good) (hw : Shows ledger Good l w) :
    Steady ctx l.machines l.ids (Shows ledger Good l) where
  driver := h.driver
  connect := (h.opens l).connect
  reads via r w hr hw := h.harmless l (d := .asks r) hr via w hw
  machines via w hw := by rw [h.machines via w hw.1, hw.2]
  machine via id w found hw hfound := by
    have hmachine := h.machine via id w found hw.1 hfound
    rwa [hw.2] at hmachine
  volumes via w hw := by
    have hvolumes := h.volumes via w hw.1
    rwa [hw.2] at hvolumes
  tags via id w sheet hw hsheet := h.tags via id w sheet hw.1 hsheet
  plain i hi := by
    obtain ⟨host, hhost, rfl⟩ := List.mem_map.1 hi
    have hsound := h.sound w hw.1
    rw [hw.2] at hsound
    exact l.plain_machine (hsound.plain host hhost)
  labelled i hi := by
    obtain ⟨host, hhost, rfl⟩ := List.mem_map.1 hi
    have hsound := h.sound w hw.1
    rw [hw.2] at hsound
    exact l.labelled_machine (hsound.plain host hhost) (hsound.labelled host hhost)
  key := h.key

end Compute

end BlockStorage
