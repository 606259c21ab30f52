import BlockStorage.Proofs.Ledger

/-!
A cloud held in memory keeps a ledger.

An orderly cloud takes no time and meets no trouble, its volumes have texts for ids, each another,
and nothing that it tells is of an odd kind. Whether it is read or changed, it stays orderly, so it
is a recording cloud, whatever machines, volumes, tags and courses of states it has
(`recording_orderly`).
-/
namespace BlockStorage

namespace Sandbox

/-! ### Orderly clouds -/

/-- The id of a drive, if it is a text. -/
def Drive.label (d : Drive) : String :=
  match d.id with
  | .text t => t
  | _ => ""

/-- A drive as clouds usually have them: its id is a text, its size can be a whole number or a text,
its states can be looked up, and nothing else is told in place of its properties. -/
structure Drive.Orderly (d : Drive) : Prop where
  id : d.id = .text d.label
  size : d.size = .null ∨ (∃ n, d.size = .int n) ∨ ∃ text, d.size = .text text
  states : ∀ v ∈ d.states, v.hashable = true
  told : d.told = none

/-- A machine with the devices that it came with. -/
def Host.given (h : Host) : Instance where
  id := h.id
  name := h.name
  privateAddresses := match h.unreadable with
    | some f => .error f
    | none => .ok h.privateAddresses
  publicAddresses := h.publicAddresses
  mapping := h.mapping

/-- What the cloud keeps of attachments. -/
def ledger (w : Sandbox) : Ledger where
  hosts := w.hosts.map Host.given
  holdings := w.drives.map fun d => ⟨d.label, d.host, d.device⟩

/-- The states that drives go through can be looked up. -/
def Course.Orderly (c : Course) : Prop :=
  ∀ v ∈ c.created ++ c.attached ++ c.detached ++ c.destroyed, v.hashable = true

/-- A cloud that takes no time, meets no trouble and tells nothing odd. -/
structure Orderly (w : Sandbox) : Prop where
  latencies : w.latencies = []
  troubles : w.troubles = []
  hosts : w.ledger.Sound
  drives : ∀ d ∈ w.drives, d.Orderly
  once : (w.drives.map (·.label)).Nodup
  course : w.course.Orderly
  tags : ∀ e ∈ w.tags, e.2.Plain

variable {w w' : Sandbox}

/-- The machines are those of the ledger. -/
theorem Orderly.machines (h : w.Orderly) : w.ledger.machines = machines w := by
  unfold Ledger.machines Sandbox.machines
  show (w.hosts.map Host.given).map _ = _
  rw [List.map_map]
  apply List.map_congr_left
  intro host _
  have hheld : w.ledger.entries host.id =
      (w.drives.filter fun d => d.host.equal host.id).map Drive.mapping := by
    show (((w.drives.map _).filter _).map _) = _
    rw [List.filter_map, List.map_map]
    apply List.map_congr_left
    intro d hd
    show Value.dict [("device_name", d.device), ("ebs", .dict [("volume_id", .text d.label)])] = _
    rw [← (h.drives d (List.mem_filter.1 hd).1).id]
    rfl
  have hmapping : w.ledger.mapping host.given = w.mappingOf host := by
    unfold Ledger.mapping
    rw [show host.given.id = host.id from rfl, hheld]
    rfl
  show { host.given with mapping := w.ledger.mapping host.given } = w.machine host
  rw [hmapping]
  rfl

/-- An orderly cloud is calm. -/
theorem Orderly.calm (h : w.Orderly) : w.Calm where
  latencies := h.latencies
  troubles := h.troubles
  plain host hhost := by
    have hmachine : w.machine host ∈ w.ledger.machines := by
      rw [h.machines]
      exact List.mem_map_of_mem hhost
    obtain ⟨i, hi, hsame⟩ := List.mem_map.1 hmachine
    rw [← hsame]
    exact w.ledger.plain_machine (h.hosts.plain i hi)

/-- What a listing tells of an orderly drive is plain. -/
theorem Drive.Orderly.plain {d : Drive} (h : d.Orderly) : d.shown.Plain where
  size := h.size
  state := by
    show (d.states.headD .null).hashable = true
    cases hstates : d.states with
    | nil => rfl
    | cons v rest => exact h.states v (by simp [hstates])
  extra := by
    show d.told.getD _ = _ ∨ ∃ entries, d.told.getD _ = _
    rw [h.told]
    exact .inr ⟨_, rfl⟩

/-! ### Reading -/

theorem Drive.Orderly.moveOn {d : Drive} (h : d.Orderly) : d.moveOn.Orderly where
  id := h.id
  size := h.size
  states v hv := by
    unfold Drive.moveOn at hv
    dsimp only at hv
    split at hv
    · exact h.states v hv
    · exact h.states v (List.mem_of_mem_tail hv)
  told := h.told

/-- A listing changes nothing but the states of drives. -/
theorem map_list {α : Type} (w : Sandbox) (wanted : Drive → Bool) {f : Drive → α}
    (hf : ∀ d, f d.moveOn = f d) : (w.list wanted).2.drives.map f = w.drives.map f := by
  show (w.drives.map fun d => if wanted d then d.moveOn else d).map f = w.drives.map f
  rw [List.map_map]
  apply List.map_congr_left
  intro d _
  show f (if wanted d then d.moveOn else d) = f d
  split
  · exact hf d
  · rfl

theorem Orderly.list (h : w.Orderly) (wanted : Drive → Bool) :
    Compute.Shows ledger Orderly w.ledger (w.list wanted).2 := by
  have hledger : (w.list wanted).2.ledger = w.ledger := by
    unfold ledger
    congr 1
    exact w.map_list wanted fun d => rfl
  refine ⟨⟨h.latencies, h.troubles, hledger ▸ h.hosts, fun d hd => ?_, ?_, h.course, h.tags⟩, hledger⟩
  · obtain ⟨x, hx, rfl⟩ := List.mem_map.1 hd
    split
    · exact (h.drives x hx).moveOn
    · exact h.drives x hx
  · rw [w.map_list wanted fun d => rfl]
    exact h.once

/-! ### Changing -/

theorem mem_changeFirst {α : Type} {p : α → Bool} {f : α → α} {xs : List α} {y : α}
    (h : y ∈ changeFirst p f xs) : y ∈ xs ∨ ∃ x ∈ xs, y = f x := by
  induction xs with
  | nil => cases h
  | cons x rest ih =>
    unfold changeFirst at h
    split at h
    · rcases List.mem_cons.1 h with rfl | h
      · exact .inr ⟨x, List.mem_cons_self, rfl⟩
      · exact .inl (List.mem_cons_of_mem x h)
    · rcases List.mem_cons.1 h with rfl | h
      · exact .inl List.mem_cons_self
      · rcases ih h with h | ⟨z, hz, rfl⟩
        · exact .inl (List.mem_cons_of_mem x h)
        · exact .inr ⟨z, List.mem_cons_of_mem x hz, rfl⟩

/-- Where no two members have one label, the first with a label is all that have it. -/
theorem changeFirst_eq_map {drives : List Drive} (hdrives : ∀ d ∈ drives, d.Orderly)
    (honce : (drives.map (·.label)).Nodup) (id : String) (f : Drive → Drive) :
    changeFirst (fun d => d.id.equal (.text id)) f drives =
      drives.map fun d => if d.label = id then f d else d := by
  induction drives with
  | nil => rfl
  | cons d rest ih =>
    rw [List.map_cons, List.nodup_cons] at honce
    have hid : d.id.equal (.text id) = true ↔ d.label = id := by
      rw [(hdrives d List.mem_cons_self).id]
      simp
    rw [List.map_cons]
    unfold changeFirst
    by_cases hlabel : d.label = id
    · have hothers : (rest.map fun x => if x.label = id then f x else x) = rest.map fun x => x := by
        apply List.map_congr_left
        intro x hx
        have hother : x.label ≠ id := by
          rintro rfl
          exact honce.1 (hlabel ▸ List.mem_map_of_mem hx)
        rw [if_neg hother]
      rw [if_pos (hid.2 hlabel), if_pos hlabel, hothers, List.map_id']
    · rw [if_neg (mt hid.1 hlabel), if_neg hlabel,
        ih (fun x hx => hdrives x (List.mem_cons_of_mem d hx)) honce.2]

/-- What changes of a drive where it is and which states it goes through leaves the cloud orderly,
and its ledger is changed in the same way. -/
theorem Orderly.changeDrive (h : w.Orderly) (id : String) {host device : Value}
    {states : List Value} (hstates : ∀ v ∈ states, v.hashable = true) :
    Compute.Shows ledger Orderly
      (w.ledger.change id fun x => { x with holder := host, device })
      (w.changeDrive (.text id) fun d => { d with host, device, states }) := by
  have hchanged : (w.changeDrive (.text id) fun d => { d with host, device, states }).drives =
      w.drives.map fun d => if d.label = id then { d with host, device, states } else d :=
    changeFirst_eq_map h.drives h.once id _
  have hledger : (w.changeDrive (.text id) fun d => { d with host, device, states }).ledger =
      w.ledger.change id fun x => { x with holder := host, device } := by
    show Ledger.mk (w.hosts.map Host.given) (List.map _ (w.changeDrive (.text id) _).drives) = _
    rw [hchanged]
    unfold Ledger.change ledger
    congr 1
    rw [List.map_map, List.map_map]
    apply List.map_congr_left
    intro d _
    by_cases hlabel : d.label = id
    · simp only [Function.comp, hlabel, if_true]
      show Holding.mk d.label host device = Holding.mk id host device
      rw [hlabel]
    · simp only [Function.comp, hlabel, if_false]
  refine ⟨⟨h.latencies, h.troubles, ?_, fun d hd => ?_, ?_, h.course, h.tags⟩, hledger⟩
  · rw [hledger]
    exact ⟨h.hosts.plain, h.hosts.labelled, h.hosts.named⟩
  · rcases mem_changeFirst hd with hd | ⟨x, hx, rfl⟩
    · exact h.drives d hd
    · exact ⟨(h.drives x hx).id, (h.drives x hx).size, hstates, (h.drives x hx).told⟩
  · have hlabels : ((w.changeDrive (.text id) fun d => { d with host, device, states }).drives.map
        (·.label)) = w.drives.map (·.label) := by
      rw [hchanged, List.map_map]
      apply List.map_congr_left
      intro d _
      show (if d.label = id then { d with host, device, states } else d).label = d.label
      split <;> rfl
    rw [hlabels]
    exact h.once

theorem Orderly.mem_ids {id : String} {d : Drive} (h : w.Orderly)
    (hdrive : w.drive (.text id) = .ok d) : id ∈ w.ledger.ids := by
  unfold drive at hdrive
  split at hdrive
  · rename_i x hfound
    have hid := List.find?_some hfound
    have hx := List.mem_of_find?_eq_some hfound
    rw [(h.drives x hx).id, Value.equal_text_text, beq_iff_eq] at hid
    show id ∈ (w.drives.map _).map _
    rw [List.map_map, ← hid]
    exact List.mem_map_of_mem hx
  · cases hdrive

/-! ### Answers -/

theorem listDisks_of_calm (h : w.Calm) :
    (respond .listDisks w).1 = .ok (w.drives.map Drive.shown) := by
  rw [h.respond]
  show Except.ok ((w.drives.filter fun _ => true).map Drive.shown) = _
  rw [List.filter_eq_self.2 fun _ _ => rfl]

theorem Orderly.plain_of_describeTags (h : w.Orderly) {id : Value} {sheet : TagSheet}
    (hsheet : (respond (.describeTags id) w).1 = .ok sheet) : sheet.Plain := by
  rw [h.calm.respond] at hsheet
  unfold act at hsheet
  dsimp only at hsheet
  split at hsheet
  · cases hsheet
    unfold Value.find?
    cases hfound : w.tags.find? (·.1.equal id) with
    | none => rfl
    | some e => exact h.tags e (List.mem_of_find?_eq_some hfound)
  · cases hsheet

/-- An attachment that is made is in the ledger. -/
theorem Orderly.attach (h : w.Orderly) {m : Machine} {id : String} {device : Value}
    (hanswer : (respond (.attach m (.text id) device) w).1 = .ok ()) :
    id ∈ w.ledger.ids ∧ Compute.Shows ledger Orderly (w.ledger.attach id m.id device)
      (respond (.attach m (.text id) device) w).2 := by
  rw [h.calm.respond] at hanswer ⊢
  unfold act at hanswer ⊢
  dsimp only at hanswer ⊢
  cases hdrive : w.drive (.text id) with
  | error f =>
    rw [hdrive] at hanswer
    cases hanswer
  | ok d =>
    refine ⟨h.mem_ids hdrive, h.changeDrive id fun v hv => h.course v ?_⟩
    simp [hv]

/-- A drive that is released is at no machine in the ledger. -/
theorem Orderly.release (h : w.Orderly) {id : String} {host : Value}
    (hanswer : (w.release (.text id) host).1 = .ok ()) :
    Compute.Shows ledger Orderly (w.ledger.detach id) (w.release (.text id) host).2 := by
  unfold Sandbox.release at hanswer ⊢
  cases hdrive : w.drive (.text id) with
  | error f =>
    rw [hdrive] at hanswer
    cases hanswer
  | ok d =>
    rw [hdrive] at hanswer
    dsimp only at hanswer ⊢
    split at hanswer
    · rename_i hthere
      rw [if_pos hthere]
      refine h.changeDrive id fun v hv => h.course v ?_
      simp [hv]
    · cases hanswer

/-! ### The contract -/

open Compute

/-- In a calm cloud reading does no more than listings do, and sleeping no more than to move the
clock. -/
theorem viewed_calm {V : Type} {view : Sandbox → V} {Good : Sandbox → Prop} {settings : Settings}
    {name : Value} (hdriver : Session.driverOf settings = .ok name) (hcalm : ∀ w, Good w → w.Calm)
    (hlist : ∀ w wanted, Good w → Shows view Good (view w) (w.list wanted).2)
    (hclock : ∀ w clock, Good w → Shows view Good (view w) { w with clock }) :
    Viewed (context settings) view Good where
  driver := ⟨name, hdriver⟩
  connect _ w hw := ⟨w, (hcalm w hw).receive _, hw, rfl⟩
  reads _ r w hr hw := by
    show Shows view Good (view w) (respond r w).2
    rw [(hcalm w hw).respond]
    cases r with
    | listInstances | describeInstances _ | describeTags _ => exact ⟨hw, rfl⟩
    | listDisks => exact hlist w _ hw
    | describeDisks ids => exact hlist w _ hw
    | _ => exact hr.elim
  sleeps seconds w hw := by
    show Shows view Good (view w) (Sandbox.sleep seconds w).2
    unfold Sandbox.sleep wait
    cases Clock.advance w.clock seconds with
    | error f => exact ⟨hw, rfl⟩
    | ok clock => exact hclock w clock hw

theorem Orderly.in_time (h : w.Orderly) (clock : Float) : { w with clock }.Orderly :=
  ⟨h.latencies, h.troubles, h.hosts, h.drives, h.once, h.course, h.tags⟩

/-- **A cloud held in memory records attachments**, if it is orderly. -/
theorem recording_orderly {settings : Settings} {name : Value}
    (hdriver : Session.driverOf settings = .ok name) (hkey : settings.nameTag.hashable = true) :
    Recording (context settings) ledger Orderly where
  toViewed := viewed_calm hdriver (fun _ hw => hw.calm) (fun _ wanted hw => hw.list wanted)
    fun _ clock hw => ⟨hw.in_time clock, rfl⟩
  sound w hw := hw.hosts
  machines _ w hw := by
    show (respond .listInstances w).1 = _
    rw [hw.calm.respond, hw.machines]
    rfl
  machine via id w found hw hfound := by
    rw [hw.machines]
    obtain ⟨_, _, hanswer, -, hshown⟩ := (truthful_calm hdriver).describe via id w hw.calm
    rw [hanswer] at hfound
    have hsame : respond (.describeInstances [id]) w = _ := hw.calm.respond _
    obtain ⟨-, rfl⟩ := Prod.mk.inj (hanswer.symm.trans hsame)
    exact hshown found hfound
  volumes _ w hw := by
    refine ⟨w.drives.map Drive.shown, listDisks_of_calm hw.calm, ?_, ?_⟩
    · show _ = ((w.drives.map _).map _).map _
      rw [List.map_map, List.map_map, List.map_map]
      apply List.map_congr_left
      intro d hd
      exact (hw.drives d hd).id
    · intro disk hdisk
      obtain ⟨d, hd, rfl⟩ := List.mem_map.1 hdisk
      exact (hw.drives d hd).plain
  tags _ _ _ _ hw hsheet := hw.plain_of_describeTags hsheet
  key := hkey
  attach _ _ _ _ _ hw hanswer := hw.attach hanswer
  detach via id host w hw hanswer := by
    replace hanswer : (respond (.submitDetach (.text id) host true) w).1 = .ok () := hanswer
    show Shows ledger Orderly _ (respond (.submitDetach (.text id) host true) w).2
    rw [hw.calm.respond] at hanswer ⊢
    exact hw.release hanswer

end Sandbox

end BlockStorage
