import BlockStorage.Proofs.Requests

/-!
What clouds usually tell, and that it can be described.

Nothing that a cloud tells has a type of its own, and a value of the wrong kind can end any
operation that looks into it. A plain machine has addresses that are texts, and devices told of by
tables; a plain volume has a size that is a number, a text or missing, a state that can be looked up
and an extra that is a table or missing; plain tags are a table or nothing. Plain machines and
volumes can always be described (`Instance.describe_plain`, `Storage.toVolume_plain`).
-/
namespace BlockStorage

/-! ### Machines -/

namespace Value

/-- A list of texts, or nothing. -/
def IsTexts (v : Value) : Prop := v = .null ∨ ∃ ts : List String, v = .list (ts.map .text)

/-- Whether the value is a list with a text. -/
def lists (s : String) : Value → Bool
  | .list vs => mem (.text s) vs
  | _ => false

end Value

theorem Record.takeTexts_of_isTexts {v : Value} (h : v.IsTexts) :
    ∃ ts : List String, takeTexts v = .ok (ts.map .text) ∧
      ∀ s, Value.mem (.text s) (ts.map .text) = v.lists s := by
  rcases h with rfl | ⟨ts, rfl⟩
  · exact ⟨[], rfl, fun _ => rfl⟩
  · refine ⟨ts, ?_, fun _ => rfl⟩
    cases ts with
    | nil => rfl
    | cons t r =>
      have htake : ∀ us : List String, (us.map Value.text).map takeText = us.map .text := by
        intro us
        rw [List.map_map]
        rfl
      exact congrArg Except.ok (htake (t :: r))

/-- A machine whose texts are all hashable has the addresses that it lists. -/
theorem Machine.hasAddress_texts {m : Machine} {ps qs : List String}
    (hp : m.privateAddresses = ps.map .text) (hq : m.publicAddresses = qs.map .text) (s : String) :
    m.hasAddress (.text s) =
      .ok (Value.mem (.text s) (ps.map .text) || Value.mem (.text s) (qs.map .text)) := by
  have hknown : m.addresses = .ok (Value.distinct (ps.map .text ++ qs.map .text)) := by
    unfold addresses members
    rw [hp, hq, ← List.map_append, List.find?_eq_none.2]
    intro v hv
    obtain ⟨t, -, rfl⟩ := List.mem_map.1 hv
    exact Bool.false_ne_true
  unfold hasAddress
  rw [hknown]
  show Except.ok (Value.mem (.text s) (Value.distinct _)) = _
  rw [Value.mem_text_distinct, Value.mem, List.any_append]
  rfl

/-- Device mappings as clouds tell of them: a list of tables, each with a table for its volume. -/
def Value.IsMapping (v : Value) : Prop :=
  v = .null ∨ ∃ es : List Fields, v = .list (es.map .dict) ∧
    ∀ e ∈ es, Record.get e "ebs" = .null ∨ ∃ d, Record.get e "ebs" = .dict d

theorem Device.ofMapping_of_table {e : Fields}
    (h : Record.get e "ebs" = .null ∨ ∃ d, Record.get e "ebs" = .dict d) :
    ∃ device, ofMapping (.dict e) = .ok device := by
  obtain ⟨d, hd⟩ := Value.orElse_dict h
  simp only [ofMapping, Record.entries, hd, bind, Except.bind]
  exact ⟨_, rfl⟩

theorem Device.ofMapping_of_tables {es : List Fields}
    (h : ∀ e ∈ es, Record.get e "ebs" = .null ∨ ∃ d, Record.get e "ebs" = .dict d) :
    ∃ devices, (es.map Value.dict).mapM ofMapping = .ok devices := by
  induction es with
  | nil => exact ⟨[], rfl⟩
  | cons e r ih =>
    obtain ⟨device, hdevice⟩ := ofMapping_of_table (h e List.mem_cons_self)
    obtain ⟨devices, hdevices⟩ := ih fun x hx => h x (List.mem_cons_of_mem e hx)
    refine ⟨device :: devices, ?_⟩
    rw [List.map_cons, List.mapM_cons, hdevice, hdevices]
    rfl

namespace Instance

/-- A machine as clouds tell of it: its id is a text, its addresses are texts, and its devices are
told of by tables. -/
structure Plain (i : Instance) : Prop where
  id : ∃ text, i.id = .text text
  privateAddresses : ∃ v, i.privateAddresses = .ok v ∧ v.IsTexts
  publicAddresses : i.publicAddresses.IsTexts
  mapping : i.mapping.IsMapping

/-- Whether a machine has an address, private or public. -/
def has (address : String) (i : Instance) : Bool :=
  (match i.privateAddresses with
    | .ok v => v.lists address
    | .error _ => false) || i.publicAddresses.lists address

theorem devices_plain {i : Instance} (h : i.Plain) (cls : Cloud.Class) :
    ∃ devices, i.devices cls = .ok devices := by
  unfold devices
  split
  · rcases h.mapping with hm | ⟨es, hm, hes⟩
    · rw [hm]
      exact ⟨[], rfl⟩
    · obtain ⟨devices, hdevices⟩ := Device.ofMapping_of_tables hes
      refine ⟨devices, ?_⟩
      rw [hm]
      cases es with
      | nil => exact hdevices
      | cons e r => exact hdevices
  · exact ⟨[], rfl⟩

/-- A plain machine can be described, and the description has its id and its addresses. -/
theorem describe_plain {i : Instance} (h : i.Plain) (cls : Cloud.Class) :
    ∃ m, i.describe cls = .ok m ∧ m.id = i.id ∧
      ∀ address, m.hasAddress (.text address) = .ok (i.has address) := by
  obtain ⟨id, hid⟩ := h.id
  obtain ⟨v, hv, hprivate⟩ := h.privateAddresses
  obtain ⟨ps, hps, hpmem⟩ := Record.takeTexts_of_isTexts hprivate
  obtain ⟨qs, hqs, hqmem⟩ := Record.takeTexts_of_isTexts h.publicAddresses
  obtain ⟨devices, hdevices⟩ := devices_plain h cls
  refine ⟨⟨i.id, Record.takeText i.name, ps.map .text, qs.map .text, devices⟩, ?_, rfl, ?_⟩
  · simp only [describe, hv, hid, hps, hqs, hdevices, bind, Except.bind]
    rfl
  · intro address
    rw [Machine.hasAddress_texts rfl rfl, hpmem, hqmem, has, hv]

end Instance

/-! ### Volumes -/

/-- A volume as clouds usually tell of it: its size is a whole number, a text or missing, its state
can be looked up, and its extra is a table or missing. -/
structure Disk.Plain (d : Disk) : Prop where
  size : d.size = .null ∨ (∃ n, d.size = .int n) ∨ ∃ text, d.size = .text text
  state : d.state.hashable = true
  extra : d.extra = .null ∨ ∃ entries, d.extra = .dict entries

/-- Tags as clouds usually tell of them: a table, or nothing. -/
def TagSheet.Plain : TagSheet → Prop
  | .tags _ => True
  | .other v => v.truthy = false

/-- The tags that are told, none if something else is. -/
def TagSheet.told : TagSheet → Tags
  | .tags ts => ts
  | .other _ => []

namespace Storage

open Session

variable {σ : Type} {ctx : Context σ} {s : Session σ}

/-- A name that can be a key is looked up in what plain tags tell. -/
theorem tagOf_plain {sheet : TagSheet} (h : sheet.Plain) {name : Value} (hname : name.hashable = true) :
    tagOf sheet name = .ok ((Tags.find? name sheet.told).getD .null) := by
  cases sheet with
  | tags ts => simp only [tagOf, tagOf.lookUp, hname, if_true, TagSheet.told]
  | other v =>
    simp only [tagOf, tagOf.lookUp, show v.truthy = false from h, hname, if_true,
      Bool.false_eq_true, if_false, TagSheet.told]

/-- The name of a volume with plain tags can be read, or that fails with a fault of our own. -/
theorem volumeName_plain {id : Value} (hkey : ctx.settings.nameTag.hashable = true)
    (htags : ∀ sheet s', (queryTags ctx id).run s = (.done sheet, s') → sheet.Plain) :
    (∃ name s', (volumeName ctx id).run s = (.done name, s')) ∨
      ∃ f s', (volumeName ctx id).run s = (.failed f, s') ∧ f.isOwn = true := by
  unfold volumeName
  cases hquery : (queryTags ctx id).run s with
  | mk answer s₁ =>
    cases answer with
    | stalled => exact absurd (congrArg Prod.fst hquery) (ends_queryTags id s)
    | failed f =>
      refine .inr ⟨_, s₁, Run.run_bind_failed (Run.run_wrapForeign_failed hquery), ?_⟩
      split
      · assumption
      · rfl
    | done sheet =>
      have hplain := htags sheet s₁ hquery
      rw [Run.run_bind_done (Run.run_wrapForeign_done hquery), tagOf_plain hplain hkey]
      exact .inl ⟨_, _, rfl⟩

theorem sizeOf_plain {v : Value} (h : v = .null ∨ (∃ n, v = .int n) ∨ ∃ text, v = .text text) :
    ∃ size, sizeOf v = .ok size := by
  rcases h with rfl | ⟨n, rfl⟩ | ⟨text, rfl⟩
  · exact ⟨.null, rfl⟩
  · exact ⟨.int n, rfl⟩
  · simp only [sizeOf, Value.toInteger]
    cases Text.Integer.read text.toList with
    | ok n => exact ⟨_, rfl⟩
    | error f => exact ⟨_, rfl⟩

theorem ofState_of_hashable {v : Value} (h : v.hashable = true) :
    ∃ st, Status.ofState v = .ok st := by
  unfold Status.ofState
  split
  · exact ⟨_, rfl⟩
  · rw [h, if_pos rfl]
    exact ⟨_, rfl⟩

/-- A plain volume with plain tags can be told of, whether or not its tags can be read. -/
theorem toVolume_plain {d : Disk} (hd : d.Plain) (hkey : ctx.settings.nameTag.hashable = true)
    (htags : ∀ sheet s', (queryTags ctx d.id).run s = (.done sheet, s') → sheet.Plain) :
    ∃ v s', (toVolume ctx d).run s = (.done v, s') := by
  obtain ⟨size, hsize⟩ := sizeOf_plain hd.size
  obtain ⟨entries, hextra⟩ := Value.orElse_dict hd.extra
  obtain ⟨st, hstate⟩ := ofState_of_hashable hd.state
  have hname : ∃ name s', ((volumeName ctx d.id).catching fun f =>
      if f.isOwn then pure (.text "") else Run.fail f).run s = (.done name, s') := by
    rw [Run.run_catching]
    rcases volumeName_plain hkey htags with ⟨name, s', h⟩ | ⟨f, s', h, hown⟩
    · rw [h]
      exact ⟨_, _, rfl⟩
    · rw [h]
      simp only [hown, if_true]
      exact ⟨_, _, rfl⟩
  obtain ⟨name, s', hname⟩ := hname
  unfold toVolume
  simp only [hsize, hextra, hstate, Record.copyEntries, Record.entries, Run.ofExcept_ok, pure_bind]
  rw [Run.run_bind_done hname, Run.run_bind_done (run_current s')]
  exact ⟨_, _, rfl⟩

end Storage

end BlockStorage
