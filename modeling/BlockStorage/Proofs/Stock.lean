import BlockStorage.Proofs.SteadyCloud
import Mathlib.Data.List.Forall2
import Mathlib.Data.List.Nodup

/-!
Clouds that keep a stock of volumes.

The stock has the volumes in the order in which they were created, and the tags of each. A storing
cloud lists what its stock has, tells the tags that were written, and adds a volume of an id of its
own when it is asked to create one (`Storing`).

What is told of a volume comes from both: its size and its place from the volume, its name from the
tags (`Stock.factsOf`). As long as nothing is changed every listing therefore shows the same
(`run_listAll_storing`). Where a volume is added and named, that of the others stays as it is and the
new one comes last (`Stock.facts_create`).
-/
namespace BlockStorage

/-- A volume in stock, with the size that is told of it. -/
structure Stored where
  id : String
  size : Value
  zone : Value

/-- What a cloud keeps of volumes. -/
structure Stock where
  volumes : List Stored
  tags : String → Tags

/-- What is told of a volume is what is kept of it. -/
structure Disk.Tells (d : Disk) (x : Stored) : Prop where
  id : d.id = .text x.id
  size : Storage.sizeOf d.size = .ok x.size
  zone : ∃ entries, d.extra.orElse (.dict []) = .dict entries ∧ Record.get entries "zone" = x.zone
  state : d.state.hashable = true

/-- What is told of the tags of a volume is what is kept of them. -/
def TagSheet.Tells (sheet : TagSheet) (ts : Tags) : Prop :=
  sheet = .tags ts ∨ ts = [] ∧ ∃ v, sheet = .other v ∧ v.truthy = false

/-- What a volume is known by. -/
structure Volume.Facts where
  id : Value
  name : Value
  size : Value
  location : Value

def Volume.facts (v : Volume) : Facts := ⟨v.id, v.name, v.size, v.location⟩

namespace Stock

def ids (k : Stock) : List String := k.volumes.map (·.id)

def add (k : Stock) (x : Stored) : Stock := { k with volumes := k.volumes ++ [x] }

/-- Writes tags of a volume. -/
def tag (k : Stock) (id : String) (new : Tags) : Stock :=
  { k with tags := fun t => if t = id then new.putAll (k.tags t) else k.tags t }

/-- The name of a volume, which is the value of a tag, empty if there is none. -/
def nameOf (k : Stock) (key : Value) (id : String) : Value :=
  ((Tags.find? key (k.tags id)).getD .null).orElse (.text "")

/-- What is told of a volume. -/
def factsOf (k : Stock) (key : Value) (x : Stored) : Volume.Facts where
  id := .text x.id
  name := Record.takeText (k.nameOf key x.id)
  size := x.size
  location := Record.takeText x.zone

/-- What is told of the volumes, one after the other. -/
def facts (k : Stock) (key : Value) : List Volume.Facts := k.volumes.map (k.factsOf key)

variable {k : Stock} {key : Value} {id name : String} {x : Stored}

theorem ids_facts (k : Stock) (key : Value) :
    (k.facts key).map (·.id) = k.ids.map .text := by
  unfold facts ids
  rw [List.map_map, List.map_map]
  rfl

/-- A volume that was named has that name. -/
theorem nameOf_tag_self (hkey : key.hashable = true) (hname : name ≠ "") :
    (k.tag id [(key, .text name)]).nameOf key id = .text name := by
  have hfound : Tags.find? key ((k.tag id [(key, .text name)]).tags id) = some (.text name) := by
    show Tags.find? key (if id = id then Tags.put key (.text name) (k.tags id) else k.tags id) = _
    rw [if_pos rfl, Tags.find?_put_self hkey]
  unfold nameOf
  rw [hfound]
  simp [Value.orElse, Value.truthy, hname]

/-- The other volumes have theirs still. -/
theorem factsOf_tag_other {new : Tags} (h : x.id ≠ id) :
    (k.tag id new).factsOf key x = k.factsOf key x := by
  unfold factsOf nameOf tag
  simp only [h, if_false]

/-- A volume that is added and named comes after the others, which are told of as before. -/
theorem facts_create (hfresh : x.id ∉ k.ids) (hkey : key.hashable = true) (hname : name ≠ "") :
    ((k.add x).tag x.id [(key, .text name)]).facts key =
      k.facts key ++ [⟨.text x.id, .text name, x.size, Record.takeText x.zone⟩] := by
  have hothers : ∀ y ∈ k.volumes,
      ((k.add x).tag x.id [(key, .text name)]).factsOf key y = k.factsOf key y := by
    intro y hy
    have hother : y.id ≠ x.id := by
      intro hsame
      exact hfresh (hsame ▸ List.mem_map_of_mem hy)
    rw [factsOf_tag_other hother]
    rfl
  show (k.volumes ++ [x]).map _ = _
  rw [List.map_append, List.map_congr_left hothers, List.map_singleton]
  congr 2
  unfold factsOf
  rw [nameOf_tag_self hkey hname]
  rfl

end Stock

namespace Storage

open Session Compute

variable {σ : Type} {ctx : Context σ} {stock : σ → Stock} {Good : σ → Prop} {k : Stock} {c : Cloud}
  {s s' : Session σ} {d : Disk} {x : Stored}

/-! ### Clouds with a stock -/

/-- A cloud that tells what its stock has. If it grants to create a volume it adds one under an id
that no other has; if it grants to tag a volume it writes the tags. -/
structure Storing (ctx : Context σ) (stock : σ → Stock) (Good : σ → Prop) : Prop extends
    Viewed ctx stock Good where
  once : ∀ w, Good w → (stock w).ids.Nodup
  volumes : ∀ via w, Good w → ∃ disks, (ctx.backend.respond via .listDisks w).1 = .ok disks ∧
    List.Forall₂ Disk.Tells disks (stock w).volumes
  tags : ∀ via (id : String) w, Good w → ∃ sheet,
    (ctx.backend.respond via (.describeTags (.text id)) w).1 = .ok sheet ∧
      sheet.Tells ((stock w).tags id)
  create : ∀ via size zone kind w receipt, Good w →
    (ctx.backend.respond via (.submitCreate size zone kind) w).1 = .ok receipt →
      ∃ id n, receipt.id = .text id ∧ id ∉ (stock w).ids ∧ (Value.text size).toInteger = .ok n ∧
        Shows stock Good ((stock w).add ⟨id, .int n, zone⟩)
          (ctx.backend.respond via (.submitCreate size zone kind) w).2
  receipt : ∀ via receipt w disk, Good w →
    (ctx.backend.respond via (.readReceipt receipt) w).1 = .ok disk →
      disk.id = receipt.id ∧
        Shows stock Good (stock w) (ctx.backend.respond via (.readReceipt receipt) w).2
  tag : ∀ via (id : String) new w, Good w →
    (ctx.backend.respond via (.createTags (.text id) new) w).1 = .ok () →
      Shows stock Good ((stock w).tag id new)
        (ctx.backend.respond via (.createTags (.text id) new) w).2

/-! ### Names -/

theorem tagOf_of_tells {sheet : TagSheet} {ts : Tags} {key : Value} (h : sheet.Tells ts)
    (hkey : key.hashable = true) : tagOf sheet key = .ok ((Tags.find? key ts).getD .null) := by
  rcases h with rfl | ⟨rfl, v, rfl, hv⟩
  · simp [tagOf, tagOf.lookUp, hkey]
  · simp [tagOf, tagOf.lookUp, hkey, hv]

theorem native_of_serving (hamazon : c.cls = .amazon) (hs : Serving Good c s) :
    native s.gateway.cloud = true := by
  rw [hs.cloud]
  simp [native, hamazon]

/-- The name of a volume is that in stock. -/
theorem run_volumeName_storing (hstore : Storing ctx stock Good) (hamazon : c.cls = .amazon)
    (hkey : ctx.settings.nameTag.hashable = true) (hs : Serving (Shows stock Good k) c s)
    (id : String) :
    ∃ s', (volumeName ctx (.text id)).run s = (.done (k.nameOf ctx.settings.nameTag id), s') ∧
      Serving (Shows stock Good k) c s' := by
  obtain ⟨via, s₁, hs₁, -, hask⟩ :=
    run_askStorage_serving (hstore.opens k) hs (.describeTags (.text id))
  obtain ⟨sheet, hanswer, htells⟩ := hstore.tags via id s₁.world.cloud hs₁.good.1
  rw [hs₁.good.2] at htells
  rw [hanswer] at hask
  have hquery : (queryTags ctx (.text id)).run s =
      (askStorage ctx (.describeTags (.text id))).run s := by
    unfold queryTags
    rw [Run.run_bind_done (run_current s)]
    exact congrArg (Run.run · s) (if_pos (native_of_serving hamazon hs))
  have hreach : Steps ctx Deed.Quiet s ((volumeName ctx (.text id)).run s).2 :=
    within_volumeName (.text id) trivial s
  have hrun : (volumeName ctx (.text id)).run s =
      (.done (k.nameOf ctx.settings.nameTag id), ((volumeName ctx (.text id)).run s).2) := by
    unfold volumeName
    rw [Run.run_bind_done (Run.run_wrapForeign_done (hquery.trans hask)),
      tagOf_of_tells htells hkey, Run.ofExcept_ok, pure_bind]
    rfl
  exact ⟨_, hrun, hs.quiet hstore.toViewed hreach⟩

/-! ### Listings -/

/-- What is told of a volume is that in stock. -/
theorem run_toVolume_storing (hstore : Storing ctx stock Good) (hamazon : c.cls = .amazon)
    (hkey : ctx.settings.nameTag.hashable = true) (hs : Serving (Shows stock Good k) c s)
    (h : d.Tells x) :
    ∃ v s', (toVolume ctx d).run s = (.done v, s') ∧
      v.facts = k.factsOf ctx.settings.nameTag x ∧ Serving (Shows stock Good k) c s' := by
  obtain ⟨entries, hextra, hzone⟩ := h.zone
  obtain ⟨st, hstate⟩ := ofState_of_hashable h.state
  obtain ⟨s', hname, hs'⟩ := run_volumeName_storing hstore hamazon hkey hs x.id
  rw [← h.id] at hname
  have hcaught : ((volumeName ctx d.id).catching fun f =>
      if f.isOwn then pure (.text "") else Run.fail f).run s =
        (.done (k.nameOf ctx.settings.nameTag x.id), s') := by
    rw [Run.run_catching, hname]
  unfold toVolume
  simp only [h.size, hextra, hstate, Record.copyEntries, Record.entries, Run.ofExcept_ok, pure_bind]
  rw [Run.run_bind_done hcaught, Run.run_bind_done (run_current s')]
  refine ⟨_, s', rfl, ?_, hs'⟩
  simp only [Volume.facts, Stock.factsOf, h.id, native_of_serving hamazon hs', if_true, hzone]
  rfl

/-- Volumes are told of one after the other. By induction on the volumes, with the ids that were seen
before, none of which comes again. -/
theorem run_toVolumes_storing (hstore : Storing ctx stock Good) (hamazon : c.cls = .amazon)
    (hkey : ctx.settings.nameTag.hashable = true) {disks : List Disk} {xs : List Stored}
    (htells : List.Forall₂ Disk.Tells disks xs) (seen : List String)
    (honce : (seen ++ xs.map (·.id)).Nodup) (hs : Serving (Shows stock Good k) c s) :
    ∃ volumes s', (toVolumes ctx (seen.map .text) disks).run s = (.done volumes, s') ∧
      volumes.map (·.facts) = xs.map (k.factsOf ctx.settings.nameTag) := by
  induction htells generalizing s seen with
  | nil => exact ⟨[], s, rfl, rfl⟩
  | @cons d x disks xs hd _ ih =>
    have hnew : x.id ∉ seen := by
      intro hseen
      exact List.disjoint_of_nodup_append honce hseen (List.mem_cons_self)
    have hlater : ((x.id :: seen) ++ xs.map (·.id)).Nodup := by
      rw [List.cons_append]
      exact List.nodup_middle.1 honce
    obtain ⟨v, s₁, htold, hfacts, hs₁⟩ := run_toVolume_storing hstore hamazon hkey hs hd
    obtain ⟨volumes, s', hrest, hmore⟩ := ih (x.id :: seen) hlater hs₁
    refine ⟨v :: volumes, s', ?_, ?_⟩
    · unfold toVolumes
      rw [hd.id, if_neg (show ¬(!(Value.text x.id).hashable) = true from Bool.false_ne_true),
        Value.mem_texts, decide_eq_false hnew, if_neg Bool.false_ne_true, Run.run_bind_done htold]
      exact Run.run_bind_done hrest
    · rw [List.map_cons, List.map_cons, hfacts, hmore]

/-- Every listing shows what is in stock. -/
theorem run_listAll_storing (hstore : Storing ctx stock Good) (hamazon : c.cls = .amazon)
    (hkey : ctx.settings.nameTag.hashable = true) (hs : Serving (Shows stock Good k) c s) :
    ∃ volumes s', (listAll ctx).run s = (.done volumes, s') ∧
      volumes.map (·.facts) = k.facts ctx.settings.nameTag := by
  obtain ⟨via, s₁, hs₁, -, hask⟩ := run_askStorage_serving (hstore.opens k) hs .listDisks
  obtain ⟨disks, hanswer, htells⟩ := hstore.volumes via s₁.world.cloud hs₁.good.1
  have honce := hstore.once s₁.world.cloud hs₁.good.1
  rw [hs₁.good.2] at htells honce
  rw [hanswer] at hask
  have hlist : (describeDisks ctx []).run s = (.done disks, _) :=
    (run_describeDisks_all s).trans hask
  have hs₂ : Serving (Shows stock Good k) c ((describeDisks ctx []).run s).2 :=
    hs.quiet hstore.toViewed (within_describeDisks [] trivial trivial s)
  rw [hlist] at hs₂
  obtain ⟨volumes, s', htold, hfacts⟩ :=
    run_toVolumes_storing hstore hamazon hkey htells [] honce hs₂
  exact ⟨volumes, s', run_listAll_done hlist htold, hfacts⟩

end Storage

end BlockStorage
