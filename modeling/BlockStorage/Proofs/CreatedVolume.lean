import BlockStorage.Proofs.Creation
import BlockStorage.Proofs.StockedSandbox
import BlockStorage.Proofs.ValidCloud

/-!
A created volume is listed as it was returned.

What a creation returns is put together from what was ordered: the size of the template, the place,
and a name with the time at which the volume was tagged. What a listing shows is put together from
what the cloud tells. In a cloud that stores volumes and tags they agree: the size that was written
in the request is the size that is told, and the name that was tagged is the name that is found.

Statement: after a creation with a result every listing shows what every listing showed before and
then the new volume, with the id, the name, the size and the place that were returned
(`listed_as_returned`). Between the creation and the listings any reading and waiting may take place.
-/
namespace BlockStorage

theorem Record.takeText_of_not_bytes {v : Value} (h : ∀ bs, v ≠ .bytes bs) :
    Record.takeText v = v := by
  cases v with
  | bytes bs => exact absurd rfl (h bs)
  | _ => rfl

namespace Storage

open Session Compute

variable {σ : Type} {ctx : Context σ} {stock : σ → Stock} {Good : σ → Prop} {k : Stock} {c : Cloud}
  {s s' : Session σ} {t : StorageTemplate} {o : Order} {disk : Disk} {v : Volume}
  {location place : Value}

/-! ### What was ordered -/

/-- The place is the given one or that of the template. -/
theorem place_eq_or (h : placeFor t location = .ok place) :
    place = location ∨ place = t.location := by
  unfold placeFor at h
  dsimp only at h
  split at h
  · rw [← Except.ok.inj h, Value.orElse]
    split
    · exact .inl rfl
    · exact .inr rfl
  · cases h

/-- A place that is no bytes, with a template that can be used, is told as it is. -/
theorem takeText_place (hvalid : t.Valid) (hlocation : ∀ bs, location ≠ .bytes bs)
    (h : placeFor t location = .ok place) : Record.takeText place = place := by
  rcases place_eq_or h with rfl | rfl
  · exact Record.takeText_of_not_bytes hlocation
  · rcases (StorageTemplate.plain_of_problems hvalid.problems).location with hnull | ⟨text, htext⟩
    · rw [hnull]
      rfl
    · rw [htext]
      rfl

/-- A creation with a result is that of an order. -/
theorem ordered_of_done {template timeout : Value}
    (h : (create ctx template location timeout).run s = (.done v, s')) :
    ∃ o, order ctx.settings s.gateway.cloud (ctx.backend.now s.world.cloud) template location
        timeout = .ok o ∧ (provision ctx o).run s = (.done v, s') := by
  unfold create at h
  rw [Run.run_bind_done (run_current s), Run.run_bind_done (run_now ctx s)] at h
  exact Run.done_of_run_ofExcept_bind h

/-- What is told of a volume has its id and the name that it has. -/
theorem told_of_toVolume {name : Value} {s₁ : Session σ}
    (hname : (volumeName ctx disk.id).run s = (.done name, s₁))
    (h : (toVolume ctx disk).run s = (.done v, s')) :
    v.id = Record.takeText disk.id ∧ v.name = Record.takeText name := by
  obtain ⟨size, hsize, h⟩ := Run.done_of_run_ofExcept_bind h
  obtain ⟨_, hcopy, h⟩ := Run.done_of_run_ofExcept_bind h
  obtain ⟨found, s₂, hfound, h⟩ := Run.done_of_run_bind h
  rw [Run.run_catching, hname] at hfound
  cases hfound
  obtain ⟨_, _, -, h⟩ := Run.done_of_run_bind h
  obtain ⟨_, _, -, h⟩ := Run.done_of_run_bind h
  obtain ⟨_, _, -, h⟩ := Run.done_of_run_bind h
  cases h
  exact ⟨rfl, rfl⟩

/-! ### What is stored -/

/-- Where volumes are managed natively, a create request that is granted was submitted, and its
receipt was read. -/
theorem submitted_of_created (hnative : native s.gateway.cloud = true)
    (h : (requestCreate ctx location t).run s = (.done disk, s')) :
    ∃ receipt s₁, t.size.writable = true ∧
      (askStorage ctx (.submitCreate t.size.display location
        (if t.volumeType.truthy then some t.volumeType else none))).run s = (.done receipt, s₁) ∧
      (askStorage ctx (.readReceipt receipt)).run s₁ = (.done disk, s') := by
  have hwritable : t.size.writable = true := by
    apply eq_true_of_ne_false
    intro hnot
    rw [run_requestCreate_unwritable hnative hnot] at h
    cases h
  rw [run_requestCreate_native hnative hwritable] at h
  obtain ⟨receipt, s₁, hsubmit, hread⟩ := Run.done_of_run_bind h
  exact ⟨receipt, s₁, hwritable, hsubmit, hread⟩

/-- A session in which a create request is granted can be used. -/
theorem serving_of_created (hamazon : s.gateway.cloud.cls = .amazon)
    (hdriver : ∀ via, s.gateway.compute.connection = some via ∨
      s.gateway.storage.connection = some via → via.kind = .driver)
    (hgood : Good s.world.cloud)
    (h : (requestCreate ctx location t).run s = (.done disk, s')) :
    Serving Good s.gateway.cloud s := by
  have hnative : native s.gateway.cloud = true := by simp [native, hamazon]
  obtain ⟨_, _, -, hsubmit, -⟩ := submitted_of_created hnative h
  obtain ⟨hopened, hreached⟩ := reached_of_answered hsubmit
  refine ⟨rfl, ?_, hopened, hreached, hdriver, hgood⟩
  rw [hamazon]
  rfl

/-- A volume that was asked for is in stock, of the size and at the place that were asked for. -/
theorem stocked_of_created (hstore : Storing ctx stock Good) (hamazon : c.cls = .amazon)
    (hs : Serving (Shows stock Good k) c s) {n : Int} (hsize : t.size = .int n)
    (h : (requestCreate ctx location t).run s = (.done disk, s')) :
    ∃ id, disk.id = .text id ∧ id ∉ k.ids ∧
      Serving (Shows stock Good (k.add ⟨id, .int n, location⟩)) c s' := by
  obtain ⟨receipt, s₁, hwritable, hsubmit, hread⟩ :=
    submitted_of_created (native_of_serving hamazon hs) h
  obtain ⟨via, w, hw, hanswer, hs₁⟩ := hs.answered (hstore.opens k) hsubmit
  obtain ⟨id, n', hid, hfresh, hn', hshows⟩ := hstore.create _ _ _ _ _ _ hw.1 hanswer
  rw [hsize] at hn' hwritable
  rw [Value.toInteger_display_int hwritable] at hn'
  cases hn'
  rw [hw.2] at hfresh hshows
  have hs₁ := hs₁ hshows
  obtain ⟨via', w', hw', hanswer', hs'⟩ := hs₁.answered (hstore.opens _) hread
  obtain ⟨hsame, hshows'⟩ := hstore.receipt _ _ _ _ hw'.1 hanswer'
  rw [hw'.2] at hshows'
  exact ⟨id, hsame.trans hid, hfresh, hs' hshows'⟩

/-- A volume that was tagged has its tags in stock. -/
theorem stocked_of_tagged (hstore : Storing ctx stock Good) (hamazon : c.cls = .amazon)
    (hs : Serving (Shows stock Good k) c s) {id : String} {new : Tags}
    (h : (applyTags ctx [.text id] new).run s = (.done (), s')) :
    Serving (Shows stock Good (k.tag id new)) c s' := by
  have hask := asked_of_tagged (native_of_serving hamazon hs) h
  obtain ⟨via, w, hw, hanswer, hs'⟩ := hs.answered (hstore.opens k) hask
  have hshows := hstore.tag via id new w hw.1 hanswer
  rw [hw.2] at hshows
  exact hs' hshows

/-! ### What is listed -/

/-- What volumes are listed as, however much has been read and waited for since. -/
def Lists (ctx : Context σ) (s : Session σ) (facts : List Volume.Facts) : Prop :=
  ∀ q, Steps ctx Deed.Quiet s q →
    ∃ volumes q', (listAll ctx).run q = (.done volumes, q') ∧ volumes.map (·.facts) = facts

theorem lists_of_serving (hstore : Storing ctx stock Good) (hamazon : c.cls = .amazon)
    (hkey : ctx.settings.nameTag.hashable = true) (hs : Serving (Shows stock Good k) c s) :
    Lists ctx s (k.facts ctx.settings.nameTag) := fun _ hq =>
  run_listAll_storing hstore hamazon hkey (hs.quiet hstore.toViewed hq)

/-- A session in which a volume was created from a template, and the session before that. -/
structure Created (ctx : Context σ) (t : StorageTemplate) (v : Volume) (s s' : Session σ) : Prop where
  /-- The volume is tagged with a name, which tells the time at which that is done. -/
  tagged : ∃ s₁ s₂ ms, Steps ctx Deed.Works s s₁ ∧
    milliseconds (ctx.backend.now s₁.world.cloud) = .ok ms ∧
    v.name = .text (t.namePrefix.display ++ "_" ++ toString ms) ∧
    (applyTags ctx [v.id] [(ctx.settings.nameTag, v.name)]).run s₁ = (.done (), s₂) ∧
    Steps ctx Deed.Reads s₂ s'
  /-- It has that name. -/
  named : ∀ q, Steps ctx Deed.Quiet s' q → ∃ q', (volumeName ctx v.id).run q = (.done v.name, q')
  /-- It is listed as it was returned, after what was listed before. -/
  listed : ∃ before, Lists ctx s before ∧ Lists ctx s' (before ++ [v.facts]) ∧
    v.id ∉ before.map (·.id)

/-- A volume that was tagged with a name when it was available is told of by that name, and the
listings show it as it was ordered. -/
theorem created_of_tagged (hstore : Storing ctx stock Good) (hamazon : c.cls = .amazon)
    (hkey : ctx.settings.nameTag.hashable = true) (hs : Serving (Shows stock Good k) c s)
    {x : Stored} {name : String} {told : Volume} {s₁ s₂ : Session σ} {ms : Int}
    (hfresh : x.id ∉ k.ids) (hplace : Record.takeText x.zone = x.zone)
    (hname : name = t.namePrefix.display ++ "_" ++ toString ms)
    (hbefore : Steps ctx Deed.Works s s₁)
    (hms : milliseconds (ctx.backend.now s₁.world.cloud) = .ok ms)
    (hs₁ : Serving (Shows stock Good (k.add x)) c s₁)
    (htag : (applyTags ctx [.text x.id] [(ctx.settings.nameTag, .text name)]).run s₁ =
      (.done (), s₂))
    (hid : disk.id = .text x.id) (htell : (toVolume ctx disk).run s₂ = (.done told, s')) :
    Created ctx t { told with
      status := Status.available.toValue, size := x.size, location := x.zone } s s' := by
  have hs₂ := stocked_of_tagged hstore hamazon hs₁ htag
  have hreads : Steps ctx Deed.Reads s₂ ((toVolume ctx disk).run s₂).2 :=
    within_toVolume disk trivial s₂
  have hquiet : Steps ctx Deed.Quiet s₂ ((toVolume ctx disk).run s₂).2 :=
    within_toVolume disk trivial s₂
  rw [htell] at hreads hquiet
  have hs' := hs₂.quiet hstore.toViewed hquiet
  have hne : name ≠ "" := by
    rw [hname]
    simp
  have hnamed : ((k.add x).tag x.id [(ctx.settings.nameTag, .text name)]).nameOf
      ctx.settings.nameTag x.id = .text name := Stock.nameOf_tag_self hkey hne
  obtain ⟨_, hfound, -⟩ := run_volumeName_storing hstore hamazon hkey hs₂ x.id
  rw [hnamed, ← hid] at hfound
  obtain ⟨htoldId, htoldName⟩ := told_of_toVolume hfound htell
  rw [hid] at htoldId
  change told.id = .text x.id at htoldId
  change told.name = .text name at htoldName
  have hfacts : Volume.facts { told with
      status := Status.available.toValue, size := x.size, location := x.zone } =
        ⟨.text x.id, .text name, x.size, Record.takeText x.zone⟩ := by
    rw [Volume.facts, htoldId, htoldName, hplace]
  refine ⟨⟨s₁, s₂, ms, hbefore, hms, ?_, ?_, hreads⟩, fun q hq => ?_, ?_⟩
  · rw [htoldName, hname]
  · rw [htoldId, htoldName]
    exact htag
  · obtain ⟨q', hrun, -⟩ :=
      run_volumeName_storing hstore hamazon hkey (hs'.quiet hstore.toViewed hq) x.id
    rw [hnamed] at hrun
    rw [htoldId, htoldName]
    exact ⟨q', hrun⟩
  · refine ⟨_, lists_of_serving hstore hamazon hkey hs, ?_, ?_⟩
    · rw [hfacts, ← Stock.facts_create hfresh hkey hne]
      exact lists_of_serving hstore hamazon hkey hs'
    · rw [Stock.ids_facts, htoldId, List.mem_map_of_injective fun _ _ => Value.text.inj]
      exact hfresh

/-- What is provided is created. -/
theorem created_of_provision (hstore : Storing ctx stock Good) (hamazon : c.cls = .amazon)
    (hs : Serving (Shows stock Good k) c s) (hvalid : o.template.Valid)
    (hplace : Record.takeText o.place = o.place)
    (h : (provision ctx o).run s = (.done v, s')) : Created ctx o.template v s s' := by
  obtain ⟨disk, s₁, settled, s₂, hcreate, hsettle, hnot⟩ := begun_of_not_failed h nofun
  cases settled with
  | failed f => exact absurd rfl (hnot f)
  | stalled =>
    rw [provision_stalled hcreate hsettle] at h
    cases h
  | done _ =>
    obtain ⟨n, hsize⟩ := hvalid.size
    obtain ⟨id, hid, hfresh, hs₁⟩ := stocked_of_created hstore hamazon hs hsize hcreate
    rw [provision_settled hcreate hsettle] at h
    obtain ⟨told, s₃, htell, hend⟩ := Run.done_of_run_bind h
    rw [hid] at hsettle
    obtain ⟨sw, ms, hwait, hms, hkey, htag⟩ := named_of_settled hsettle
    have hcreating : Steps ctx Deed.Works s ((requestCreate ctx o.place o.template).run s).2 :=
      within_requestCreate o.place o.template (fun _ => trivial) (fun _ => trivial) trivial s
    have hwaiting : Steps ctx Deed.Works s₁ ((await ctx (.text id) .available o.deadline).run s₁).2 :=
      works_await ctx (.text id) .available o.deadline s₁
    rw [hcreate] at hcreating
    rw [hwait] at hwaiting
    have hcreated := created_of_tagged hstore hamazon hkey hs (x := ⟨id, .int n, o.place⟩) hfresh
      hplace rfl (hcreating.trans hwaiting) hms
      (hs₁.quiet hstore.toViewed (quiet_of_await hwait)) htag hid htell
    cases hend
    rw [hsize]
    exact hcreated

/-- **A created volume is listed as it was returned**, in a cloud that stores volumes and tags. It has
the name that it was tagged with when it was available, and every listing shows it, once, with the
id, the name, the size and the place that were returned; what was listed before is listed as it
was. -/
theorem listed_as_returned (hstore : Storing ctx stock Good)
    (hamazon : s.gateway.cloud.cls = .amazon)
    (hdriver : ∀ via, s.gateway.compute.connection = some via ∨
      s.gateway.storage.connection = some via → via.kind = .driver)
    (hgood : Good s.world.cloud) {template timeout : Value}
    (htemplate : s.gateway.cloud.storageTemplate template = .ok t) (hvalid : t.Valid)
    (hlocation : ∀ bs, location ≠ .bytes bs)
    (hrun : (create ctx template location timeout).run s = (.done v, s')) :
    Created ctx t v s s' := by
  obtain ⟨o, horder, hprovision⟩ := ordered_of_done hrun
  obtain ⟨-, hfound, hplace, -⟩ := order_eq_ok_iff.1 horder
  cases htemplate.symm.trans hfound
  obtain ⟨_, _, _, _, hcreate, -⟩ := begun_of_not_failed hprovision nofun
  have hs : Serving (Shows stock Good (stock s.world.cloud)) s.gateway.cloud s :=
    serving_of_created hamazon hdriver ⟨hgood, rfl⟩ hcreate
  exact created_of_provision hstore hamazon hs hvalid (takeText_place hvalid hlocation hplace)
    hprovision

/-- A cloud with one volume, which has a name. -/
def pantry : Sandbox where
  clock := 0
  drives := [{ id := .text "va" }]
  tags := [(.text "va", .tags [(.text "Name", .text "data")])]

theorem stocked_pantry : pantry.Stocked where
  latencies := rfl
  troubles := rfl
  hosts := ⟨nofun, nofun, nofun⟩
  drives d hd := by
    rw [List.mem_singleton.1 hd]
    exact ⟨rfl, .inr (.inl ⟨1, rfl⟩), by simp [Value.hashable], rfl⟩
  once := by decide
  course := by simp [Sandbox.Course.Orderly, pantry, Value.hashable]
  tags e he := by
    rw [List.mem_singleton.1 he]
    trivial
  sizes := rfl
  ids := rfl
  coming n _ hn := by
    have hlists := congrArg String.toList (List.mem_singleton.1 hn)
    simp [Sandbox.madeUp, Sandbox.Drive.label] at hlists

/-- A volume is created, which is named by the three seconds that it takes to become available, and
listed after the volume that was there. -/
theorem listed_as_returned_pantry :
    ∃ v s', (create (Sandbox.context Sandbox.plainSettings) (.text "small") .null .null).run
        (Sandbox.start pantry) = (.done v, s') ∧ v.name = .text "small_3000" ∧
      Created (Sandbox.context Sandbox.plainSettings) Sandbox.small v (Sandbox.start pantry) s' := by
  have hdone : ((create (Sandbox.context Sandbox.plainSettings) (.text "small") .null .null).run
      (Sandbox.start pantry)).1.gives (·.name.equal (.text "small_3000")) = true := by
    decide +kernel
  obtain ⟨v, hrun, hname⟩ := Outcome.done_of_gives hdone
  have hdriver : ∀ via, (Sandbox.start pantry).gateway.compute.connection = some via ∨
      (Sandbox.start pantry).gateway.storage.connection = some via → via.kind = .driver :=
    fun _ h => h.elim nofun nofun
  have hlocation : ∀ bs, Value.null ≠ .bytes bs := nofun
  refine ⟨v, _, hrun, Value.equal_text_iff.1 hname, ?_⟩
  exact listed_as_returned (Sandbox.storing_stocked rfl) rfl hdriver stocked_pantry rfl ⟨rfl, rfl⟩
    hlocation hrun

end Storage

end BlockStorage
