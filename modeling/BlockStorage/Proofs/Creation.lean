import BlockStorage.Proofs.Plain
import BlockStorage.Sandbox.Trial

/-!
What becomes of a new volume when its creation fails.

A creation that has passed its checks makes its create request, settles the volume that it is told
of, and tells of the volume in turn. `create_tidy` says how each of these steps ends the creation,
whatever the cloud does. A volume that cannot be settled is destroyed, by the one destroy request of
the creation and the last request of all; a creation that is refused, and one that returns, destroys
nothing. The fault that is reported names what failed, what was ordered and which volume it was, and
does not depend on what becomes of the destroy request.

The report shows the size and the place that were ordered, so it takes words for both. Where there
are none, as for a size that is too long to be written, nothing is told of the failure but that
(`create_overlong`).
-/
namespace BlockStorage

/-- The deed destroys nothing. -/
def Deed.Spares : Deed → Prop
  | .asks (.destroy _) => False
  | _ => True

/-- A connection that can make any request can make a destroy request. -/
theorem Connection.serves_destroy {via : Connection} {r : Request} (h : via.serves r = true)
    (id : Value) : via.serves (.destroy id) = true := by
  unfold serves at h ⊢
  cases hkind : via.kind with
  | driver => rfl
  | channelless => rfl
  | foreign =>
    rw [hkind] at h
    cases h

namespace Session

variable {σ : Type} {ctx : Context σ} {s s' : Session σ}

/-- The storage side uses a connection that can destroy volumes. -/
def CanDestroy (s : Session σ) (via : Connection) : Prop :=
  s.gateway.storage.Holds via ∧ ∀ id, via.serves (.destroy id) = true

/-- Whoever was answered can also ask for a volume to be destroyed. -/
theorem canDestroy_of_answered {r : Request} {a : r.Answer}
    (h : (askStorage ctx r).run s = (.done a, s')) : ∃ via, s'.CanDestroy via := by
  obtain ⟨via, s₁, hvia, hrequest⟩ := Run.done_of_run_bind h
  have hheld := storageConnection_done hvia
  rw [request, run_inWorld] at hrequest
  by_cases hserves : via.serves r = true
  · have hgateway : s'.gateway = s₁.gateway := (congrArg (·.2.gateway) hrequest).symm
    exact ⟨via, hgateway ▸ hheld, via.serves_destroy hserves⟩
  · rw [World.run_request_refused hserves] at hrequest
    cases hrequest

end Session

namespace Storage

open Session

variable {σ : Type} {ctx : Context σ} {s s' s₁ s₂ : Session σ}

/-! ### Destroying -/

/-- A destroy request is written down, and its answer does not matter to a cleanup. -/
theorem run_destroy_ignored {via : Connection} (h : s.CanDestroy via) (id : Value) :
    ∃ s', ((destroy ctx id).catching fun _ => pure ()).run s = (.done (), s') ∧
      s'.world.journal = .requested via (.destroy id) :: s.world.journal := by
  have hdestroy : (destroy ctx id).run s = (request ctx via (.destroy id)).run s := by
    unfold destroy askStorage
    rw [Run.run_bind_done (storageConnection_held ctx s via h.1.1 h.1.2)]
  rw [Run.run_catching, hdestroy, request, run_inWorld, World.run_request (h.2 id)]
  cases (ctx.backend.respond via (.destroy id) s.world.cloud).1 with
  | ok _ => exact ⟨_, rfl, rfl⟩
  | error f => exact ⟨_, rfl, rfl⟩

theorem canDestroy_of_created {location : Value} {t : StorageTemplate} {disk : Disk}
    (h : (requestCreate ctx location t).run s = (.done disk, s')) : ∃ via, s'.CanDestroy via := by
  unfold requestCreate at h
  rw [Run.run_bind_done (run_current s)] at h
  split at h
  · dsimp only at h
    split at h
    · obtain ⟨_, _, hfail, -⟩ := Run.done_of_run_bind h
      cases hfail
    · obtain ⟨receipt, s₁, -, hread⟩ := Run.done_of_run_bind h
      exact canDestroy_of_answered hread
  · exact canDestroy_of_answered h

/-- A fault passes the cleanup, which destroys the volume if it has an id. -/
theorem run_deletingOnFault {α : Type} {x : Run (Session σ) α} {f : Fault} {via : Connection}
    (hx : x.run s = (.failed f, s₁)) (hvia : s₁.CanDestroy via) (id : Value) :
    ∃ s₂, (deletingOnFault ctx id x).run s = (.failed f, s₂) ∧
      s₂.world.journal =
        if id.truthy then .requested via (.destroy id) :: s₁.world.journal
        else s₁.world.journal := by
  unfold deletingOnFault
  rw [Run.run_catching, hx]
  dsimp only
  split
  · obtain ⟨s₂, hdestroy, hjournal⟩ := run_destroy_ignored hvia id
    refine ⟨s₂, ?_, hjournal⟩
    rw [Run.run_bind_done hdestroy, Run.run_fail]
  · exact ⟨s₁, rfl, rfl⟩

/-! ### How a creation ends -/

theorem requestCreate_spares (ctx : Context σ) (location : Value) (t : StorageTemplate) :
    Within ctx Deed.Spares (requestCreate ctx location t) :=
  within_requestCreate location t (fun _ => trivial) (fun _ => trivial) trivial

theorem settle_spares (ctx : Context σ) (id : Value) (t : StorageTemplate) (deadline : Float) :
    Within ctx Deed.Spares (settle ctx id t deadline) :=
  within_settle id t deadline trivial trivial trivial fun _ => trivial

theorem toVolume_spares (ctx : Context σ) (d : Disk) :
    Within ctx Deed.Spares (toVolume ctx d) :=
  within_toVolume d trivial

section Provision

variable {o : Order} {disk : Disk} {f : Fault}

/-- A creation that is not begun is reported. -/
theorem provision_refused
    (h : (requestCreate ctx o.place o.template).run s = (.failed f, s₁)) :
    (provision ctx o).run s =
      (.failed (creationReport o.template.size o.place .null f), s₁) :=
  Run.run_bind_failed (Run.run_mapFault_failed h)

theorem provision_begun
    (h : (requestCreate ctx o.place o.template).run s = (.done disk, s₁)) :
    (provision ctx o).run s = (finish ctx o disk).run s₁ :=
  Run.run_bind_done (Run.run_mapFault_done h)

/-- A volume that cannot be settled is destroyed, if it has an id, and then that is reported. -/
theorem provision_unsettled
    (hcreate : (requestCreate ctx o.place o.template).run s = (.done disk, s₁))
    (hsettle : (settle ctx disk.id o.template o.deadline).run s₁ = (.failed f, s₂)) :
    ∃ via s₃, (provision ctx o).run s =
        (.failed (creationReport o.template.size o.place disk.id f), s₃) ∧
      s₃.world.journal =
        if disk.id.truthy then .requested via (.destroy disk.id) :: s₂.world.journal
        else s₂.world.journal := by
  obtain ⟨via, hvia⟩ := canDestroy_of_created hcreate
  have hsteps := settle_spares ctx disk.id o.template o.deadline s₁
  rw [hsettle] at hsteps
  obtain ⟨s₃, hrun, hjournal⟩ :=
    run_deletingOnFault hsettle ⟨hsteps.storage_holds hvia.1, hvia.2⟩ disk.id
  refine ⟨via, s₃, ?_, hjournal⟩
  rw [provision_begun hcreate]
  exact Run.run_bind_failed (Run.run_mapFault_failed hrun)

/-- A volume that is settled is told of as it was ordered. -/
theorem provision_settled
    (hcreate : (requestCreate ctx o.place o.template).run s = (.done disk, s₁))
    (hsettle : (settle ctx disk.id o.template o.deadline).run s₁ = (.done (), s₂)) :
    (provision ctx o).run s = (do
      let v ← toVolume ctx disk
      return { v with
        status := Status.available.toValue, size := o.template.size, location := o.place } :
        Run (Session σ) Volume).run s₂ := by
  have hfinish : (reportingCreation o.template.size o.place disk.id (deletingOnFault ctx disk.id
      (settle ctx disk.id o.template o.deadline))).run s₁ = (.done (), s₂) := by
    refine Run.run_mapFault_done ?_
    unfold deletingOnFault
    rw [Run.run_catching, hsettle]
  rw [provision_begun hcreate]
  exact Run.run_bind_done hfinish

/-- A wait that is given up gives the creation up. -/
theorem provision_stalled
    (hcreate : (requestCreate ctx o.place o.template).run s = (.done disk, s₁))
    (hsettle : (settle ctx disk.id o.template o.deadline).run s₁ = (.stalled, s₂)) :
    (provision ctx o).run s = (.stalled, s₂) := by
  have hfinish : (deletingOnFault ctx disk.id
      (settle ctx disk.id o.template o.deadline)).run s₁ = (.stalled, s₂) := by
    unfold deletingOnFault
    rw [Run.run_catching, hsettle]
  rw [provision_begun hcreate]
  exact Run.run_bind_stalled (Run.run_mapFault_stalled hfinish)

/-- A creation that fails reports the fault of its steps, or it cannot tell of a settled volume. -/
theorem provision_failed (h : (provision ctx o).run s = (.failed f, s')) :
    (∃ id g, f = creationReport o.template.size o.place id g) ∨
      ∃ disk s₁ s₂, (requestCreate ctx o.place o.template).run s = (.done disk, s₁) ∧
        (settle ctx disk.id o.template o.deadline).run s₁ = (.done (), s₂) ∧
        (toVolume ctx disk).run s₂ = (.failed f, s') := by
  rcases hcreate : (requestCreate ctx o.place o.template).run s with ⟨disk | g | _, s₁⟩
  · rcases hsettle : (settle ctx disk.id o.template o.deadline).run s₁ with ⟨_ | g | _, s₂⟩
    · rw [provision_settled hcreate hsettle] at h
      rcases Run.run_bind_failed_iff.1 h with h | ⟨_, _, -, h⟩
      · exact .inr ⟨disk, s₁, s₂, rfl, hsettle, h⟩
      · cases h
    · obtain ⟨_, _, hrun, -⟩ := provision_unsettled hcreate hsettle
      rw [h] at hrun
      cases hrun
      exact .inl ⟨_, _, rfl⟩
    · rw [provision_stalled hcreate hsettle] at h
      cases h
  · rw [provision_refused hcreate] at h
    cases h
    exact .inl ⟨_, _, rfl⟩
  · exact absurd (congrArg Prod.fst hcreate) (ends_requestCreate _ _ s)

/-- To find the name of a new volume changes nothing. -/
theorem state_newName (ctx : Context σ) (t : StorageTemplate) (s : Session σ) :
    ((newName ctx t).run s).2 = s := by
  unfold newName
  rw [Run.run_bind_done (run_now ctx s)]
  cases milliseconds (ctx.backend.now s.world.cloud) with
  | error f => rfl
  | ok ms =>
    dsimp only
    split
    · rfl
    · rfl

/-- A new volume is named by the time. -/
theorem name_of_newName {t : StorageTemplate} {name : String}
    (h : (newName ctx t).run s = (.done name, s')) :
    ∃ ms, milliseconds (ctx.backend.now s.world.cloud) = .ok ms ∧
      name = t.namePrefix.display ++ "_" ++ toString ms := by
  unfold newName at h
  rw [Run.run_bind_done (run_now ctx s)] at h
  obtain ⟨ms, hms, h⟩ := Run.done_of_run_ofExcept_bind h
  dsimp only at h
  split at h
  · obtain ⟨_, _, hfail, -⟩ := Run.done_of_run_bind h
    cases hfail
  · cases h
    exact ⟨ms, hms, rfl⟩

/-- A volume that is settled became available and was then tagged with a name that tells the
time. -/
theorem named_of_settled {id : Value} {t : StorageTemplate} {deadline : Float}
    (h : (settle ctx id t deadline).run s = (.done (), s')) :
    ∃ s₁ ms, (await ctx id .available deadline).run s = (.done (), s₁) ∧
      milliseconds (ctx.backend.now s₁.world.cloud) = .ok ms ∧
      ctx.settings.nameTag.hashable = true ∧
      (applyTags ctx [id] [(ctx.settings.nameTag,
        .text (t.namePrefix.display ++ "_" ++ toString ms))]).run s₁ = (.done (), s') := by
  unfold settle at h
  obtain ⟨_, s₁, hwait, h⟩ := Run.done_of_run_bind h
  obtain ⟨name, s₂, hname, h⟩ := Run.done_of_run_bind h
  obtain ⟨ms, hms, rfl⟩ := name_of_newName hname
  have hsame : s₂ = s₁ := by
    rw [← state_newName ctx t s₁, hname]
  dsimp only at h
  split at h
  · rename_i hkey
    exact ⟨s₁, ms, hwait, hms, hkey, hsame ▸ h⟩
  · cases h

theorem nameTag_of_settled {id : Value} {t : StorageTemplate} {deadline : Float}
    (h : (settle ctx id t deadline).run s = (.done (), s')) :
    ctx.settings.nameTag.hashable = true := by
  obtain ⟨_, _, -, -, hkey, -⟩ := named_of_settled h
  exact hkey

/-- Where there are tags, one volume is tagged by one request. -/
theorem asked_of_tagged {id : Value} {tags : Tags} (hnative : native s.gateway.cloud = true)
    (h : (applyTags ctx [id] tags).run s = (.done (), s')) :
    (askStorage ctx (.createTags id tags)).run s = (.done (), s') := by
  unfold applyTags at h
  rw [Run.run_bind_done (run_current s)] at h
  dsimp only at h
  rw [if_pos hnative] at h
  obtain ⟨_, s₁, htag, h⟩ := Run.done_of_run_bind h
  obtain ⟨_, s₂, hask, htag⟩ := Run.done_of_run_bind htag
  cases h
  cases htag
  exact hask

end Provision

/-! ### The answer to a destroy request -/

/-- The same cloud, but for what it does when asked to destroy a volume. -/
def destroying (ctx : Context σ) (answer : Connection → Value → σ → Except Fault Unit × σ) :
    Context σ where
  backend := { ctx.backend with
    respond := fun via r =>
      match r with
      | .destroy id => answer via id
      | r => ctx.backend.respond via r }
  settings := ctx.settings
  known := ctx.known
  patience := ctx.patience

/-- How a creation ends has nothing to do with how the cleanup ends. -/
theorem provision_destroying (ctx : Context σ)
    (answer : Connection → Value → σ → Except Fault Unit × σ) (o : Order) (s : Session σ) :
    ((provision (destroying ctx answer) o).run s).1 = ((provision ctx o).run s).1 := by
  cases hcreate : (requestCreate ctx o.place o.template).run s with
  | mk created s₁ =>
    cases created with
    | stalled => exact absurd (congrArg Prod.fst hcreate) (ends_requestCreate _ _ s)
    | failed f =>
      have hcreate' : (requestCreate (destroying ctx answer) o.place o.template).run s =
        (.failed f, s₁) := hcreate
      rw [provision_refused hcreate, provision_refused hcreate']
    | done disk =>
      have hcreate' : (requestCreate (destroying ctx answer) o.place o.template).run s =
        (.done disk, s₁) := hcreate
      cases hsettle : (settle ctx disk.id o.template o.deadline).run s₁ with
      | mk settled s₂ =>
        have hsettle' : (settle (destroying ctx answer) disk.id o.template o.deadline).run s₁ =
          (settled, s₂) := hsettle
        cases settled with
        | stalled =>
          rw [provision_stalled hcreate hsettle, provision_stalled hcreate' hsettle']
        | failed f =>
          obtain ⟨_, _, hrun, -⟩ := provision_unsettled hcreate hsettle
          obtain ⟨_, _, hrun', -⟩ := provision_unsettled hcreate' hsettle'
          rw [hrun, hrun']
        | done _ =>
          rw [provision_settled hcreate hsettle, provision_settled hcreate' hsettle']
          rfl

/-! ### The report -/

/-- What `f` is reported as: an expired wait as itself, anything else as a failed creation that
tells of what was ordered, of the id and of `f`. That takes words for what was ordered. -/
structure Reported (o : Order) (id : Value) (f g : Fault) : Prop where
  timeout : f.isA .timeout = true → g = f
  told : f.isA .timeout = false →
    ((∃ message, g = .own .volumeCreation message [("size", o.template.size),
        ("location", o.place), ("volume_id", id)] (some f)) ↔
      o.template.size.writable = true ∧ o.place.writable = true)
  untold : f.isA .timeout = false →
    ¬(o.template.size.writable = true ∧ o.place.writable = true) → g = .notWritable

theorem reported (o : Order) (id : Value) (f : Fault) :
    Reported o id f (creationReport o.template.size o.place id f) := by
  by_cases htimeout : f.isA .timeout = true
  · have hreport : creationReport o.template.size o.place id f = f := if_pos htimeout
    refine ⟨fun _ => hreport, fun h => ?_, fun h => ?_⟩
    · rw [htimeout] at h
      cases h
    · rw [htimeout] at h
      cases h
  · have hreport : creationReport o.template.size o.place id f =
        creationFault o.template.size o.place id f := if_neg htimeout
    rw [hreport]
    by_cases hw : o.template.size.writable = true ∧ o.place.writable = true
    · have htold : creationFault o.template.size o.place id f = .because .volumeCreation _ _ _ :=
        Fault.mentioning_of_writable _ (by simpa using hw)
      exact ⟨fun h => absurd h htimeout, fun _ => ⟨fun _ => hw, fun _ => ⟨_, htold⟩⟩,
        fun _ h => absurd hw h⟩
    · have huntold : creationFault o.template.size o.place id f = .notWritable := by
        unfold creationFault
        rw [Fault.mentioning_of_unwritable _ (by simpa using hw)]
      refine ⟨fun h => absurd h htimeout, fun _ => ⟨fun ⟨message, h⟩ => ?_, fun h => absurd h hw⟩,
        fun _ _ => huntold⟩
      rw [huntold] at h
      cases h

/-! ### The whole creation -/

/-- What an order leads to is what the creation leads to. -/
theorem run_create {template location timeout : Value} {o : Order}
    (h : order ctx.settings s.gateway.cloud (ctx.backend.now s.world.cloud) template location
      timeout = .ok o) :
    (create ctx template location timeout).run s = (provision ctx o).run s := by
  unfold create
  rw [Run.run_bind_done (run_current s), Run.run_bind_done (run_now ctx s), h, Run.ofExcept_ok,
    pure_bind]

/-- What an order leads to, by what becomes of its steps: the ending and the events, the latest
first. -/
structure Tidy (ctx : Context σ) (o : Order) (s : Session σ) (out : Outcome Volume)
    (events : List Event) : Prop where
  /-- A volume that cannot be settled is destroyed, once and last of all, if it has an id. -/
  unsettled : ∀ disk s₁ f s₂, (requestCreate ctx o.place o.template).run s = (.done disk, s₁) →
    (settle ctx disk.id o.template o.deadline).run s₁ = (.failed f, s₂) →
    (∃ g, out = .failed g ∧ Reported o disk.id f g) ∧
      (disk.id.truthy = true → ∃ via older, events = .requested via (.destroy disk.id) :: older ∧
        ∀ e ∈ older, e.Within Deed.Spares) ∧
      (disk.id.truthy = false → ∀ e ∈ events, e.Within Deed.Spares)
  refused : ∀ f s₁, (requestCreate ctx o.place o.template).run s = (.failed f, s₁) →
    (∃ g, out = .failed g ∧ Reported o .null f g) ∧ ∀ e ∈ events, e.Within Deed.Spares
  returned : ∀ v, out = .done v → ∀ e ∈ events, e.Within Deed.Spares
  /-- A settled volume is told of, if what clouds tell has its usual form. -/
  settled : ∀ disk s₁ s₂, (requestCreate ctx o.place o.template).run s = (.done disk, s₁) →
    (settle ctx disk.id o.template o.deadline).run s₁ = (.done (), s₂) → disk.Plain →
    (∀ sheet s₃, (queryTags ctx disk.id).run s₂ = (.done sheet, s₃) → sheet.Plain) →
      ∃ v, out = .done v
  /-- Nothing but the wait can go on without end. -/
  stalled : out = .stalled → ∃ disk s₁ s₂,
    (requestCreate ctx o.place o.template).run s = (.done disk, s₁) ∧
      (settle ctx disk.id o.template o.deadline).run s₁ = (.stalled, s₂)

theorem within_provision (ctx : Context σ) (o : Order) :
    Within ctx Deed.Works (provision ctx o) := by
  refine Within.bind (.mapFault ?_ _) fun disk => ?_
  · exact within_requestCreate o.place o.template (fun _ => trivial) (fun _ => trivial) trivial
  refine Within.bind (.mapFault (.catching ?_ fun f => ?_) _) fun _ => ?_
  · exact within_settle disk.id o.template o.deadline trivial trivial trivial fun _ => trivial
  · dsimp only
    split
    · have hdestroy : Within ctx Deed.Works (destroy ctx disk.id) := within_askStorage trivial
      exact (hdestroy.catching fun _ => Within.pure _).bind fun _ => Within.fail _
    · exact Within.fail _
  · exact (within_toVolume disk trivial).bind fun v => Within.pure _

/-- What is written down until a volume is settled, or is not, destroys nothing. -/
theorem journal_settle {o : Order} {disk : Disk} {settled : Outcome Unit}
    (hcreate : (requestCreate ctx o.place o.template).run s = (.done disk, s₁))
    (hsettle : (settle ctx disk.id o.template o.deadline).run s₁ = (settled, s₂)) :
    Grows (Event.Within Deed.Spares) s.world.journal s₂.world.journal := by
  have hcreated := (requestCreate_spares ctx o.place o.template s).journal
  have hsettled := (settle_spares ctx disk.id o.template o.deadline s₁).journal
  rw [hcreate] at hcreated
  rw [hsettle] at hsettled
  exact hcreated.trans hsettled

/-- A creation that does not fail has begun, and then its volume has not failed to settle. -/
theorem begun_of_not_failed {o : Order} {out : Outcome Volume}
    (h : (provision ctx o).run s = (out, s')) (hout : ∀ f, out ≠ .failed f) :
    ∃ disk s₁ settled s₂, (requestCreate ctx o.place o.template).run s = (.done disk, s₁) ∧
      (settle ctx disk.id o.template o.deadline).run s₁ = (settled, s₂) ∧
      ∀ f, settled ≠ .failed f := by
  cases hcreate : (requestCreate ctx o.place o.template).run s with
  | mk created s₁ =>
    cases created with
    | stalled => exact absurd (congrArg Prod.fst hcreate) (ends_requestCreate _ _ s)
    | failed f =>
      rw [provision_refused hcreate] at h
      cases h
      exact absurd rfl (hout _)
    | done disk =>
      cases hsettle : (settle ctx disk.id o.template o.deadline).run s₁ with
      | mk settled s₂ =>
        refine ⟨disk, s₁, settled, s₂, rfl, hsettle, fun f hf => ?_⟩
        rw [hf] at hsettle
        obtain ⟨_, _, hrun, -⟩ := provision_unsettled hcreate hsettle
        rw [h] at hrun
        cases hrun
        exact hout _ rfl

/-- What is written down in a creation that returns destroys nothing. -/
theorem journal_returned {o : Order} {v : Volume}
    (h : (provision ctx o).run s = (.done v, s')) :
    Grows (Event.Within Deed.Spares) s.world.journal s'.world.journal := by
  obtain ⟨disk, s₁, settled, s₂, hcreate, hsettle, hnot⟩ := begun_of_not_failed h nofun
  cases settled with
  | failed f => exact absurd rfl (hnot f)
  | stalled =>
    rw [provision_stalled hcreate hsettle] at h
    cases h
  | done _ =>
    rw [provision_settled hcreate hsettle] at h
    obtain ⟨w, s₃, htell, hend⟩ := Run.done_of_run_bind h
    have htold := (toVolume_spares ctx disk s₂).journal
    rw [htell] at htold
    cases hend
    exact (journal_settle hcreate hsettle).trans htold

/-- The events of a run that destroys nothing. -/
theorem spares_of_grows {old new events : List Event} {allowed : Deed → Prop}
    (hevents : new = events ++ old) (h : Grows (Event.Within allowed) old new) :
    ∀ e ∈ events, e.Within allowed := by
  obtain ⟨events', rfl, hspares⟩ := h
  rwa [List.append_cancel_right hevents] at hspares

/-- An order leads to a tidy ending. -/
theorem tidy_of_run {o : Order} {out : Outcome Volume} {events : List Event}
    (hrun : (provision ctx o).run s = (out, s'))
    (hevents : s'.world.journal = events ++ s.world.journal) : Tidy ctx o s out events where
  unsettled disk s₁ f s₂ hcreate hsettle := by
    obtain ⟨via, s₃, hrun', hjournal⟩ := provision_unsettled hcreate hsettle
    rw [hrun] at hrun'
    cases hrun'
    have hgrows := journal_settle hcreate hsettle
    refine ⟨⟨_, rfl, reported o disk.id f⟩, fun hid => ⟨via, ?_⟩, fun hid => ?_⟩
    · obtain ⟨older, holder, hspares⟩ := hgrows
      refine ⟨older, ?_, hspares⟩
      rw [hjournal, if_pos hid, holder, ← List.cons_append] at hevents
      exact (List.append_cancel_right hevents).symm
    · rw [hid] at hjournal
      rw [hjournal] at hevents
      exact spares_of_grows hevents hgrows
  refused f s₁ hcreate := by
    rw [provision_refused hcreate] at hrun
    cases hrun
    have hcreated := (requestCreate_spares ctx o.place o.template s).journal
    rw [hcreate] at hcreated
    exact ⟨⟨_, rfl, reported o .null f⟩, spares_of_grows hevents hcreated⟩
  returned v hout := by
    rw [hout] at hrun
    exact spares_of_grows hevents (journal_returned hrun)
  settled disk s₁ s₂ hcreate hsettle hplain htags := by
    obtain ⟨v, s₃, htell⟩ := toVolume_plain hplain (nameTag_of_settled hsettle) htags
    rw [provision_settled hcreate hsettle, Run.run_bind_done htell] at hrun
    cases hrun
    exact ⟨_, rfl⟩
  stalled hout := by
    rw [hout] at hrun
    obtain ⟨disk, s₁, settled, s₂, hcreate, hsettle, hnot⟩ := begun_of_not_failed hrun nofun
    cases settled with
    | failed f => exact absurd rfl (hnot f)
    | stalled => exact ⟨disk, s₁, s₂, hcreate, hsettle⟩
    | done _ =>
      rw [provision_settled hcreate hsettle] at hrun
      refine absurd (congrArg Prod.fst hrun) ?_
      exact Run.Ends.bind (ends_toVolume disk) (fun v => Run.Ends.pure _) s₂

/-- **A failed creation leaves no volume behind.** Once the checks are passed, the creation ends
tidily, and how it ends has nothing to do with the answer to a destroy request. -/
theorem create_tidy (ctx : Context σ) (s : Session σ) {template location timeout : Value}
    {o : Order} (horder : order ctx.settings s.gateway.cloud (ctx.backend.now s.world.cloud)
      template location timeout = .ok o) :
    ∃ out s' events, (create ctx template location timeout).run s = (out, s') ∧
      s'.world.journal = events ++ s.world.journal ∧ Tidy ctx o s out events ∧
      ∀ answer, ((create (destroying ctx answer) template location timeout).run s).1 = out := by
  have hsame : ∀ answer, order (destroying ctx answer).settings s.gateway.cloud
      ((destroying ctx answer).backend.now s.world.cloud) template location timeout = .ok o :=
    fun _ => horder
  cases hrun : (provision ctx o).run s with
  | mk out s' =>
    have hgrows := (within_provision ctx o s).journal
    rw [hrun] at hgrows
    obtain ⟨events, hevents, -⟩ := hgrows
    refine ⟨out, s', events, (run_create horder).trans hrun, hevents, tidy_of_run hrun hevents,
      fun answer => ?_⟩
    rw [run_create (hsame answer), provision_destroying, hrun]

/-- The order of a volume by its template alone, at the beginning of time. -/
def orderOf (t : StorageTemplate) : Order := ⟨t, t.location, 300⟩

/-- A volume that cannot be tagged is destroyed. -/
theorem create_tidy_untagged :
    order Sandbox.plainSettings Sandbox.account 0 (.text "small") .null .null =
        .ok (orderOf Sandbox.small) ∧
      ∃ g s' via older, (create (Sandbox.context Sandbox.plainSettings) (.text "small") .null
          .null).run (Sandbox.start Sandbox.untagging) = (.failed g, s') ∧
        s'.world.journal = .requested via (.destroy (.text "vol-0001")) :: older ∧
        (∀ e ∈ older, e.Within Deed.Spares) ∧
        ∃ message, g = .own .volumeCreation message [("size", .int 5), ("location", .text "z1"),
          ("volume_id", .text "vol-0001")] (some (.foreign .runtime (some "no tags"))) := by
  have horder : order Sandbox.plainSettings Sandbox.account 0 (.text "small") .null .null =
      .ok (orderOf Sandbox.small) := rfl
  have hwritable : (orderOf Sandbox.small).template.size.writable = true := by decide +kernel
  obtain ⟨disk, s₁, s₂, hcreate, hid, hsettle⟩ : ∃ disk s₁ s₂,
      (requestCreate (Sandbox.context Sandbox.plainSettings) (orderOf Sandbox.small).place
          (orderOf Sandbox.small).template).run (Sandbox.start Sandbox.untagging) =
        (.done disk, s₁) ∧
      disk.id = .text "vol-0001" ∧
      (settle (Sandbox.context Sandbox.plainSettings) disk.id (orderOf Sandbox.small).template
          (orderOf Sandbox.small).deadline).run s₁ =
        (.failed (.foreign .runtime (some "no tags")), s₂) := by
    rw [run_requestCreate_native rfl hwritable]
    exact ⟨_, _, _, rfl, rfl, rfl⟩
  obtain ⟨out, s', events, hrun, hevents, htidy, -⟩ := create_tidy
    (Sandbox.context Sandbox.plainSettings) (Sandbox.start Sandbox.untagging) horder
  obtain ⟨⟨g, rfl, hreport⟩, hdestroyed, -⟩ := htidy.unsettled _ _ _ _ hcreate hsettle
  rw [hid] at hreport hdestroyed
  obtain ⟨via, older, rfl, hspares⟩ := hdestroyed rfl
  refine ⟨horder, g, s', via, older, hrun, ?_, hspares, (hreport.told rfl).2 ⟨hwritable, rfl⟩⟩
  rw [hevents]
  exact List.append_nil _

/-- A volume whose size is too long to be written passes the checks and then cannot be asked for,
and that failure is not reported as a failed creation. -/
theorem create_overlong :
    order Sandbox.overlongSettings Sandbox.overlongAccount 0 (.text "huge") .null .null =
        .ok (orderOf Sandbox.huge) ∧
      (requestCreate (Sandbox.context Sandbox.overlongSettings) (orderOf Sandbox.huge).place
          (orderOf Sandbox.huge).template).run Sandbox.overlongStart =
        (.failed .notWritable, Sandbox.overlongStart) ∧
      (create (Sandbox.context Sandbox.overlongSettings) (.text "huge") .null .null).run
          Sandbox.overlongStart = (.failed .notWritable, Sandbox.overlongStart) ∧
      Fault.notWritable.isA .timeout = false ∧ Fault.notWritable.isA .volumeCreation = false := by
  have hsize : checkSize Sandbox.overlongSettings Sandbox.overlong = .ok () := by
    have hone : (1 : Int) ≤ (Text.Integer.writeLimit : Nat) :=
      Int.ofNat_le.2 Text.Integer.writeLimit_pos
    have hfits : fits Sandbox.overlongSettings Sandbox.overlong = .ok _ :=
      fits_int rfl rfl (Text.Integer.writeLimit : Nat)
    unfold checkSize
    rw [hfits, decide_eq_true hone, decide_eq_true (Int.le_refl _)]
    rfl
  have horder : order Sandbox.overlongSettings Sandbox.overlongAccount 0 (.text "huge") .null
      .null = .ok (orderOf Sandbox.huge) := order_eq_ok_iff.2 ⟨rfl, rfl, rfl, hsize⟩
  have hunwritable : (orderOf Sandbox.huge).template.size.writable = false := by
    show decide ((Text.Integer.writeLimit : Int).natAbs < Text.Integer.writeLimit) = false
    rw [Int.natAbs_natCast]
    exact decide_eq_false (Nat.lt_irrefl _)
  have hcreate : (requestCreate (Sandbox.context Sandbox.overlongSettings)
      (orderOf Sandbox.huge).place (orderOf Sandbox.huge).template).run Sandbox.overlongStart =
        (.failed .notWritable, Sandbox.overlongStart) :=
    run_requestCreate_unwritable rfl hunwritable
  have huntold : creationReport (orderOf Sandbox.huge).template.size (orderOf Sandbox.huge).place
      .null .notWritable = .notWritable :=
    (reported (orderOf Sandbox.huge) .null .notWritable).untold rfl fun h => by
      rw [hunwritable] at h
      exact absurd h.1 Bool.false_ne_true
  have hrun : (create (Sandbox.context Sandbox.overlongSettings) (.text "huge") .null .null).run
      Sandbox.overlongStart = (provision (Sandbox.context Sandbox.overlongSettings)
        (orderOf Sandbox.huge)).run Sandbox.overlongStart := run_create horder
  refine ⟨horder, hcreate, ?_, rfl, rfl⟩
  rw [hrun, provision_refused hcreate, huntold]

end Storage

end BlockStorage
