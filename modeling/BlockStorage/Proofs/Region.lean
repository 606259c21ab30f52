import BlockStorage.Proofs.LookupFaults
import BlockStorage.Proofs.SharedConnection

/-!
One region at a time.

A connection is opened for the region that the cloud of a session has by then, and a machine is
remembered with the connection that the machines were listed through (`learns_findMachine`). Only a
compute template moves a session to another region, and then both sides let go of what they hold,
that is closed, and every address is forgotten (`Moved`). So whatever a session uses or remembers
belongs to the region that it is in (`Here`), as long as nobody gives it a connection from elsewhere
(`Unaided`).

Statement: that holds at every moment of every such history, and a compute template that does not
move the session leaves it as it was (`regional_of_unaided`).
-/
namespace BlockStorage

/-- The action gives the session no connection from elsewhere. -/
def Action.Unaided : Action → Prop
  | setConnection _ | setCompute _ | setStorage _ => False
  | _ => True

namespace Session

variable {σ α : Type} {ctx : Context σ} {c : Cloud} {s s' s₁ : Session σ}

/-- One of the sides has the connection. -/
def Uses (s : Session σ) (via : Connection) : Prop :=
  s.gateway.compute.connection = some via ∨ s.gateway.storage.connection = some via

/-- The connection is one that was opened for the present region. -/
structure Local (s : Session σ) (via : Connection) : Prop where
  driver : via.kind = .driver
  region : via.region = s.gateway.cloud.region
  opened : ∃ how, .opened how ∈ s.world.journal ∧ how.region = via.region

/-- Whatever is used or remembered belongs to the present region. -/
structure Here (s : Session σ) : Prop where
  used : ∀ via, s.Uses via → s.Local via
  seen : ∀ e ∈ s.gateway.sightings, s.Local e.2.via

theorem Local.mono {via : Connection} (h : s.Local via) (hcloud : s'.gateway.cloud = s.gateway.cloud)
    (hjournal : s.world.journal ⊆ s'.world.journal) : s'.Local via := by
  obtain ⟨how, hmem, hregion⟩ := h.opened
  exact ⟨h.driver, by rw [hcloud]; exact h.region, how, hjournal hmem, hregion⟩

theorem subset_of_grows {P : Event → Prop} {before after : List Event} (h : Grows P before after) :
    before ⊆ after := by
  obtain ⟨events, rfl, -⟩ := h
  exact List.subset_append_right events before

/-! ### Steps -/

/-- A connection that is opened is opened for the region of the cloud. -/
theorem opened_of_connect {via : Connection} (h : (connect ctx).run s = (.done via, s')) :
    ∃ how, .opened how ∈ s'.world.journal ∧ how.region = s.gateway.cloud.region := by
  unfold connect at h
  rw [Run.run_bind_done (run_current s)] at h
  dsimp only at h
  split at h
  · obtain ⟨driver, s₁, hdriver, h⟩ := Run.done_of_run_bind h
    obtain rfl : s = s₁ := by
      rw [Run.run_ofExcept] at hdriver
      exact congrArg Prod.snd hdriver
    rw [run_inWorld, World.run_connect] at h
    split at h
    · cases h
      exact ⟨_, List.mem_cons_self, rfl⟩
    · cases h
  · cases h

theorem opened_of_computeConnection (free : s.gateway.compute.Free) {via : Connection}
    (h : (computeConnection ctx).run s = (.done via, s')) :
    ∃ how, .opened how ∈ s'.world.journal ∧ how.region = s.gateway.cloud.region := by
  unfold computeConnection at h
  rw [Run.run_bind_done (run_current s)] at h
  simp only [free.1, free.2, Bool.false_eq_true, if_false] at h
  obtain ⟨other, s₁, hconnect, h⟩ := Run.done_of_run_bind h
  obtain ⟨how, hopened, hregion⟩ := opened_of_connect (Run.run_mapFault_done_iff.1 hconnect)
  cases h
  exact ⟨how, hopened, hregion⟩

/-- Forgetting an address adds none. -/
theorem forget_subset (s : Session σ) (address : Value) :
    ((forget address).run s).2.gateway.sightings ⊆ s.gateway.sightings := by
  unfold forget
  split
  · exact List.nil_subset _
  · rw [Run.run_bind_done (run_current s)]
    split
    · exact fun e he => (List.mem_filter.1 he).1
    · exact fun _ h => h

/-- What is remembered was remembered before, or it is the given machine, with the connection that
the compute side holds. -/
theorem mem_remember {address machine : Value} {e : Value × Sighting}
    (h : e ∈ ((Compute.remember address machine).run s).2.gateway.sightings) :
    e ∈ s.gateway.sightings ∨ s.gateway.compute.connection = some e.2.via := by
  unfold Compute.remember modifyGateway at h
  rw [Run.run_modify] at h
  dsimp only at h
  split at h
  · rename_i via hvia
    rcases List.mem_cons.1 h with rfl | h
    · exact .inr hvia
    · exact .inl (List.mem_filter.1 h).1
  · exact .inl h

/-- No step leaves the region. -/
theorem Here.step {allowed : Deed → Prop} (h : s.Here) (hstep : Step ctx allowed s s') :
    s'.Here := by
  have hcloud := hstep.sides.1
  have hjournal := subset_of_grows hstep.journal
  have hlocal : ∀ via, s.Local via → s'.Local via := fun via hvia => hvia.mono hcloud hjournal
  cases hstep with
  | requested via r held serves hr => exact ⟨fun v hv => hlocal v (h.used v hv),
      fun e he => hlocal _ (h.seen e he)⟩
  | slept seconds hs => exact ⟨fun v hv => hlocal v (h.used v hv),
      fun e he => hlocal _ (h.seen e he)⟩
  | connected free =>
    obtain ⟨s₁, hgateway, -, ⟨hrun, -⟩ | ⟨f, hrun, -⟩⟩ := computeConnection_free ctx allowed free
    · obtain ⟨how, hopened, hregion⟩ := opened_of_computeConnection free hrun
      rw [hrun] at hlocal ⊢
      refine ⟨fun via hvia => ?_, fun e he => hlocal _ (h.seen e ?_)⟩
      · rcases hvia with hvia | hvia
        · cases hvia
          refine ⟨rfl, ?_, how, hopened, hregion⟩
          show s.gateway.cloud.region = s₁.gateway.cloud.region
          rw [hgateway]
        · refine hlocal via (h.used via (.inr ?_))
          rw [← hvia, ← hgateway]
      · rw [← hgateway]
        exact he
    · rw [hrun] at hlocal ⊢
      refine ⟨fun via hvia => hlocal via (h.used via ?_), fun e he => hlocal _ (h.seen e ?_)⟩
      · unfold Uses at hvia ⊢
        rwa [hgateway] at hvia
      · rwa [hgateway] at he
  | adopted via free held =>
    refine ⟨fun v hv => ?_, fun e he => hlocal _ (h.seen e he)⟩
    rcases hv with hv | hv
    · exact hlocal v (h.used v (.inl hv))
    · cases hv
      exact hlocal via (h.used via (.inl held.2))
  | remembered address machine =>
    obtain ⟨sightings, hrun⟩ := remember_cases s address machine
    refine ⟨fun v hv => hlocal v (h.used v ?_), fun e he => ?_⟩
    · rwa [hrun] at hv
    · rcases mem_remember he with he | hvia
      · exact hlocal _ (h.seen e he)
      · exact hlocal _ (h.used _ (.inl hvia))
  | forgotten address =>
    obtain ⟨sightings, hrun⟩ := forget_cases s address
    refine ⟨fun v hv => hlocal v (h.used v ?_), fun e he => ?_⟩
    · rwa [hrun] at hv
    · exact hlocal _ (h.seen e (forget_subset s address he))

theorem Here.steps {allowed : Deed → Prop} (h : s.Here) (hsteps : Steps ctx allowed s s') :
    s'.Here := by
  induction hsteps with
  | refl => exact h
  | tail _ hstep ih => exact ih.step hstep

/-! ### Letting go -/

/-- What is asked of a connection that is let go of, if it can be asked anything. -/
def closings (held : Option Connection) : List Event :=
  (held.toList.filter (·.serves .close)).map fun via => .requested via .close

theorem journal_hangUp (ctx : Context σ) (s : Session σ) (held : Option Connection) :
    ((hangUp ctx held).run s).2.world.journal = closings held ++ s.world.journal := by
  cases held with
  | none => rfl
  | some via =>
    unfold hangUp
    rw [Run.run_catching, request, run_inWorld]
    by_cases hserves : via.serves .close = true
    · rw [World.run_request hserves]
      have hclosings : closings (some via) = [.requested via .close] := by
        simp [closings, hserves]
      rw [hclosings]
      cases (ctx.backend.respond via .close s.world.cloud).1 with
      | ok _ => rfl
      | error f => rfl
    · rw [World.run_request_refused hserves]
      have hclosings : closings (some via) = [] := by simp [closings, hserves]
      rw [hclosings]
      rfl

theorem journal_releaseCompute (ctx : Context σ) (final : Bool) (s : Session σ) :
    ((releaseCompute ctx final).run s).2.world.journal =
      closings s.gateway.compute.connection ++ s.world.journal := by
  unfold releaseCompute modifyGateway
  rw [Run.run_bind_done (run_current s), Run.run_bind_done (Run.run_modify _ s)]
  exact journal_hangUp ctx _ _

theorem journal_releaseStorage (ctx : Context σ) (final : Bool) (s : Session σ) :
    ((releaseStorage ctx final).run s).2.world.journal =
      closings s.gateway.storage.connection ++ s.world.journal := by
  unfold releaseStorage modifyGateway
  rw [Run.run_bind_done (run_current s), Run.run_bind_done (Run.run_modify _ s)]
  exact journal_hangUp ctx _ _

/-- Both connections are closed, that of the storage side first. -/
theorem journal_release (ctx : Context σ) (final : Bool) (s : Session σ) :
    ((do releaseStorage ctx final; releaseCompute ctx final; forgetAll :
        Run (Session σ) Unit).run s).2.world.journal =
      closings s.gateway.compute.connection ++
        (closings s.gateway.storage.connection ++ s.world.journal) := by
  obtain ⟨w₁, hstorage, -⟩ := run_releaseStorage ctx final s
  have hjournal₁ := journal_releaseStorage ctx final s
  rw [hstorage] at hjournal₁
  obtain ⟨w₂, hcompute, -⟩ := run_releaseCompute ctx final { s with
    world := w₁
    gateway := { s.gateway with storage := ⟨none, s.gateway.storage.closed || final⟩ } }
  have hjournal₂ := journal_releaseCompute ctx final { s with
    world := w₁
    gateway := { s.gateway with storage := ⟨none, s.gateway.storage.closed || final⟩ } }
  rw [hcompute] at hjournal₂
  rw [Run.run_bind_done hstorage, Run.run_bind_done hcompute]
  exact hjournal₂.trans (congrArg _ hjournal₁)

/-- The connections that belong to the present region are told to close. -/
theorem Here.mem_closings (h : s.Here) (e : Event) :
    (e ∈ closings s.gateway.compute.connection ++ closings s.gateway.storage.connection) ↔
      ∃ via, s.Uses via ∧ e = .requested via .close := by
  have hserves : ∀ via, s.Uses via → via.serves .close = true := fun via hvia => by
    unfold Connection.serves
    rw [(h.used via hvia).driver]
  have hside : ∀ held : Option Connection, (∀ via, held = some via → s.Uses via) →
      (e ∈ closings held ↔ ∃ via, held = some via ∧ e = .requested via .close) := by
    intro held hheld
    cases held with
    | none => simp [closings]
    | some via => simp [closings, hserves via (hheld via rfl)]
  rw [List.mem_append, hside _ fun _ => .inl, hside _ fun _ => .inr, ← exists_or]
  simp only [Uses, or_and_right]

/-! ### Moving -/

/-- The template moves the session: its place is another region, and the session can go there. -/
structure Moves (s : Session σ) (name place : Value) : Prop where
  known : ∃ t, s.gateway.cloud.computeTemplate name = .ok t ∧ t.location = place
  placed : place.truthy = true
  elsewhere : place.equal s.gateway.cloud.region = false
  opened : s.gateway.compute.closed = false

/-- The session after a move. Nothing is held, nothing is remembered, and what was held before is
told to close, and nothing else is asked. -/
structure Moved (s s' : Session σ) (place : Value) : Prop where
  cloud : s'.gateway.cloud = { s.gateway.cloud with region := place }
  compute : s'.gateway.compute.Free
  storage : s'.gateway.storage = ⟨none, s.gateway.storage.closed⟩
  forgotten : s'.gateway.sightings = []
  count : s'.world.connections = s.world.connections
  closed : ∃ events, s'.world.journal = events ++ s.world.journal ∧
    ∀ e, e ∈ events ↔ ∃ via, s.Uses via ∧ e = .requested via .close

section UseTemplate

variable {name : Value} {t : ComputeTemplate}

theorem region_of_account (h : s.gateway.cloud.cls.hasAccount = true) :
    region s.gateway.cloud = .ok s.gateway.cloud.region := if_pos h

theorem run_useComputeTemplate_unknown {f : Fault}
    (h : s.gateway.cloud.computeTemplate name = .error f) :
    (useComputeTemplate ctx name).run s = (.failed f, s) := by
  unfold useComputeTemplate
  rw [Run.run_bind_done (run_current s), h]
  rfl

/-- A template without a place, or with the present one, asks for nothing. -/
theorem run_useComputeTemplate_settled (haccount : s.gateway.cloud.cls.hasAccount = true)
    (h : s.gateway.cloud.computeTemplate name = .ok t)
    (hplace : t.location.truthy = false ∨ t.location.equal s.gateway.cloud.region = true) :
    (useComputeTemplate ctx name).run s = (.done (), s) := by
  unfold useComputeTemplate
  rw [Run.run_bind_done (run_current s), h, Run.ofExcept_ok, pure_bind]
  by_cases hplaced : t.location.truthy = true
  · have hequal := hplace.resolve_left (by simp [hplaced])
    rw [if_pos hplaced, region_of_account haccount, Run.ofExcept_ok, pure_bind, hequal,
      if_neg (by simp)]
    rfl
  · rw [if_neg hplaced]
    rfl

theorem run_useComputeTemplate_closed (haccount : s.gateway.cloud.cls.hasAccount = true)
    (h : s.gateway.cloud.computeTemplate name = .ok t) (hplaced : t.location.truthy = true)
    (hother : t.location.equal s.gateway.cloud.region = false)
    (hclosed : s.gateway.compute.closed = true) :
    (useComputeTemplate ctx name).run s = (.failed (closedFault s.gateway.cloud), s) := by
  unfold useComputeTemplate
  rw [Run.run_bind_done (run_current s), h, Run.ofExcept_ok, pure_bind, if_pos hplaced,
    region_of_account haccount, Run.ofExcept_ok, pure_bind, hother, if_pos (by simp), hclosed,
    if_pos rfl, Run.run_fail]

theorem run_useComputeTemplate_moves (haccount : s.gateway.cloud.cls.hasAccount = true)
    (hs : s.Here) {place : Value} (h : s.Moves name place) :
    ∃ s', (useComputeTemplate ctx name).run s = (.done (), s') ∧ Moved s s' place := by
  obtain ⟨t, hknown, rfl⟩ := h.known
  have hrun : (useComputeTemplate ctx name).run s =
      (do releaseStorage ctx false; releaseCompute ctx false; forgetAll :
        Run (Session σ) Unit).run { s with gateway := { s.gateway with
          cloud := { s.gateway.cloud with region := t.location } } } := by
    unfold useComputeTemplate
    rw [Run.run_bind_done (run_current s), hknown, Run.ofExcept_ok, pure_bind, if_pos h.placed,
      region_of_account haccount, Run.ofExcept_ok, pure_bind, h.elsewhere, if_pos (by simp),
      h.opened, if_neg Bool.false_ne_true, modifyGateway, Run.run_bind_done (Run.run_modify _ s)]
  obtain ⟨w, hrelease, hcount⟩ := run_release ctx false { s with gateway := { s.gateway with
    cloud := { s.gateway.cloud with region := t.location } } }
  have hjournal := journal_release ctx false { s with gateway := { s.gateway with
    cloud := { s.gateway.cloud with region := t.location } } }
  rw [hrelease] at hjournal
  refine ⟨_, hrun.trans hrelease, ⟨rfl, ⟨?_, rfl⟩, ?_, rfl, hcount, _, ?_, hs.mem_closings⟩⟩
  · show (s.gateway.compute.closed || false) = false
    rw [h.opened]
    rfl
  · show (⟨none, s.gateway.storage.closed || false⟩ : Side) = _
    rw [Bool.or_false]
  · rw [List.append_assoc]
    exact hjournal

end UseTemplate

/-! ### Actions -/

/-- What an unaided action does: it makes steps, or it lets go of something, or it lets go of
everything, in this region or another. -/
inductive Passage (ctx : Context σ) (s s' : Session σ) : Prop
  | stepped (h : Steps ctx Deed.Any s s')
  | released (cloud : s'.gateway.cloud = s.gateway.cloud) (used : ∀ via, s'.Uses via → s.Uses via)
      (seen : s'.gateway.sightings = s.gateway.sightings)
      (journal : s.world.journal ⊆ s'.world.journal)
  | cleared (cls : s'.gateway.cloud.cls = s.gateway.cloud.cls) (used : ∀ via, ¬s'.Uses via)
      (seen : s'.gateway.sightings = [])

/-- What lets go of everything leaves nothing in use. -/
theorem not_uses_releasing (s : Session σ) (final : Bool) (w : World σ) (via : Connection) :
    ¬(s.releasing final w).Uses via := by
  rintro (h | h)
  · cases h
  · cases h

/-- **An unaided action** makes steps or lets go. -/
theorem perform_passage (ctx : Context σ) (s : Session σ) {a : Action} (ha : a.Unaided) :
    Passage ctx s (a.perform ctx s) := by
  cases a with
  | operate op => exact .stepped (op.within_run ctx s)
  | forget address => exact .stepped (within_forget address s)
  | connection =>
    have hsteps : Within ctx Deed.Any (do let _ ← computeConnection ctx) :=
      within_computeConnection.bind fun _ => Within.pure _
    exact .stepped (hsteps s)
  | storageConnection =>
    have hsteps : Within ctx Deed.Any (do let _ ← storageConnection ctx) :=
      within_storageConnection.bind fun _ => Within.pure _
    exact .stepped (hsteps s)
  | setConnection via => exact ha.elim
  | useTemplate name =>
    rcases run_useComputeTemplate ctx s name with hsame | ⟨region, w, -, -, hrun⟩
    · have hsame : Action.perform ctx (.useTemplate name) s = s := hsame
      rw [hsame]
      exact .stepped .refl
    · have hmoved := congrArg Prod.snd hrun
      have hmoved : Action.perform ctx (.useTemplate name) s = _ := hmoved
      rw [hmoved]
      exact .cleared rfl (not_uses_releasing _ false w) rfl
  | disconnect =>
    obtain ⟨w, hrun, -⟩ := run_disconnect ctx s
    have hclosed : Action.perform ctx .disconnect s = s.releasing true w := congrArg Prod.snd hrun
    rw [hclosed]
    exact .cleared rfl (not_uses_releasing s true w) rfl
  | setCompute via => exact ha.elim
  | setStorage via => exact ha.elim
  | releaseCompute final =>
    have hjournal := journal_releaseCompute ctx final s
    obtain ⟨w, hrun, -⟩ := run_releaseCompute ctx final s
    rw [hrun] at hjournal
    have hreleased := congrArg Prod.snd hrun
    have hreleased : Action.perform ctx (.releaseCompute final) s = _ := hreleased
    rw [hreleased]
    refine .released rfl (fun via hvia => ?_) rfl ?_
    · rcases hvia with hvia | hvia
      · cases hvia
      · exact .inr hvia
    · show s.world.journal ⊆ w.journal
      rw [show w.journal = _ from hjournal]
      exact List.subset_append_right _ _
  | releaseStorage final =>
    have hjournal := journal_releaseStorage ctx final s
    obtain ⟨w, hrun, -⟩ := run_releaseStorage ctx final s
    rw [hrun] at hjournal
    have hreleased := congrArg Prod.snd hrun
    have hreleased : Action.perform ctx (.releaseStorage final) s = _ := hreleased
    rw [hreleased]
    refine .released rfl (fun via hvia => ?_) rfl ?_
    · rcases hvia with hvia | hvia
      · exact .inl hvia
      · cases hvia
    · show s.world.journal ⊆ w.journal
      rw [show w.journal = _ from hjournal]
      exact List.subset_append_right _ _

namespace Passage

theorem cls (h : Passage ctx s s') : s'.gateway.cloud.cls = s.gateway.cloud.cls := by
  cases h with
  | stepped h => rw [h.progress.cloud]
  | released cloud used seen journal => rw [cloud]
  | cleared cls used seen => exact cls

/-- No unaided action leaves anything of another region. -/
theorem here (h : Passage ctx s s') (hs : s.Here) : s'.Here := by
  cases h with
  | stepped h => exact hs.steps h
  | released cloud used seen journal =>
    refine ⟨fun via hvia => (hs.used via (used via hvia)).mono cloud journal, fun e he => ?_⟩
    rw [seen] at he
    exact (hs.seen e he).mono cloud journal
  | cleared cls used seen =>
    refine ⟨fun via hvia => (used via hvia).elim, fun e he => ?_⟩
    rw [seen] at he
    cases he

end Passage

/-! ### Looking for machines -/

/-- What is remembered anew was shown by a listing that was asked for in the meantime, through the
connection that it is remembered with. -/
def Learns (s s' : Session σ) : Prop :=
  ∃ events, s'.world.journal = events ++ s.world.journal ∧
    ∀ e ∈ s'.gateway.sightings, e ∈ s.gateway.sightings ∨
      .requested e.2.via .listInstances ∈ events

namespace Learns

theorem refl (s : Session σ) : Learns s s := ⟨[], rfl, fun _ he => .inl he⟩

theorem trans (h₁ : Learns s s₁) (h₂ : Learns s₁ s') : Learns s s' := by
  obtain ⟨early, hearly, hold⟩ := h₁
  obtain ⟨late, hlate, hnew⟩ := h₂
  refine ⟨late ++ early, by rw [hlate, hearly, List.append_assoc], fun e he => ?_⟩
  rcases hnew e he with he | he
  · exact (hold e he).imp_right (List.mem_append_right late)
  · exact .inr (List.mem_append_left _ he)

/-- Nothing is learned by what remembers nothing. -/
theorem of_subset {P : Event → Prop} (h : Grows P s.world.journal s'.world.journal)
    (hseen : s'.gateway.sightings ⊆ s.gateway.sightings) : Learns s s' := by
  obtain ⟨events, hjournal, -⟩ := h
  exact ⟨events, hjournal, fun e he => .inl (hseen he)⟩

end Learns

/-- A connection is got without remembering anything. -/
theorem sightings_computeConnection (ctx : Context σ) (s : Session σ) :
    ((computeConnection ctx).run s).2.gateway.sightings = s.gateway.sightings := by
  rcases s.gateway.compute.closed_or_holds_or_free with hclosed | ⟨via, hheld⟩ | hfree
  · rw [computeConnection_closed ctx s hclosed]
  · rw [computeConnection_held ctx s via hheld.1 hheld.2]
  · obtain ⟨s₁, hgateway, -, ⟨hrun, -⟩ | ⟨f, hrun, -⟩⟩ :=
      computeConnection_free ctx Deed.Any hfree
    · rw [hrun, ← hgateway]
    · rw [hrun, ← hgateway]

theorem learns_computeConnection : (computeConnection ctx).Keeps Learns := fun s => by
  have hsteps : Steps ctx Deed.Any s ((computeConnection ctx).run s).2 := within_computeConnection s
  refine .of_subset hsteps.journal ?_
  rw [sightings_computeConnection]
  exact fun _ he => he

theorem learns_askCompute (ctx : Context σ) (r : Request) :
    (askCompute ctx r).Keeps Learns := by
  refine Run.Keeps.bind Learns.trans learns_computeConnection fun via s => ?_
  rw [request, run_inWorld]
  by_cases hserves : via.serves r = true
  · rw [World.run_request hserves]
    exact ⟨[.requested via r], rfl, fun _ he => .inl he⟩
  · rw [World.run_request_refused hserves]
    exact .refl s

theorem learns_forget (address : Value) :
    (forget address : Run (Session σ) Unit).Keeps Learns := fun s => by
  refine ⟨[], ?_, fun e he => .inl (forget_subset s address he)⟩
  obtain ⟨sightings, hrun⟩ := forget_cases s address
  rw [hrun]
  rfl

end Session

namespace Compute

open Session

variable {σ : Type} {ctx : Context σ} {s s' : Session σ}

theorem learns_fetchInstance (id : Value) : (fetchInstance ctx id).Keeps Learns := by
  unfold fetchInstance
  refine Run.Keeps.bind Learns.trans (fun s => .refl s) fun g => ?_
  split
  · refine Run.Keeps.catching (R := Learns) Learns.trans ?_ fun _ => ?_
    · rw [map_eq_pure_bind]
      exact Run.Keeps.bind Learns.trans (learns_askCompute ctx _) fun _ s => .refl s
    · exact fun s => .refl s
  · exact Run.Keeps.bind Learns.trans (learns_askCompute ctx _) fun _ s => .refl s

/-- What is asked about a machine that is remembered teaches nothing. -/
theorem learns_findRemembered (address : Value) :
    (findRemembered ctx address).Keeps Learns := fun s => by
  cases hkey : address.hashable with
  | false =>
    unfold findRemembered
    rw [hkey, Bool.not_false, if_pos rfl]
    exact .refl s
  | true =>
    by_cases hid : ∃ id, Remembers s address id
    · obtain ⟨id, hid⟩ := hid
      have hforgotten : (do forget address; pure none :
          Run (Session σ) (Option Machine)).Keeps Learns :=
        Run.Keeps.bind Learns.trans (learns_forget address) fun _ s => .refl s
      have hrevisit : (revisit ctx address id).Keeps Learns := by
        refine Run.Keeps.bind Learns.trans (learns_fetchInstance id) fun seen => ?_
        cases seen with
        | none => exact hforgotten
        | some i =>
          refine Run.Keeps.bind Learns.trans (fun s => ?_) fun m => ?_
          · rw [run_describe_eq]
            exact .refl s
          · refine Run.Keeps.bind Learns.trans (fun s => ?_) fun found => ?_
            · rw [Run.run_ofExcept]
              exact .refl s
            · cases found with
              | true => exact fun s => .refl s
              | false => exact hforgotten
      rw [run_findRemembered_of_remembers hid]
      exact hrevisit s
    · rw [run_findRemembered_of_not_remembers hkey fun id h => hid ⟨id, h⟩]
      exact .refl s

/-- A listing that succeeds was asked for through the connection that the compute side then holds,
and nothing is remembered with it. -/
theorem asked_of_fetchInstances {nodes : List Instance}
    (h : (fetchInstances ctx).run s = (.done nodes, s')) :
    ∃ via events, s'.gateway.compute.connection = some via ∧
      s'.world.journal = events ++ s.world.journal ∧ .requested via .listInstances ∈ events ∧
      s'.gateway.sightings = s.gateway.sightings := by
  obtain ⟨via, s₁, hconnection, hrequest⟩ := Run.done_of_run_bind h
  have hsteps : Steps ctx Deed.Any s ((computeConnection ctx).run s).2 := within_computeConnection s
  have hseen := sightings_computeConnection ctx s
  rw [hconnection] at hsteps hseen
  obtain ⟨events, hjournal, -⟩ := hsteps.journal
  rw [request, run_inWorld] at hrequest
  by_cases hserves : via.serves .listInstances = true
  · rw [World.run_request hserves, Prod.mk.injEq] at hrequest
    obtain ⟨-, rfl⟩ := hrequest
    refine ⟨via, .requested via .listInstances :: events, (computeConnection_done hconnection).1.2,
      ?_, List.mem_cons_self, hseen⟩
    exact congrArg (List.cons _) hjournal
  · rw [World.run_request_refused hserves] at hrequest
    cases hrequest

/-- A search remembers with the connection that the compute side holds, and asks for nothing. -/
theorem mem_search (ctx : Context σ) (address : Value) (nodes : List Instance) (s : Session σ) :
    ((search ctx address nodes).run s).2.world = s.world ∧
      ∀ e ∈ ((search ctx address nodes).run s).2.gateway.sightings, e ∈ s.gateway.sightings ∨
        s.gateway.compute.connection = some e.2.via := by
  induction nodes with
  | nil => exact ⟨rfl, fun _ he => .inl he⟩
  | cons i rest ih =>
    unfold search
    cases hdescribe : i.describe s.gateway.cloud.cls with
    | error f =>
      have hrun : (describe i).run s = (.failed f, s) := by
        rw [run_describe_eq, hdescribe]
        rfl
      rw [Run.run_bind_failed (Run.run_wrapForeign_failed hrun)]
      exact ⟨rfl, fun _ he => .inl he⟩
    | ok m =>
      have hrun : (describe i).run s = (.done m, s) := by
        rw [run_describe_eq, hdescribe]
        rfl
      rw [Run.run_bind_done (Run.run_wrapForeign_done hrun)]
      cases m.hasAddress address with
      | error f => exact ⟨rfl, fun _ he => .inl he⟩
      | ok found =>
        rw [Run.ofExcept_ok, pure_bind]
        cases found with
        | false => exact ih
        | true =>
          rw [if_pos rfl]
          dsimp only
          split
          · have hdone : (remember address m.id).run s =
                (.done (), ((remember address m.id).run s).2) := rfl
            rw [Run.run_bind_done hdone]
            refine ⟨?_, fun e he => mem_remember he⟩
            obtain ⟨sightings, hremember⟩ := remember_cases s address m.id
            rw [hremember]
            rfl
          · exact ⟨rfl, fun _ he => .inl he⟩

theorem learns_scan (address : Value) : (scan ctx address).Keeps Learns := fun s => by
  unfold scan
  cases hlist : (fetchInstances ctx).run s with
  | mk out s₁ =>
    have hasked : Learns s s₁ := by
      have h := learns_askCompute ctx .listInstances s
      rwa [show (askCompute ctx .listInstances).run s = _ from hlist] at h
    cases out with
    | failed f =>
      rw [Run.run_bind_failed (Run.run_wrapForeign_failed hlist)]
      exact hasked
    | stalled =>
      rw [Run.run_bind_stalled (Run.run_wrapForeign_stalled hlist)]
      exact hasked
    | done nodes =>
      rw [Run.run_bind_done (Run.run_wrapForeign_done hlist)]
      obtain ⟨via, events, hvia, hjournal, hmem, hseen⟩ := asked_of_fetchInstances hlist
      obtain ⟨hworld, hsearch⟩ := mem_search ctx address nodes s₁
      refine ⟨events, by rw [hworld, hjournal], fun e he => ?_⟩
      rcases hsearch e he with he | he
      · exact .inl (by rwa [hseen] at he)
      · rw [hvia] at he
        cases he
        exact .inr hmem

/-- **What a look-up remembers it learned in this look-up**, from a listing through the connection
that it is remembered with. -/
theorem learns_findMachine (ctx : Context σ) (address : Value) :
    (findMachine ctx address).Keeps Learns := by
  unfold findMachine
  split
  · refine Run.Keeps.bind Learns.trans (learns_findRemembered address) fun seen => ?_
    cases seen with
    | none => exact learns_scan address
    | some m => exact fun s => .refl s
  · exact learns_scan address

end Compute

namespace Session

variable {σ : Type} {ctx : Context σ} {c : Cloud} {s s' : Session σ}

/-! ### One region -/

/-- The sessions that unaided actions and the steps of an operation lead to from a new one. -/
inductive Unaided (ctx : Context σ) (c : Cloud) : Session σ → Prop
  | new (w : World σ) : Unaided ctx c ⟨w, { cloud := c }⟩
  | acted {s : Session σ} (a : Action) (h : Unaided ctx c s) (own : a.Unaided) :
      Unaided ctx c (a.perform ctx s)
  | stepped {s s' : Session σ} (h : Unaided ctx c s) (step : Step ctx Deed.Any s s') :
      Unaided ctx c s'

theorem here_of_unaided (h : Unaided ctx c s) : s.Here := by
  induction h with
  | new w =>
    refine ⟨fun via hvia => ?_, nofun⟩
    exact absurd hvia (not_uses_releasing ⟨w, { cloud := c }⟩ false w via)
  | acted a h own ih => exact (perform_passage ctx _ own).here ih
  | stepped h step ih => exact ih.step step

theorem cls_of_unaided (h : Unaided ctx c s) : s.gateway.cloud.cls = c.cls := by
  induction h with
  | new w => rfl
  | acted a h own ih => exact (perform_passage ctx _ own).cls.trans ih
  | stepped h step ih => rw [step.sides.1, ih]

/-- What is true of the region at some moment of a session. -/
structure Regional (ctx : Context σ) (s : Session σ) : Prop where
  here : s.Here
  /-- A look-up remembers only what was listed through a connection of the region. -/
  learned : ∀ address, Learns s ((Compute.findMachine ctx address).run s).2
  /-- A template of another region moves an open session there. -/
  moves : ∀ name place, s.Moves name place →
    ∃ s', (useComputeTemplate ctx name).run s = (.done (), s') ∧ Moved s s' place
  /-- A template without a place, or with the present region, changes nothing. -/
  settled : ∀ name t, s.gateway.cloud.computeTemplate name = .ok t →
    (t.location.truthy = false ∨ t.location.equal s.gateway.cloud.region = true) →
    (useComputeTemplate ctx name).run s = (.done (), s)
  /-- An unknown template is refused, and changes nothing. -/
  unknown : ∀ name f, s.gateway.cloud.computeTemplate name = .error f →
    (useComputeTemplate ctx name).run s = (.failed f, s)
  /-- A closed session goes nowhere. -/
  closed : ∀ name t, s.gateway.cloud.computeTemplate name = .ok t → t.location.truthy = true →
    t.location.equal s.gateway.cloud.region = false → s.gateway.compute.closed = true →
    (useComputeTemplate ctx name).run s = (.failed (closedFault s.gateway.cloud), s)
  /-- Whatever fails changes nothing. -/
  refused : ∀ name f s', (useComputeTemplate ctx name).run s = (.failed f, s') → s' = s

/-- **Every session stays in one region at a time.** At every moment of every history in which it is
given no connection from elsewhere, whatever it uses or remembers belongs to the region that it is
in; a compute template moves it as a whole or not at all. -/
theorem regional_of_unaided (haccount : c.cls.hasAccount = true) (h : Unaided ctx c s) :
    Regional ctx s := by
  have hhere := here_of_unaided h
  have hclass : s.gateway.cloud.cls.hasAccount = true := by rw [cls_of_unaided h, haccount]
  refine ⟨hhere, ?_, ?_, ?_, ?_, ?_, ?_⟩
  · exact fun address => Compute.learns_findMachine ctx address s
  · exact fun name place hmoves => run_useComputeTemplate_moves hclass hhere hmoves
  · exact fun name t ht hplace => run_useComputeTemplate_settled hclass ht hplace
  · exact fun name f hf => run_useComputeTemplate_unknown hf
  · exact fun name t ht hplaced hother hclosed =>
      run_useComputeTemplate_closed hclass ht hplaced hother hclosed
  · intro name f s' hrun
    rcases run_useComputeTemplate ctx s name with hsame | ⟨region, w, -, -, hmoved⟩
    · rw [hrun] at hsame
      exact hsame
    · rw [hrun] at hmoved
      cases hmoved

/-- An account with a template of another region. -/
def travelling : Cloud :=
  { Sandbox.account with computeTemplates := [("west", ⟨.text "r2", .null, .null⟩)] }

/-- A session of it in which a machine has been found. -/
def settledIn : Session Sandbox :=
  Action.perform (Sandbox.context Sandbox.cachingSettings) (.operate (.find (.text "10.0.0.1")))
    (Sandbox.start (Sandbox.pair ["10.0.0.1"] []) travelling)

/-- It holds a connection and remembers the machine, and neither is there any more after a move. -/
theorem regional_of_unaided_west :
    travelling.cls.hasAccount = true ∧
      Unaided (Sandbox.context Sandbox.cachingSettings) travelling settledIn ∧
      Regional (Sandbox.context Sandbox.cachingSettings) settledIn ∧
      settledIn.Uses ⟨0, .driver, .text "r1"⟩ ∧ settledIn.gateway.sightings.length = 1 ∧
      ∃ s', (useComputeTemplate (Sandbox.context Sandbox.cachingSettings) (.text "west")).run
          settledIn = (.done (), s') ∧ Moved settledIn s' (.text "r2") := by
  have hunaided : Unaided (Sandbox.context Sandbox.cachingSettings) travelling settledIn :=
    .acted _ (.new _) trivial
  have hregional := regional_of_unaided rfl hunaided
  refine ⟨rfl, hunaided, hregional, .inl rfl, rfl, ?_⟩
  exact hregional.moves _ _ ⟨⟨_, rfl, rfl⟩, rfl, rfl, rfl⟩

end Session

end BlockStorage
