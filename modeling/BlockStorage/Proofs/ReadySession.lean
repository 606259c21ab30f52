import BlockStorage.Proofs.SharedConnection
import BlockStorage.Proofs.TruthfulCloud

/-!
Sessions that can be used, and what leaves them so.

A session is ready if both of its sides can be used and its cloud is in a good state; to manage
volumes it is enough that the storage side can be used (`Serving`). A session stays as usable as it
is as long as what is done leaves the cloud in a good state (`Serving.steps_of`, `Ready.steps_of`),
and then the storage side gets a driver to ask through (`run_storageConnection_serving`).

Which states are good is up to the property that is proved. Where it is about what a cloud keeps, a
view says what that is: connecting, reading and sleeping leave it as it is (`Viewed`), so a session
with a cloud of some view stays one (`Serving.quiet`, `Ready.quiet`) until something is changed.
-/
namespace BlockStorage

theorem Connection.serves_of_driver {via : Connection} (h : via.kind = .driver) (r : Request) :
    via.serves r = true := by
  rw [Connection.serves, h]

/-- What is asked of a good cloud leaves it good, and so does sleeping. -/
def Deed.Harmless {σ : Type} (ctx : Context σ) (Good : σ → Prop) : Deed → Prop
  | .asks r => ∀ via w, Good w → Good (ctx.backend.respond via r w).2
  | .sleeps seconds => ∀ w, Good w → Good (ctx.backend.sleep seconds w).2

/-- Reading and sleeping. -/
def Deed.Quiet : Deed → Prop
  | .sleeps _ => True
  | .asks r => Deed.Reads (.asks r)

theorem Deed.Reads.quiet {d : Deed} (h : d.Reads) : d.Quiet := by
  cases d with
  | asks r => exact h
  | sleeps seconds => trivial

namespace Compute

open Session

variable {σ V : Type} {ctx : Context σ} {c : Cloud} {s s' s₁ : Session σ} {Good : σ → Prop}
  {allowed : Deed → Prop} {view : σ → V} {a : V}

/-! ### Sessions that can be used -/

/-- A session with a good cloud whose storage side can be used, through drivers only. That side has a
connection, unless it can still take one over from the compute side. -/
structure Serving (Good : σ → Prop) (c : Cloud) (s : Session σ) : Prop where
  cloud : s.gateway.cloud = c
  account : c.cls.hasAccount = true
  opened : s.gateway.storage.closed = false
  reached : s.gateway.compute.closed = false ∨ s.gateway.storage.connection.isSome = true
  driver : ∀ via, s.gateway.compute.connection = some via ∨
    s.gateway.storage.connection = some via → via.kind = .driver
  good : Good s.world.cloud

/-- A session with a good cloud both of whose sides can be used, through drivers only. -/
structure Ready (Good : σ → Prop) (c : Cloud) (s : Session σ) : Prop where
  sound : Sound Good c s
  opened : s.gateway.storage.closed = false
  driver : ∀ via, s.gateway.compute.connection = some via ∨
    s.gateway.storage.connection = some via → via.kind = .driver

theorem Ready.serving (hs : Ready Good c s) : Serving Good c s :=
  ⟨hs.sound.cloud, hs.sound.account, hs.opened, .inl hs.sound.opened, hs.driver, hs.sound.good⟩

theorem Serving.ready (hs : Serving Good c s) (h : s.gateway.compute.closed = false) :
    Ready Good c s where
  sound := by
    refine ⟨hs.cloud, hs.account, h, fun via hvia => ?_, hs.good⟩
    rw [hs.driver via (.inl hvia)]
    decide
  opened := hs.opened
  driver := hs.driver

/-- Of the world, only the state of the cloud matters to that. -/
theorem Serving.in_world {Good' : σ → Prop} (hs : Serving Good c s) {w : World σ}
    (hw : Good' w.cloud) : Serving Good' c { s with world := w } :=
  ⟨hs.cloud, hs.account, hs.opened, hs.reached, hs.driver, hw⟩

theorem Ready.in_world {Good' : σ → Prop} (hs : Ready Good c s) {w : World σ}
    (hw : Good' w.cloud) : Ready Good' c { s with world := w } :=
  (hs.serving.in_world hw).ready hs.sound.opened

theorem Serving.mono {Good' : σ → Prop} (hs : Serving Good c s) (hw : Good' s.world.cloud) :
    Serving Good' c s := hs.in_world (w := s.world) hw

theorem Ready.mono {Good' : σ → Prop} (hs : Ready Good c s) (hw : Good' s.world.cloud) :
    Ready Good' c s := hs.in_world (w := s.world) hw

/-- What is remembered does not matter either. -/
theorem Serving.remembering (hs : Serving Good c s) (sightings : List (Value × Sighting)) :
    Serving Good c { s with gateway := { s.gateway with sightings } } :=
  ⟨hs.cloud, hs.account, hs.opened, hs.reached, hs.driver, hs.good⟩

/-- No harmless step makes the storage side unusable. -/
theorem Serving.step_of (hopens : Opens ctx Good)
    (hharmless : ∀ d, allowed d → d.Harmless ctx Good) (hs : Serving Good c s)
    (h : Step ctx allowed s s') : Serving Good c s' := by
  cases h with
  | requested via r held serves h =>
    rw [request, run_inWorld, World.run_request serves]
    exact hs.in_world (hharmless (.asks r) h via s.world.cloud hs.good)
  | slept seconds h =>
    rw [sleep, run_inWorld]
    cases hcheck : Clock.checkSleep seconds with
    | ok _ =>
      rw [World.run_sleep hcheck]
      exact hs.in_world (hharmless (.sleeps seconds) h s.world.cloud hs.good)
    | error f =>
      rw [World.run_sleep_refused hcheck]
      exact hs
  | connected free =>
    obtain ⟨world, hconnection, hgood⟩ :=
      run_computeConnection_free hopens (hs.ready free.1).sound free.2
    rw [hconnection]
    refine ⟨hs.cloud, hs.account, hs.opened, .inl free.1, ?_, hgood⟩
    rintro via (hvia | hvia)
    · cases hvia
      rfl
    · exact hs.driver via (.inr hvia)
  | adopted via free held =>
    refine ⟨hs.cloud, hs.account, hs.opened, .inr rfl, ?_, hs.good⟩
    rintro other (hother | hother)
    · exact hs.driver other (.inl hother)
    · cases hother
      exact hs.driver via (.inl held.2)
  | remembered address machine =>
    obtain ⟨sightings, hrun⟩ := remember_cases s address machine
    rw [hrun]
    exact hs.remembering sightings
  | forgotten address =>
    obtain ⟨sightings, hrun⟩ := forget_cases s address
    rw [hrun]
    exact hs.remembering sightings

theorem Serving.steps_of (hopens : Opens ctx Good)
    (hharmless : ∀ d, allowed d → d.Harmless ctx Good) (hs : Serving Good c s)
    (h : Steps ctx allowed s s') : Serving Good c s' := by
  induction h with
  | refl => exact hs
  | tail _ hstep ih => exact ih.step_of hopens hharmless hstep

/-- As steps close no side, a ready session stays ready. -/
theorem Ready.steps_of (hopens : Opens ctx Good) (hharmless : ∀ d, allowed d → d.Harmless ctx Good)
    (hs : Ready Good c s) (h : Steps ctx allowed s s') : Ready Good c s' :=
  (hs.serving.steps_of hopens hharmless h).ready (h.progress.closed.trans hs.sound.opened)

/-! ### Asking -/

/-- The storage side gets a driver to ask through. -/
theorem run_storageConnection_serving (hopens : Opens ctx Good) (hs : Serving Good c s) :
    ∃ via s₁, (storageConnection ctx).run s = (.done via, s₁) ∧ via.kind = .driver ∧
      Serving Good c s₁ ∧ s₁.gateway.compute.closed = s.gateway.compute.closed := by
  have hgiven : ∃ via s₁, (storageConnection ctx).run s = (.done via, s₁) := by
    cases hheld : s.gateway.storage.connection with
    | some via => exact ⟨via, s, storageConnection_held ctx s via hs.opened hheld⟩
    | none =>
      have hopen : s.gateway.compute.closed = false := by
        rcases hs.reached with hopen | hsome
        · exact hopen
        · rw [hheld] at hsome
          cases hsome
      obtain ⟨via, s₁, hrun, -⟩ := run_computeConnection hopens (hs.ready hopen).sound
      rw [storageConnection_free ctx ⟨hs.opened, hheld⟩, hrun]
      exact ⟨via, _, rfl⟩
  obtain ⟨via, s₁, hrun⟩ := hgiven
  -- To get a connection asks for nothing, so there is nothing to do harm.
  have hreach : Steps ctx (fun _ => False) s ((storageConnection ctx).run s).2 :=
    within_storageConnection s
  rw [hrun] at hreach
  have hs₁ := hs.steps_of hopens (fun _ h => h.elim) hreach
  exact ⟨via, s₁, hrun, hs₁.driver via (.inr (storageConnection_done hrun).2), hs₁,
    hreach.progress.closed⟩

theorem run_storageConnection_ready (hopens : Opens ctx Good) (hs : Ready Good c s) :
    ∃ via s₁, (storageConnection ctx).run s = (.done via, s₁) ∧ via.kind = .driver ∧
      Ready Good c s₁ := by
  obtain ⟨via, s₁, hrun, hdriver, hs₁, hclosed⟩ := run_storageConnection_serving hopens hs.serving
  exact ⟨via, s₁, hrun, hdriver, hs₁.ready (hclosed.trans hs.sound.opened)⟩

/-- A request of the storage side is made and answered. -/
theorem run_askStorage_serving (hopens : Opens ctx Good) (hs : Serving Good c s) (r : Request) :
    ∃ via s₁, Serving Good c s₁ ∧ s₁.gateway.compute.closed = s.gateway.compute.closed ∧
      (askStorage ctx r).run s = (.ofExcept (ctx.backend.respond via r s₁.world.cloud).1,
        { s₁ with world := { s₁.world with
          cloud := (ctx.backend.respond via r s₁.world.cloud).2
          journal := .requested via r :: s₁.world.journal } }) := by
  obtain ⟨via, s₁, hrun, hdriver, hs₁, hclosed⟩ := run_storageConnection_serving hopens hs
  refine ⟨via, s₁, hs₁, hclosed, ?_⟩
  unfold askStorage
  rw [Run.run_bind_done hrun, request, run_inWorld,
    World.run_request (Connection.serves_of_driver hdriver r)]

theorem run_askStorage_ready (hopens : Opens ctx Good) (hs : Ready Good c s) (r : Request) :
    ∃ via s₁, Ready Good c s₁ ∧
      (askStorage ctx r).run s = (.ofExcept (ctx.backend.respond via r s₁.world.cloud).1,
        { s₁ with world := { s₁.world with
          cloud := (ctx.backend.respond via r s₁.world.cloud).2
          journal := .requested via r :: s₁.world.journal } }) := by
  obtain ⟨via, s₁, hs₁, hclosed, hrun⟩ := run_askStorage_serving hopens hs.serving r
  exact ⟨via, s₁, hs₁.ready (hclosed.trans hs.sound.opened), hrun⟩

/-- What was answered was asked of a good cloud, and the session is as usable as it was, with the
cloud as the request left it. -/
theorem Serving.answered (hopens : Opens ctx Good) (hs : Serving Good c s) {r : Request}
    {a : r.Answer} (h : (askStorage ctx r).run s = (.done a, s')) :
    ∃ via w, Good w ∧ (ctx.backend.respond via r w).1 = .ok a ∧
      ∀ {Good' : σ → Prop}, Good' (ctx.backend.respond via r w).2 → Serving Good' c s' := by
  obtain ⟨via, s₁, hs₁, -, hrun⟩ := run_askStorage_serving hopens hs r
  obtain ⟨hanswer, rfl⟩ := Prod.mk.inj (hrun.symm.trans h)
  exact ⟨via, s₁.world.cloud, hs₁.good, Outcome.ofExcept_eq_done.1 hanswer, fun hw => hs₁.in_world hw⟩

/-- Only a storage side that can be used is answered. -/
theorem reached_of_answered {r : Request} {a : r.Answer}
    (h : (askStorage ctx r).run s = (.done a, s')) : s.gateway.storage.closed = false ∧
      (s.gateway.compute.closed = false ∨ s.gateway.storage.connection.isSome = true) := by
  obtain ⟨via, s₁, hvia, -⟩ := Run.done_of_run_bind h
  rcases s.gateway.storage.closed_or_holds_or_free with hclosed | ⟨held, hheld⟩ | hfree
  · rw [storageConnection_closed ctx s hclosed] at hvia
    cases hvia
  · exact ⟨hheld.1, .inr (by rw [hheld.2, Option.isSome_some])⟩
  · refine ⟨hfree.1, .inl ?_⟩
    rw [storageConnection_free ctx hfree] at hvia
    cases hopen : s.gateway.compute.closed with
    | false => rfl
    | true =>
      rw [computeConnection_closed ctx s hopen] at hvia
      cases hvia

/-! ### Views -/

/-- A good cloud of a certain view. -/
def Shows (view : σ → V) (Good : σ → Prop) (a : V) (w : σ) : Prop := Good w ∧ view w = a

/-- Connecting to a good cloud succeeds, and neither that nor reading nor sleeping changes the view
of it. -/
structure Viewed (ctx : Context σ) (view : σ → V) (Good : σ → Prop) : Prop where
  driver : ∃ name, driverOf ctx.settings = .ok name
  connect : ∀ how w, Good w → ∃ w', ctx.backend.connect how w = (.ok (), w') ∧
    Shows view Good (view w) w'
  reads : ∀ via (r : Request) w, Deed.Reads (.asks r) → Good w →
    Shows view Good (view w) (ctx.backend.respond via r w).2
  sleeps : ∀ seconds w, Good w → Shows view Good (view w) (ctx.backend.sleep seconds w).2

theorem Viewed.opens (h : Viewed ctx view Good) (a : V) : Opens ctx (Shows view Good a) where
  driver := h.driver
  connect how w hw := by
    obtain ⟨w', hconnect, hgood, hview⟩ := h.connect how w hw.1
    exact ⟨w', hconnect, hgood, hview.trans hw.2⟩

theorem Viewed.harmless (h : Viewed ctx view Good) (a : V) {d : Deed} (hd : d.Quiet) :
    d.Harmless ctx (Shows view Good a) := by
  cases d with
  | asks r =>
    intro via w hw
    obtain ⟨hgood, hview⟩ := h.reads via r w hd hw.1
    exact ⟨hgood, hview.trans hw.2⟩
  | sleeps seconds =>
    intro w hw
    obtain ⟨hgood, hview⟩ := h.sleeps seconds w hw.1
    exact ⟨hgood, hview.trans hw.2⟩

/-- Reading and sleeping leave the session as usable as it is, with a cloud of the same view. -/
theorem Serving.quiet (h : Viewed ctx view Good) (hs : Serving (Shows view Good a) c s)
    (hreach : Steps ctx Deed.Quiet s s') : Serving (Shows view Good a) c s' :=
  hs.steps_of (h.opens a) (fun _ => h.harmless a) hreach

theorem Ready.quiet (h : Viewed ctx view Good) (hs : Ready (Shows view Good a) c s)
    (hreach : Steps ctx Deed.Quiet s s') : Ready (Shows view Good a) c s' :=
  hs.steps_of (h.opens a) (fun _ => h.harmless a) hreach

end Compute

namespace Storage

open Session Compute

variable {σ : Type} {ctx : Context σ} {s s' : Session σ}

/-- To wait is to read and to sleep. -/
theorem quiet_of_await {id : Value} {wanted : Status} {deadline : Float} {out : Outcome Unit}
    (h : (await ctx id wanted deadline).run s = (out, s')) : Steps ctx Deed.Quiet s s' := by
  have hreach : Steps ctx Deed.Quiet s ((await ctx id wanted deadline).run s).2 :=
    within_await id wanted deadline trivial trivial trivial s
  rwa [h] at hreach

end Storage

end BlockStorage
