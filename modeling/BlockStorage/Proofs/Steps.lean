import BlockStorage.Storage
import Mathlib.Logic.Relation

/-!
What operations on machines and volumes can do to a session, one step at a time.

An operation makes requests through a connection that is in use, sleeps, opens a connection for the
compute side, lets the storage side take that connection over, and remembers and forgets addresses.
It does nothing else to a session, so whatever each of these steps keeps is kept by every operation.
`Within` says of an operation that its steps are such and that its requests and sleeps are allowed;
there is one lemma for every way to put operations together and one for every operation.

From the steps follow the two facts that are used everywhere: the journal only grows, by what the
requests and sleeps write down (`Steps.journal`), and a storage side with a connection keeps that
connection (`Steps.storage_holds`).
-/
namespace BlockStorage

/-- The side is open and uses a connection. -/
def Side.Holds (d : Side) (via : Connection) : Prop :=
  d.closed = false ∧ d.connection = some via

/-- The side is open and uses no connection yet. -/
def Side.Free (d : Side) : Prop := d.closed = false ∧ d.connection = none

theorem Side.closed_or_holds_or_free (d : Side) :
    d.closed = true ∨ (∃ via, d.Holds via) ∨ d.Free := by
  cases hclosed : d.closed with
  | true => exact .inl rfl
  | false =>
    cases hheld : d.connection with
    | some via => exact .inr (.inl ⟨via, hclosed, hheld⟩)
    | none => exact .inr (.inr ⟨hclosed, hheld⟩)

/-- What an operation can do besides opening connections. -/
inductive Deed where
  | asks (r : Request)
  | sleeps (seconds : Value)

/-- What operations do: anything but to close a connection. -/
def Deed.Works : Deed → Prop
  | .asks .close => False
  | _ => True

/-- The event is that of an allowed deed, or a connection was opened. -/
def Event.Within (allowed : Deed → Prop) : Event → Prop
  | .requested _ r => allowed (.asks r)
  | .slept seconds => allowed (.sleeps seconds)
  | .opened _ => True

/-- A journal that has been written on, with events of some kind. -/
def Grows (P : Event → Prop) (before after : List Event) : Prop :=
  ∃ events, after = events ++ before ∧ ∀ e ∈ events, P e

namespace Grows

variable {P : Event → Prop} {a b c : List Event}

theorem refl (a : List Event) : Grows P a a := ⟨[], rfl, by simp⟩

theorem cons {e : Event} (h : P e) (a : List Event) : Grows P a (e :: a) := ⟨[e], rfl, by simpa⟩

theorem trans (hab : Grows P a b) (hbc : Grows P b c) : Grows P a c := by
  obtain ⟨early, rfl, hearly⟩ := hab
  obtain ⟨late, rfl, hlate⟩ := hbc
  refine ⟨late ++ early, (List.append_assoc _ _ _).symm, fun e he => ?_⟩
  rcases List.mem_append.1 he with he | he
  · exact hlate e he
  · exact hearly e he

end Grows

namespace Session

variable {σ α β : Type} {ctx : Context σ} {allowed : Deed → Prop} {s s' : Session σ}

/-! ### Steps -/

/-- One thing that an operation can do to a session. -/
inductive Step (ctx : Context σ) (allowed : Deed → Prop) : Session σ → Session σ → Prop
  | requested (s : Session σ) (via : Connection) (r : Request)
      (held : s.gateway.compute.Holds via ∨ s.gateway.storage.Holds via)
      (serves : via.serves r = true) (h : allowed (.asks r)) :
      Step ctx allowed s ((request ctx via r).run s).2
  | slept (s : Session σ) (seconds : Value) (h : allowed (.sleeps seconds)) :
      Step ctx allowed s ((sleep ctx seconds).run s).2
  | connected (s : Session σ) (free : s.gateway.compute.Free) :
      Step ctx allowed s ((computeConnection ctx).run s).2
  | adopted (s : Session σ) (via : Connection) (free : s.gateway.storage.Free)
      (held : s.gateway.compute.Holds via) :
      Step ctx allowed s { s with gateway := { s.gateway with
        storage := { s.gateway.storage with connection := some via } } }
  | remembered (s : Session σ) (address machine : Value) :
      Step ctx allowed s ((Compute.remember address machine).run s).2
  | forgotten (s : Session σ) (address : Value) :
      Step ctx allowed s ((forget address).run s).2

/-- Any number of steps. -/
abbrev Steps (ctx : Context σ) (allowed : Deed → Prop) : Session σ → Session σ → Prop :=
  Relation.ReflTransGen (Step ctx allowed)

/-- Every run of the operation is made of steps. -/
def Within (ctx : Context σ) (allowed : Deed → Prop) (x : Run (Session σ) α) : Prop :=
  x.Keeps (Steps ctx allowed)

namespace Within

variable {x : Run (Session σ) α} {f : α → Run (Session σ) β}

protected theorem pure (a : α) : Within ctx allowed (pure a) := fun _ => .refl

theorem fail (f : Fault) : Within ctx allowed (Run.fail f : Run (Session σ) α) := fun _ => .refl

theorem stall : Within ctx allowed (Run.stall : Run (Session σ) α) := fun _ => .refl

theorem get : Within ctx allowed Run.get := fun _ => .refl

theorem current : Within ctx allowed current := fun _ => .refl

theorem now : Within ctx allowed (now ctx) := fun _ => .refl

theorem ofExcept (e : Except Fault α) : Within ctx allowed (Run.ofExcept e) := fun s => by
  rw [Run.run_ofExcept]

protected theorem bind (hx : Within ctx allowed x) (hf : ∀ a, Within ctx allowed (f a)) :
    Within ctx allowed (x >>= f) :=
  Run.Keeps.bind Relation.ReflTransGen.trans hx hf

theorem catching (hx : Within ctx allowed x) {handle : Fault → Run (Session σ) α}
    (hh : ∀ f, Within ctx allowed (handle f)) : Within ctx allowed (x.catching handle) :=
  Run.Keeps.catching Relation.ReflTransGen.trans hx hh

theorem mapFault (hx : Within ctx allowed x) (change : Fault → Fault) :
    Within ctx allowed (x.mapFault change) :=
  hx.catching fun _ => fail _

theorem wrapForeign (hx : Within ctx allowed x) (wrap : Fault → Fault) :
    Within ctx allowed (x.wrapForeign wrap) :=
  hx.mapFault _

theorem translating (hx : Within ctx allowed x) (kind : Fault.Kind) :
    Within ctx allowed (x.translating kind) :=
  hx.mapFault _

theorem forEach {f : α → Run (Session σ) β} {xs : List α}
    (h : ∀ a ∈ xs, Within ctx allowed (f a)) : Within ctx allowed (Run.forEach f xs) := by
  induction xs with
  | nil => exact Within.pure _
  | cons a rest ih =>
    refine (h a List.mem_cons_self).bind fun b => ?_
    exact (ih fun c hc => h c (List.mem_cons_of_mem a hc)).bind fun _ => Within.pure _

/-- What is allowed some deeds is allowed them among others. -/
theorem mono {more : Deed → Prop} (hx : Within ctx allowed x) (h : ∀ d, allowed d → more d) :
    Within ctx more x := by
  intro s
  refine Relation.ReflTransGen.mono (fun a b hab => ?_) _ _ (hx s)
  cases hab with
  | requested via r held serves hr => exact .requested a via r held serves (h _ hr)
  | slept seconds hs => exact .slept a seconds (h _ hs)
  | connected free => exact .connected a free
  | adopted via free held => exact .adopted a via free held
  | remembered address machine => exact .remembered a address machine
  | forgotten address => exact .forgotten a address

end Within

/-! ### Connections -/

/-- The connection that a session opens next. -/
def nextConnection (s : Session σ) : Connection :=
  ⟨s.world.connections, .driver, s.gateway.cloud.region⟩

/-- Opening a connection is written down and counted, and changes nothing else of the session. It
ends. -/
theorem connect_cases (ctx : Context σ) (allowed : Deed → Prop) (s : Session σ) :
    ∃ s₁, s₁.gateway = s.gateway ∧
      Grows (Event.Within allowed) s.world.journal s₁.world.journal ∧
      (((connect ctx).run s = (.done s.nextConnection, s₁) ∧
          s₁.world.connections = s.world.connections + 1) ∨
        ∃ f, (connect ctx).run s = (.failed f, s₁) ∧
          s₁.world.connections = s.world.connections) := by
  unfold connect
  rw [Run.run_bind_done (run_current s)]
  dsimp only
  split
  · cases driverOf ctx.settings with
    | error f => exact ⟨s, rfl, .refl _, .inr ⟨f, rfl, rfl⟩⟩
    | ok driver =>
      rw [Run.ofExcept_ok, pure_bind, run_inWorld, World.run_connect]
      cases ctx.backend.connect _ s.world.cloud with
      | mk answer cloud =>
        cases answer with
        | ok _ =>
          refine ⟨_, ?_, ?_, .inl ⟨rfl, rfl⟩⟩
          · rfl
          · exact .cons trivial _
        | error f =>
          refine ⟨_, ?_, ?_, .inr ⟨_, rfl, rfl⟩⟩
          · rfl
          · exact .cons trivial _
  · exact ⟨s, rfl, .refl _, .inr ⟨_, rfl, rfl⟩⟩

/-- A compute side without a connection opens one, or fails without one. -/
theorem computeConnection_free (ctx : Context σ) (allowed : Deed → Prop) {s : Session σ}
    (free : s.gateway.compute.Free) :
    ∃ s₁, s₁.gateway = s.gateway ∧
      Grows (Event.Within allowed) s.world.journal s₁.world.journal ∧
      (((computeConnection ctx).run s = (.done s.nextConnection, { s₁ with
          gateway := { s₁.gateway with
            compute := { s₁.gateway.compute with connection := some s.nextConnection } } }) ∧
          s₁.world.connections = s.world.connections + 1) ∨
        ∃ f, (computeConnection ctx).run s = (.failed f, s₁) ∧
          s₁.world.connections = s.world.connections) := by
  obtain ⟨s₁, hgateway, hjournal, hrun⟩ := connect_cases ctx allowed s
  refine ⟨s₁, hgateway, hjournal, ?_⟩
  unfold computeConnection
  rw [Run.run_bind_done (run_current s)]
  simp only [free.1, free.2, Bool.false_eq_true, if_false]
  rcases hrun with ⟨hrun, hcount⟩ | ⟨f, hrun, hcount⟩
  · rw [Run.run_bind_done (Run.run_wrapForeign_done hrun)]
    exact .inl ⟨rfl, hcount⟩
  · rw [Run.run_bind_failed (Run.run_wrapForeign_failed hrun)]
    exact .inr ⟨_, rfl, hcount⟩

/-- The connection that the compute side gives is the one it uses from then on. The storage side
stays what it was. -/
theorem computeConnection_done {via : Connection}
    (h : (computeConnection ctx).run s = (.done via, s')) :
    s'.gateway.compute.Holds via ∧ s'.gateway.storage = s.gateway.storage := by
  rcases s.gateway.compute.closed_or_holds_or_free with hclosed | ⟨c, hheld⟩ | hfree
  · rw [computeConnection_closed ctx s hclosed] at h
    cases h
  · rw [computeConnection_held ctx s c hheld.1 hheld.2] at h
    cases h
    exact ⟨hheld, rfl⟩
  · obtain ⟨s₁, hgateway, -, ⟨hrun, -⟩ | ⟨f, hrun, -⟩⟩ :=
      computeConnection_free ctx (fun _ => True) hfree
    · rw [hrun] at h
      cases h
      refine ⟨⟨?_, rfl⟩, ?_⟩
      · rw [hgateway]; exact hfree.1
      · rw [hgateway]
    · rw [hrun] at h
      cases h

theorem within_computeConnection : Within ctx allowed (computeConnection ctx) := fun s => by
  rcases s.gateway.compute.closed_or_holds_or_free with hclosed | ⟨c, hheld⟩ | hfree
  · rw [computeConnection_closed ctx s hclosed]
  · rw [computeConnection_held ctx s c hheld.1 hheld.2]
  · exact .single (.connected s hfree)

/-- A storage side without a connection takes over that of the compute side. -/
theorem storageConnection_free (ctx : Context σ) {s : Session σ}
    (free : s.gateway.storage.Free) :
    (storageConnection ctx).run s = match (computeConnection ctx).run s with
      | (.done via, s₁) => (.done via, { s₁ with gateway := { s₁.gateway with
          storage := { s₁.gateway.storage with connection := some via } } })
      | (.failed f, s₁) => (.failed (if f.isOwn then f else creationFault f), s₁)
      | (.stalled, s₁) => (.stalled, s₁) := by
  unfold storageConnection
  rw [Run.run_bind_done (run_current s)]
  simp only [free.1, free.2, Bool.false_eq_true, if_false]
  cases h : (computeConnection ctx).run s with
  | mk o s₁ =>
    cases o with
    | done via =>
      rw [Run.run_bind_done (Run.run_wrapForeign_done h)]
      rfl
    | failed f => rw [Run.run_bind_failed (Run.run_wrapForeign_failed h)]
    | stalled => rw [Run.run_bind_stalled (Run.run_wrapForeign_stalled h)]

theorem within_storageConnection : Within ctx allowed (storageConnection ctx) := fun s => by
  rcases s.gateway.storage.closed_or_holds_or_free with hclosed | ⟨c, hheld⟩ | hfree
  · rw [storageConnection_closed ctx s hclosed]
  · rw [storageConnection_held ctx s c hheld.1 hheld.2]
  · have hsteps : Steps ctx allowed s ((computeConnection ctx).run s).2 :=
      within_computeConnection s
    rw [storageConnection_free ctx hfree]
    split
    · rename_i via s₁ hrun
      obtain ⟨hvia, hstorage⟩ := computeConnection_done hrun
      rw [hrun] at hsteps
      refine hsteps.tail (.adopted s₁ via ?_ hvia)
      rw [hstorage]
      exact hfree
    · rename_i hrun
      rwa [hrun] at hsteps
    · rename_i hrun
      rwa [hrun] at hsteps

/-- The connection that the storage side gives is the one it uses from then on. -/
theorem storageConnection_done {via : Connection}
    (h : (storageConnection ctx).run s = (.done via, s')) : s'.gateway.storage.Holds via := by
  rcases s.gateway.storage.closed_or_holds_or_free with hclosed | ⟨c, hheld⟩ | hfree
  · rw [storageConnection_closed ctx s hclosed] at h
    cases h
  · rw [storageConnection_held ctx s c hheld.1 hheld.2] at h
    cases h
    exact hheld
  · rw [storageConnection_free ctx hfree] at h
    split at h
    · rename_i c s₁ hrun
      cases h
      obtain ⟨-, hstorage⟩ := computeConnection_done hrun
      refine ⟨?_, rfl⟩
      rw [hstorage]
      exact hfree.1
    · cases h
    · cases h

/-! ### Requests -/

theorem within_request {via : Connection} {r : Request} (h : allowed (.asks r))
    (held : s.gateway.compute.Holds via ∨ s.gateway.storage.Holds via) :
    Steps ctx allowed s ((request ctx via r).run s).2 := by
  by_cases hserves : via.serves r = true
  · exact .single (.requested s via r held hserves h)
  · rw [request, run_inWorld, World.run_request_refused hserves]

theorem within_askStorage {r : Request} (h : allowed (.asks r)) :
    Within ctx allowed (askStorage ctx r) := fun s => by
  have hsteps : Steps ctx allowed s ((storageConnection ctx).run s).2 := within_storageConnection s
  unfold askStorage
  cases hrun : (storageConnection ctx).run s with
  | mk o s₁ =>
    rw [hrun] at hsteps
    cases o with
    | done via =>
      rw [Run.run_bind_done hrun]
      exact hsteps.trans (within_request h (.inr (storageConnection_done hrun)))
    | failed f => rwa [Run.run_bind_failed hrun]
    | stalled => rwa [Run.run_bind_stalled hrun]

theorem within_askCompute {r : Request} (h : allowed (.asks r)) :
    Within ctx allowed (askCompute ctx r) := fun s => by
  have hsteps : Steps ctx allowed s ((computeConnection ctx).run s).2 := within_computeConnection s
  unfold askCompute
  cases hrun : (computeConnection ctx).run s with
  | mk o s₁ =>
    rw [hrun] at hsteps
    cases o with
    | done via =>
      rw [Run.run_bind_done hrun]
      exact hsteps.trans (within_request h (.inl (computeConnection_done hrun).1))
    | failed f => rwa [Run.run_bind_failed hrun]
    | stalled => rwa [Run.run_bind_stalled hrun]

theorem within_sleep {seconds : Value} (h : allowed (.sleeps seconds)) :
    Within ctx allowed (sleep ctx seconds) :=
  fun s => .single (.slept s seconds h)

theorem within_remember (address machine : Value) :
    Within ctx allowed (Compute.remember address machine) :=
  fun s => .single (.remembered s address machine)

theorem within_forget (address : Value) : Within ctx allowed (forget address) :=
  fun s => .single (.forgotten s address)

/-! ### Requests end -/

theorem ends_inWorld {x : Run (World σ) α} (h : x.Ends) : (inWorld x).Ends := fun s => h s.world

theorem ends_act (f : σ → Except Fault α × σ) : (World.act f).Ends := fun w => by
  have h := Run.Ends.ofExcept (f w.cloud).1 w
  rwa [Run.run_ofExcept] at h

theorem ends_request (via : Connection) (r : Request) : (request ctx via r).Ends := by
  refine ends_inWorld ?_
  unfold World.request
  split
  · exact (Run.Ends.modify _).bind fun _ => ends_act _
  · exact Run.Ends.fail _

theorem ends_computeConnection : (computeConnection ctx).Ends := by
  refine (Run.Ends.get.bind fun s => Run.Ends.pure _).bind fun g => ?_
  split
  · exact Run.Ends.fail _
  · split
    · exact Run.Ends.pure _
    · refine Run.Ends.bind (.wrapForeign (fun s => ?_) _) fun via => ?_
      · obtain ⟨s₁, -, -, ⟨hrun, -⟩ | ⟨f, hrun, -⟩⟩ := connect_cases ctx (fun _ => True) s
        · rw [hrun]; exact nofun
        · rw [hrun]; exact nofun
      · exact (Run.Ends.modify _).bind fun _ => Run.Ends.pure _

theorem ends_storageConnection : (storageConnection ctx).Ends := by
  refine (Run.Ends.get.bind fun s => Run.Ends.pure _).bind fun g => ?_
  split
  · exact Run.Ends.fail _
  · split
    · exact Run.Ends.pure _
    · refine (ends_computeConnection.wrapForeign _).bind fun via => ?_
      exact (Run.Ends.modify _).bind fun _ => Run.Ends.pure _

/-- A request is answered or fails. -/
theorem ends_askStorage (r : Request) : (askStorage ctx r).Ends :=
  ends_storageConnection.bind fun via => ends_request via r

/-! ### Addresses -/

/-- Remembering an address changes nothing but the addresses. -/
theorem remember_cases (s : Session σ) (address machine : Value) :
    ∃ sightings, ((Compute.remember address machine).run s).2 =
      { s with gateway := { s.gateway with sightings } } := by
  unfold Compute.remember modifyGateway
  rw [Run.run_modify]
  dsimp only
  split
  · exact ⟨_, rfl⟩
  · exact ⟨s.gateway.sightings, rfl⟩

/-- Forgetting an address changes nothing but the addresses. -/
theorem forget_cases (s : Session σ) (address : Value) :
    ∃ sightings, ((forget address).run s).2 =
      { s with gateway := { s.gateway with sightings } } := by
  unfold forget
  split
  · exact ⟨[], rfl⟩
  · rw [Run.run_bind_done (run_current s)]
    split
    · exact ⟨_, rfl⟩
    · exact ⟨s.gateway.sightings, rfl⟩

/-! ### What every step keeps -/

/-- A step writes down at most what it does. -/
theorem Step.journal (h : Step ctx allowed s s') :
    Grows (Event.Within allowed) s.world.journal s'.world.journal := by
  cases h with
  | requested via r held serves h =>
    rw [request, run_inWorld, World.run_request serves]
    exact .cons h _
  | slept seconds h =>
    rw [sleep, run_inWorld]
    cases hcheck : Clock.checkSleep seconds with
    | ok _ =>
      rw [World.run_sleep hcheck]
      exact .cons h _
    | error f =>
      rw [World.run_sleep_refused hcheck]
      exact .refl _
  | connected free =>
    obtain ⟨s₁, -, hjournal, ⟨hrun, -⟩ | ⟨f, hrun, -⟩⟩ := computeConnection_free ctx allowed free
    · rwa [hrun]
    · rwa [hrun]
  | adopted via free held => exact .refl _
  | remembered address machine =>
    obtain ⟨sightings, hrun⟩ := remember_cases s address machine
    rw [hrun]
    exact .refl _
  | forgotten address =>
    obtain ⟨sightings, hrun⟩ := forget_cases s address
    rw [hrun]
    exact .refl _

/-- **The journal only grows**, by what was allowed and by connections opened. -/
theorem Steps.journal (h : Steps ctx allowed s s') :
    Grows (Event.Within allowed) s.world.journal s'.world.journal := by
  induction h with
  | refl => exact .refl _
  | tail _ hstep ih => exact ih.trans hstep.journal

/-- A storage side that uses a connection goes on using it. -/
theorem Step.storage_holds {via : Connection} (h : Step ctx allowed s s')
    (hs : s.gateway.storage.Holds via) : s'.gateway.storage.Holds via := by
  cases h with
  | requested other r held serves h =>
    rw [request, run_inWorld]
    exact hs
  | slept seconds h =>
    rw [sleep, run_inWorld]
    exact hs
  | connected free =>
    obtain ⟨s₁, hgateway, -, ⟨hrun, -⟩ | ⟨f, hrun, -⟩⟩ := computeConnection_free ctx allowed free
    · rw [hrun]
      exact hgateway ▸ hs
    · rw [hrun, hgateway]
      exact hs
  | adopted c free held => cases hs.2.symm.trans free.2
  | remembered address machine =>
    obtain ⟨sightings, hrun⟩ := remember_cases s address machine
    rw [hrun]
    exact hs
  | forgotten address =>
    obtain ⟨sightings, hrun⟩ := forget_cases s address
    rw [hrun]
    exact hs

theorem Steps.storage_holds {via : Connection} (h : Steps ctx allowed s s')
    (hs : s.gateway.storage.Holds via) : s'.gateway.storage.Holds via := by
  induction h with
  | refl => exact hs
  | tail _ hstep ih => exact hstep.storage_holds ih

end Session

end BlockStorage
