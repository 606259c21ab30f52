import BlockStorage.Proofs.Operations

/-!
One connection for both sides.

Each side of a session keeps the connection that it uses, and yet there is never more than one: the
sides are closed together, and what the storage side holds is what the compute side holds
(`Shared`). A step opens a connection only for a compute side that holds none, and hands the storage
side no other (`Step.sides`); an action beyond that lets both sides go or gives both the same
(`perform_effect`). So every session is `Shared` that joint actions and steps lead to from a new one
(`Reachable`), and `sharing_of_reachable` says what comes of it: how many connections are opened and
when, what a failed attempt leaves behind, and that a given connection is used by both sides or
refused.
-/
namespace BlockStorage.Session

variable {σ : Type} {ctx : Context σ} {c : Cloud} {s s' s₁ : Session σ}

/-- Both sides are open or both are closed, a closed side holds nothing, and the storage side holds
nothing that the compute side does not hold. -/
structure Shared (g : Gateway) : Prop where
  closed : g.storage.closed = g.compute.closed
  released : g.compute.closed = true → g.compute.connection = none ∧ g.storage.connection = none
  same : ∀ via, g.storage.connection = some via → g.compute.connection = some via

/-- If the compute side holds nothing, the storage side does not either. -/
theorem Shared.storage_free {g : Gateway} (h : Shared g) (free : g.compute.Free) :
    g.storage.Free := by
  refine ⟨h.closed.trans free.1, ?_⟩
  cases hheld : g.storage.connection with
  | none => rfl
  | some via => cases (h.same via hheld).symm.trans free.2

/-! ### Steps -/

/-- What a step does to the two sides, and how many connections it opens. -/
inductive Sides (s s' : Session σ) : Prop
  | kept (compute : s'.gateway.compute = s.gateway.compute)
      (storage : s'.gateway.storage = s.gateway.storage)
      (count : s'.world.connections = s.world.connections)
  | opened (free : s.gateway.compute.Free) (held : s'.gateway.compute.Holds s.nextConnection)
      (storage : s'.gateway.storage = s.gateway.storage)
      (count : s'.world.connections = s.world.connections + 1)
  | adopted (via : Connection) (held : s.gateway.compute.Holds via)
      (free : s.gateway.storage.Free) (compute : s'.gateway.compute = s.gateway.compute)
      (storage : s'.gateway.storage.Holds via)
      (count : s'.world.connections = s.world.connections)

/-- A step leaves the cloud what it is, and opens a connection at most for the compute side. -/
theorem Step.sides {allowed : Deed → Prop} (h : Step ctx allowed s s') :
    s'.gateway.cloud = s.gateway.cloud ∧ Sides s s' := by
  cases h with
  | requested via r held serves h =>
    rw [request, run_inWorld, World.run_request serves]
    exact ⟨rfl, .kept rfl rfl rfl⟩
  | slept seconds h =>
    rw [sleep, run_inWorld]
    cases hcheck : Clock.checkSleep seconds with
    | ok _ =>
      rw [World.run_sleep hcheck]
      exact ⟨rfl, .kept rfl rfl rfl⟩
    | error f =>
      rw [World.run_sleep_refused hcheck]
      exact ⟨rfl, .kept rfl rfl rfl⟩
  | connected free =>
    obtain ⟨s₁, hgateway, -, ⟨hrun, hcount⟩ | ⟨f, hrun, hcount⟩⟩ :=
      computeConnection_free ctx allowed free
    · rw [hrun]
      refine ⟨?_, .opened free ⟨?_, rfl⟩ ?_ hcount⟩
      · show s₁.gateway.cloud = _
        rw [hgateway]
      · show s₁.gateway.compute.closed = false
        rw [hgateway, free.1]
      · show s₁.gateway.storage = _
        rw [hgateway]
    · rw [hrun]
      refine ⟨?_, .kept ?_ ?_ hcount⟩
      · rw [hgateway]
      · rw [hgateway]
      · rw [hgateway]
  | adopted via free held => exact ⟨rfl, .adopted via held free rfl ⟨free.1, rfl⟩ rfl⟩
  | remembered address machine =>
    obtain ⟨sightings, hrun⟩ := remember_cases s address machine
    rw [hrun]
    exact ⟨rfl, .kept rfl rfl rfl⟩
  | forgotten address =>
    obtain ⟨sightings, hrun⟩ := forget_cases s address
    rw [hrun]
    exact ⟨rfl, .kept rfl rfl rfl⟩

/-- No step separates the sides. -/
theorem Shared.sides (h : Shared s.gateway) (hsides : Sides s s') : Shared s'.gateway := by
  cases hsides with
  | kept compute storage count => exact ⟨by rw [compute, storage]; exact h.closed,
      by rw [compute, storage]; exact h.released, by rw [compute, storage]; exact h.same⟩
  | opened free held storage count =>
    have hfree := h.storage_free free
    refine ⟨?_, fun hclosed => ?_, fun via hvia => ?_⟩
    · rw [storage, hfree.1, held.1]
    · rw [held.1] at hclosed
      cases hclosed
    · rw [storage, hfree.2] at hvia
      cases hvia
  | adopted via held free compute storage count =>
    refine ⟨?_, fun hclosed => ?_, fun other hother => ?_⟩
    · rw [compute, storage.1, held.1]
    · rw [compute, held.1] at hclosed
      cases hclosed
    · rw [compute, held.2, ← hother, storage.2]

/-- What any number of steps do to the compute side, and how many connections they open: the one
that the compute side then holds, or none. -/
structure Progress (s s' : Session σ) : Prop where
  cloud : s'.gateway.cloud = s.gateway.cloud
  shared : Shared s.gateway → Shared s'.gateway
  opens : (s'.gateway.compute = s.gateway.compute ∧
      s'.world.connections = s.world.connections) ∨
    (s.gateway.compute.Free ∧ s'.gateway.compute.Holds s.nextConnection ∧
      s'.world.connections = s.world.connections + 1)

theorem Progress.refl (s : Session σ) : Progress s s := ⟨rfl, id, .inl ⟨rfl, rfl⟩⟩

theorem Progress.step {allowed : Deed → Prop} (h : Progress s s₁) (hstep : Step ctx allowed s₁ s') :
    Progress s s' := by
  obtain ⟨hcloud, hsides⟩ := hstep.sides
  refine ⟨hcloud.trans h.cloud, fun hs => (h.shared hs).sides hsides, ?_⟩
  -- The compute side is as before, or it is the one that opens a connection, which it does once.
  have hopens : (s'.gateway.compute = s₁.gateway.compute ∧
      s'.world.connections = s₁.world.connections) ∨
      (s₁.gateway.compute.Free ∧ s'.gateway.compute.Holds s₁.nextConnection ∧
        s'.world.connections = s₁.world.connections + 1) := by
    cases hsides with
    | kept compute storage count => exact .inl ⟨compute, count⟩
    | opened free held storage count => exact .inr ⟨free, held, count⟩
    | adopted via held free compute storage count => exact .inl ⟨compute, count⟩
  rcases h.opens with ⟨hsame, hcount⟩ | ⟨hfree, hheld, hcount⟩
  · have hnext : s₁.nextConnection = s.nextConnection := by
      unfold nextConnection
      rw [h.cloud, hcount]
    rwa [hsame, hcount, hnext] at hopens
  · rcases hopens with ⟨hsame', hcount'⟩ | ⟨hfree', -, -⟩
    · refine .inr ⟨hfree, ?_, hcount'.trans hcount⟩
      rw [hsame']
      exact hheld
    · cases hheld.2.symm.trans hfree'.2

theorem Steps.progress {allowed : Deed → Prop} (h : Steps ctx allowed s s') : Progress s s' := by
  induction h with
  | refl => exact .refl s
  | tail _ hstep ih => exact ih.step hstep

/-- Neither side is closed or opened by steps. -/
theorem Progress.closed (h : Progress s s') :
    s'.gateway.compute.closed = s.gateway.compute.closed := by
  rcases h.opens with ⟨hsame, -⟩ | ⟨hfree, hheld, -⟩
  · rw [hsame]
  · rw [hfree.1, hheld.1]

/-! ### Actions -/

/-- What a joint action does: it makes steps, or both sides are given a connection, or both let
go of theirs, which they are told to. -/
inductive Effect (a : Action) (s s' : Session σ) : Prop
  | progressed (h : Progress s s')
  | given (via : Connection) (unclosed : s.gateway.compute.closed = false)
      (h : s' = s.holding via)
  | released (region : Value) (final : Bool) (w : World σ) (told : a.Resets)
      (unclosed : final = false → s.gateway.compute.closed = false)
      (count : w.connections = s.world.connections)
      (h : s' = ({ s with gateway := { s.gateway with
        cloud := { s.gateway.cloud with region } } } : Session σ).releasing final w)

/-- **A joint action** makes steps, gives both sides a connection, or makes both let go. -/
theorem perform_effect (ctx : Context σ) (hs : Shared s.gateway) {a : Action} (ha : a.Joint) :
    Effect a s (a.perform ctx s) := by
  cases a with
  | operate op => exact .progressed (op.within_run ctx s).progress
  | forget address =>
    have hsteps : Steps ctx Deed.Any s ((forget address).run s).2 := within_forget address s
    exact .progressed hsteps.progress
  | connection =>
    have hsteps : Within ctx Deed.Any (do let _ ← computeConnection ctx) :=
      within_computeConnection.bind fun _ => Within.pure _
    exact .progressed (hsteps s).progress
  | storageConnection =>
    have hsteps : Within ctx Deed.Any (do let _ ← storageConnection ctx) :=
      within_storageConnection.bind fun _ => Within.pure _
    exact .progressed (hsteps s).progress
  | setConnection via =>
    rcases run_setConnection hs.closed via with ⟨hopen, hrun⟩ | ⟨f, hrun, -⟩
    · exact .given via hopen (congrArg Prod.snd hrun)
    · have hsame : Action.perform ctx (.setConnection via) s = s := congrArg Prod.snd hrun
      rw [hsame]
      exact .progressed (.refl s)
  | useTemplate name =>
    rcases run_useComputeTemplate ctx s name with hsame | ⟨region, w, hopen, hcount, hrun⟩
    · have hsame : Action.perform ctx (.useTemplate name) s = s := hsame
      rw [hsame]
      exact .progressed (.refl s)
    · exact .released region false w trivial (fun _ => hopen) hcount (congrArg Prod.snd hrun)
  | disconnect =>
    obtain ⟨w, hrun, hcount⟩ := run_disconnect ctx s
    exact .released s.gateway.cloud.region true w trivial nofun hcount (congrArg Prod.snd hrun)
  | setCompute via => exact ha.elim
  | setStorage via => exact ha.elim
  | releaseCompute final => exact ha.elim
  | releaseStorage final => exact ha.elim

namespace Effect

variable {a : Action}

/-- No joint action separates the sides. -/
theorem shared (h : Effect a s s') (hs : Shared s.gateway) : Shared s'.gateway := by
  cases h with
  | progressed h => exact h.shared hs
  | given via unclosed h =>
    rw [h]
    refine ⟨hs.closed, fun hclosed => ?_, fun _ hvia => hvia⟩
    exact absurd (hclosed.symm.trans unclosed) (by simp)
  | released region final w told unclosed count h =>
    rw [h]
    refine ⟨?_, fun _ => ⟨rfl, rfl⟩, nofun⟩
    show (s.gateway.storage.closed || final) = (s.gateway.compute.closed || final)
    rw [hs.closed]

theorem title (h : Effect a s s') : s'.gateway.cloud.title = s.gateway.cloud.title := by
  cases h with
  | progressed h => rw [h.cloud]
  | given via unclosed h => rw [h]; rfl
  | released region final w told unclosed count h => rw [h]; rfl

/-- A connection is opened only for a compute side that holds none, which holds it then. -/
theorem opens (h : Effect a s s') :
    s'.world.connections = s.world.connections ∨
      (s.gateway.compute.Free ∧ s'.gateway.compute.Holds s.nextConnection ∧
        s'.world.connections = s.world.connections + 1) := by
  cases h with
  | progressed h => exact h.opens.imp_left And.right
  | given via unclosed h => exact .inl (by rw [h]; rfl)
  | released region final w told unclosed count h => exact .inl (by rw [h]; exact count)

/-- What is closed stays closed. -/
theorem closed (h : Effect a s s') (hclosed : s.gateway.compute.closed = true) :
    s'.gateway.compute.closed = true := by
  cases h with
  | progressed h => rw [h.closed, hclosed]
  | given via unclosed h => rw [h]; exact hclosed
  | released region final w told unclosed count h =>
    rw [h]
    show (s.gateway.compute.closed || final) = true
    rw [hclosed, Bool.true_or]

/-- A compute side lets go of its connection only if it is told to. -/
theorem resets (h : Effect a s s') (hheld : s.gateway.compute.connection.isSome = true)
    (hreleased : s'.gateway.compute.connection = none) : a.Resets := by
  cases h with
  | progressed h =>
    rcases h.opens with ⟨hsame, -⟩ | ⟨-, hopened, -⟩
    · rw [← hsame, hreleased] at hheld
      cases hheld
    · cases hreleased.symm.trans hopened.2
  | given via unclosed h =>
    rw [h] at hreleased
    cases hreleased
  | released region final w told unclosed count h => exact told

end Effect

/-! ### Between two resets -/

/-- The compute side never has to let go of its connection while some actions are performed. -/
def Unbroken (ctx : Context σ) : List Action → Session σ → Prop
  | [], _ => True
  | a :: rest, s =>
    (s.gateway.compute.connection.isSome = true →
        (a.perform ctx s).gateway.compute.connection.isSome = true) ∧
      Unbroken ctx rest (a.perform ctx s)

/-- A compute side that is not free does not become so unless it lets go, and opens nothing. -/
theorem afterAll_of_not_free {actions : List Action} (hs : Shared s.gateway)
    (hactions : ∀ a ∈ actions, a.Joint) (hunbroken : Unbroken ctx actions s)
    (h : ¬s.gateway.compute.Free) :
    (s.afterAll ctx actions).world.connections = s.world.connections := by
  induction actions generalizing s with
  | nil => rfl
  | cons a rest ih =>
    have heffect := perform_effect ctx hs (hactions a List.mem_cons_self)
    have hcount : (a.perform ctx s).world.connections = s.world.connections :=
      heffect.opens.resolve_right fun hopened => h hopened.1
    have hlater : ¬(a.perform ctx s).gateway.compute.Free := by
      intro hfree
      rcases s.gateway.compute.closed_or_holds_or_free with hclosed | ⟨via, hheld⟩ | hfree'
      · exact absurd ((heffect.closed hclosed).symm.trans hfree.1) (by simp)
      · have hkept := hunbroken.1 (by rw [hheld.2]; rfl)
        rw [hfree.2] at hkept
        cases hkept
      · exact h hfree'
    rw [← hcount]
    exact ih (heffect.shared hs) (fun b hb => hactions b (List.mem_cons_of_mem a hb))
      hunbroken.2 hlater

/-- Until the compute side lets go of it, there is one connection at most. -/
theorem afterAll_opens {actions : List Action} (hs : Shared s.gateway)
    (hactions : ∀ a ∈ actions, a.Joint) (hunbroken : Unbroken ctx actions s) :
    (s.afterAll ctx actions).world.connections ≤ s.world.connections + 1 := by
  induction actions generalizing s with
  | nil => exact Nat.le_succ _
  | cons a rest ih =>
    have heffect := perform_effect ctx hs (hactions a List.mem_cons_self)
    have hshared := heffect.shared hs
    have hrest : ∀ b ∈ rest, b.Joint := fun b hb => hactions b (List.mem_cons_of_mem a hb)
    rcases heffect.opens with hcount | ⟨-, hheld, hcount⟩
    · rw [← hcount]
      exact ih hshared hrest hunbroken.2
    · rw [← hcount]
      refine Nat.le_of_eq (afterAll_of_not_free hshared hrest hunbroken.2 fun hfree => ?_)
      cases hheld.2.symm.trans hfree.2

/-! ### Sharing -/

/-- The sessions that joint actions and the steps of an operation lead to from a new one. -/
inductive Reachable (ctx : Context σ) (c : Cloud) : Session σ → Prop
  | new (w : World σ) : Reachable ctx c ⟨w, { cloud := c }⟩
  | acted {s : Session σ} (a : Action) (h : Reachable ctx c s) (joint : a.Joint) :
      Reachable ctx c (a.perform ctx s)
  | stepped {s s' : Session σ} (h : Reachable ctx c s) (step : Step ctx Deed.Any s s') :
      Reachable ctx c s'

theorem shared_of_reachable (h : Reachable ctx c s) : Shared s.gateway := by
  induction h with
  | new w => exact ⟨rfl, nofun, nofun⟩
  | acted a h joint ih => exact (perform_effect ctx ih joint).shared ih
  | stepped h step ih => exact ih.sides step.sides.2

theorem title_of_reachable (h : Reachable ctx c s) : s.gateway.cloud.title = c.title := by
  induction h with
  | new w => rfl
  | acted a h joint ih => exact (perform_effect ctx (shared_of_reachable h) joint).title.trans ih
  | stepped h step ih => rw [step.sides.1, ih]

/-- What comes of the two sides sharing a connection, at some moment of a session of a cloud. -/
structure Sharing (ctx : Context σ) (c : Cloud) (s : Session σ) : Prop where
  shared : Shared s.gateway
  /-- A connection is opened only for a compute side that holds none, and it holds it then. -/
  opens : ∀ a : Action, a.Joint →
    (a.perform ctx s).world.connections = s.world.connections ∨
      (s.gateway.compute.Free ∧ (a.perform ctx s).gateway.compute.Holds s.nextConnection ∧
        (a.perform ctx s).world.connections = s.world.connections + 1)
  /-- As long as the compute side does not let go, one connection is opened at most. -/
  once : ∀ actions : List Action, (∀ a ∈ actions, a.Joint) → Unbroken ctx actions s →
    (s.afterAll ctx actions).world.connections ≤ s.world.connections + 1
  /-- It lets go only when the session is closed or moves to another region. -/
  resets : ∀ a : Action, a.Joint → s.gateway.compute.connection.isSome = true →
    (a.perform ctx s).gateway.compute.connection = none → a.Resets
  /-- An attempt to open a connection that fails leaves both sides open and without one. -/
  failed : ∀ f s', s.gateway.compute.closed = false →
    ((computeConnection ctx).run s = (.failed f, s') ∨
      (storageConnection ctx).run s = (.failed f, s')) →
    s'.gateway.compute.Free ∧ s'.gateway.storage.Free
  /-- A given connection is used by both sides, or it is refused and nothing is changed. The cloud
  is unavailable then, which is said by its title. -/
  given : ∀ via, (setConnection via).run s = (.done (), s.holding via) ∨
    ∃ f, (setConnection via).run s = (.failed f, s) ∧
      (c.title.writable = true → f.isA .cloudUnavailable = true)

/-- An attempt to open a connection that fails leaves a session with open sides as it was, and
neither side holds anything. -/
theorem free_of_failed (hs : Shared s.gateway) (hopen : s.gateway.compute.closed = false)
    {f : Fault} (h : (computeConnection ctx).run s = (.failed f, s')) :
    s'.gateway.compute.Free ∧ s'.gateway.storage.Free := by
  rcases s.gateway.compute.closed_or_holds_or_free with hclosed | ⟨via, hheld⟩ | hfree
  · exact absurd (hopen.symm.trans hclosed) (by simp)
  · rw [computeConnection_held ctx s via hheld.1 hheld.2] at h
    cases h
  · obtain ⟨s₁, hgateway, -, ⟨hrun, -⟩ | ⟨g, hrun, -⟩⟩ :=
      computeConnection_free ctx (fun _ => True) hfree
    · rw [hrun] at h
      cases h
    · rw [hrun] at h
      cases h
      rw [hgateway]
      exact ⟨hfree, hs.storage_free hfree⟩

/-- An attempt of the storage side fails as that of the compute side. -/
theorem compute_failed_of_storage (hs : Shared s.gateway) (hopen : s.gateway.compute.closed = false)
    {f : Fault} (h : (storageConnection ctx).run s = (.failed f, s')) :
    ∃ g, (computeConnection ctx).run s = (.failed g, s') := by
  rcases s.gateway.storage.closed_or_holds_or_free with hclosed | ⟨via, hheld⟩ | hfree
  · exact absurd (hopen.symm.trans (hs.closed.symm.trans hclosed)) (by simp)
  · rw [storageConnection_held ctx s via hheld.1 hheld.2] at h
    cases h
  · rw [storageConnection_free ctx hfree] at h
    split at h
    · cases h
    · rename_i g s₁ hrun
      cases h
      exact ⟨g, hrun⟩
    · cases h

/-- **The sides share one connection** at every moment of every history of joint actions: they are
closed together, connections are opened one at a time, and neither a failed attempt nor a refused
connection sets one side apart from the other. -/
theorem sharing_of_reachable (h : Reachable ctx c s) : Sharing ctx c s := by
  have hs := shared_of_reachable h
  refine ⟨hs, ?_, ?_, ?_, ?_, ?_⟩
  · intro a ha
    exact (perform_effect ctx hs ha).opens
  · intro actions hactions hunbroken
    exact afterAll_opens hs hactions hunbroken
  · intro a ha hheld hreleased
    exact (perform_effect ctx hs ha).resets hheld hreleased
  · intro f s' hopen hfailed
    rcases hfailed with hfailed | hfailed
    · exact free_of_failed hs hopen hfailed
    · obtain ⟨g, hcompute⟩ := compute_failed_of_storage hs hopen hfailed
      exact free_of_failed hs hopen hcompute
  · intro via
    rcases run_setConnection hs.closed via with ⟨-, hrun⟩ | ⟨f, hrun, hkind⟩
    · exact .inl hrun
    · rw [title_of_reachable h] at hkind
      exact .inr ⟨f, hrun, hkind⟩

/-- To list the volumes opens a connection, and both sides hold it. -/
theorem sharing_of_listed :
    Reachable (Sandbox.context Sandbox.plainSettings) Sandbox.account
        (Action.perform (Sandbox.context Sandbox.plainSettings) (.operate .listAll)
          (Sandbox.start { clock := 0 })) ∧
      Sharing (Sandbox.context Sandbox.plainSettings) Sandbox.account
        (Action.perform (Sandbox.context Sandbox.plainSettings) (.operate .listAll)
          (Sandbox.start { clock := 0 })) ∧
      (Action.perform (Sandbox.context Sandbox.plainSettings) (.operate .listAll)
        (Sandbox.start { clock := 0 })).gateway.storage.Holds ⟨0, .driver, .text "r1"⟩ := by
  have hreachable : Reachable (Sandbox.context Sandbox.plainSettings) Sandbox.account
      (Action.perform (Sandbox.context Sandbox.plainSettings) (.operate .listAll)
        (Sandbox.start { clock := 0 })) := .acted _ (.new _) trivial
  exact ⟨hreachable, sharing_of_reachable hreachable, rfl, rfl⟩

end BlockStorage.Session
