import BlockStorage.Proofs.Timeouts

/-!
Attaching and detaching, up to the request.

Before a volume is asked to be attached or detached, the deadline is set, the machine is looked for,
and what it has is looked at: in its description, for an attachment, and among the volumes of the
region, for a detachment. `Attaching` and `Detaching` say that nothing stands in the way. There is
one lemma for every way in which an operation ends before its request, and one that says what is
left of it if it comes so far.
-/
namespace BlockStorage

namespace Storage

open Session

variable {σ : Type} {ctx : Context σ} {s s' s₁ s₂ : Session σ} {id device address timeout : Value}
  {deadline : Float} {m : Machine} {f : Fault}

/-- There is a deadline for an operation that starts now. -/
def Due (ctx : Context σ) (timeout : Value) (s : Session σ) (deadline : Float) : Prop :=
  Deadline.after (ctx.backend.now s.world.cloud) ctx.settings.operationTimeout timeout =
    .ok deadline

theorem Due.run (h : Due ctx timeout s deadline) :
    (Storage.deadline ctx timeout).run s = (.done deadline, s) := by
  rw [run_deadline, h]
  rfl

/-- What an attachment must be given is given. -/
def Given (id device : Value) : Prop := id.truthy = true ∧ device.truthy = true

/-- An attachment comes to its request. -/
structure Attaching (ctx : Context σ) (id device address timeout : Value) (s : Session σ)
    (deadline : Float) (m : Machine) (s₁ : Session σ) : Prop where
  given : Given id device
  due : Due ctx timeout s deadline
  found : (Compute.findMachine ctx address).run s = (.done m, s₁)
  apart : m.holdsVolume id = .ok false

/-- A detachment comes to its request. -/
structure Detaching (ctx : Context σ) (id address timeout : Value) (s : Session σ)
    (deadline : Float) (m : Machine) (s₁ : Session σ) (volumes : List Volume) (s₂ : Session σ) :
    Prop where
  due : Due ctx timeout s deadline
  found : (Compute.findMachine ctx address).run s = (.done m, s₁)
  listed : (listAttached ctx m).run s₁ = (.done volumes, s₂)
  held : Value.mem id (volumes.map (·.id)) = true

/-! ### Attaching -/

/-- The operation, once the machine can be looked for. -/
theorem run_attach_due (hgiven : Given id device) (hdue : Due ctx timeout s deadline) :
    (attach ctx id device address timeout).run s = (Run.translating .volumeAttachment do
      let m ← Compute.findMachine ctx address
      if ← Run.ofExcept (m.holdsVolume id) then
        Run.fail (alreadyAttachedFault id address m)
      (requestAttach ctx m id device).wrapForeign (attachmentFault id address m)
      await ctx id .inUse deadline).run s := by
  refine Run.run_mapFault_eq ?_
  simp only [require, hgiven.1, hgiven.2, if_true, Run.ofExcept_ok, pure_bind]
  exact Run.run_bind_done hdue.run

theorem run_attach_unfound (hgiven : Given id device) (hdue : Due ctx timeout s deadline)
    (hfind : (Compute.findMachine ctx address).run s = (.failed f, s')) :
    (attach ctx id device address timeout).run s =
      (.failed (f.translate .volumeAttachment), s') := by
  rw [run_attach_due hgiven hdue]
  exact Run.run_translating_failed (Run.run_bind_failed hfind)

theorem run_attach_held (hgiven : Given id device) (hdue : Due ctx timeout s deadline)
    (hfind : (Compute.findMachine ctx address).run s = (.done m, s₁))
    (hheld : m.holdsVolume id = .ok true) :
    (attach ctx id device address timeout).run s =
      (.failed ((alreadyAttachedFault id address m).translate .volumeAttachment), s₁) := by
  rw [run_attach_due hgiven hdue]
  refine Run.run_translating_failed ((Run.run_bind_done hfind).trans ?_)
  rw [hheld]
  rfl

/-- What is left of an attachment that comes to its request. -/
theorem run_attach_apart (h : Attaching ctx id device address timeout s deadline m s₁) :
    (attach ctx id device address timeout).run s = (Run.translating .volumeAttachment do
      (requestAttach ctx m id device).wrapForeign (attachmentFault id address m)
      await ctx id .inUse deadline).run s₁ := by
  rw [run_attach_due h.given h.due]
  refine Run.run_mapFault_eq ((Run.run_bind_done h.found).trans ?_)
  rw [h.apart]
  rfl

theorem truthy_of_require {name : String} {v : Value} {u : Unit} (h : require name v = .ok u) :
    v.truthy = true := by
  unfold require at h
  split at h
  · assumption
  · cases h

theorem due_of_done {α : Type} {f : Float → Run (Session σ) α} {a : α}
    (h : (Storage.deadline ctx timeout >>= f).run s = (.done a, s')) :
    ∃ deadline, Due ctx timeout s deadline ∧ (f deadline).run s = (.done a, s') := by
  rw [deadline, bind_assoc, Run.run_bind_done (run_now ctx s)] at h
  exact Run.done_of_run_ofExcept_bind h

/-- An attachment with a result came to its request, made it and waited. -/
theorem attaching_of_done (h : (attach ctx id device address timeout).run s = (.done (), s')) :
    ∃ deadline m s₁ s₂, Attaching ctx id device address timeout s deadline m s₁ ∧
      (requestAttach ctx m id device).run s₁ = (.done (), s₂) ∧
      (await ctx id .inUse deadline).run s₂ = (.done (), s') := by
  have hdone := Run.run_mapFault_done_iff.1 h
  obtain ⟨_, hid, hdone⟩ := Run.done_of_run_ofExcept_bind hdone
  obtain ⟨_, hdevice, hdone⟩ := Run.done_of_run_ofExcept_bind hdone
  obtain ⟨deadline, hdue, hdone⟩ := due_of_done hdone
  obtain ⟨m, s₁, hfound, hdone⟩ := Run.done_of_run_bind hdone
  obtain ⟨held, hheld, hdone⟩ := Run.done_of_run_ofExcept_bind hdone
  cases held with
  | true => cases hdone
  | false =>
    obtain ⟨_, s₂, hrequest, hwait⟩ := Run.done_of_run_bind hdone
    refine ⟨deadline, m, s₁, s₂, ?_, Run.run_mapFault_done_iff.1 hrequest, hwait⟩
    exact ⟨⟨truthy_of_require hid, truthy_of_require hdevice⟩, hdue, hfound, hheld⟩

/-! ### Detaching -/

/-- The operation, once the machine can be looked for. -/
theorem run_detach_due (hdue : Due ctx timeout s deadline) :
    (detach ctx id address timeout).run s = (Run.translating .volumeDetachment do
      let m ← Compute.findMachine ctx address
      let attached ← listAttached ctx m
      if !Value.mem id (attached.map (·.id)) then
        Run.fail (notAttachedFault id address)
      (requestDetach ctx id m).wrapForeign (detachmentFault id address m)
      await ctx id .available deadline).run s :=
  Run.run_mapFault_eq (Run.run_bind_done hdue.run)

theorem run_detach_unfound (hdue : Due ctx timeout s deadline)
    (hfind : (Compute.findMachine ctx address).run s = (.failed f, s')) :
    (detach ctx id address timeout).run s = (.failed (f.translate .volumeDetachment), s') := by
  rw [run_detach_due hdue]
  exact Run.run_translating_failed (Run.run_bind_failed hfind)

theorem run_detach_unlisted (hdue : Due ctx timeout s deadline)
    (hfind : (Compute.findMachine ctx address).run s = (.done m, s₁))
    (hlist : (listAttached ctx m).run s₁ = (.failed f, s')) :
    (detach ctx id address timeout).run s = (.failed (f.translate .volumeDetachment), s') := by
  rw [run_detach_due hdue]
  refine Run.run_translating_failed ((Run.run_bind_done hfind).trans ?_)
  exact Run.run_bind_failed hlist

theorem run_detach_absent (hdue : Due ctx timeout s deadline)
    (hfind : (Compute.findMachine ctx address).run s = (.done m, s₁)) {volumes : List Volume}
    (hlist : (listAttached ctx m).run s₁ = (.done volumes, s₂))
    (habsent : Value.mem id (volumes.map (·.id)) = false) :
    (detach ctx id address timeout).run s =
      (.failed ((notAttachedFault id address).translate .volumeDetachment), s₂) := by
  rw [run_detach_due hdue]
  refine Run.run_translating_failed ((Run.run_bind_done hfind).trans ?_)
  rw [Run.run_bind_done hlist, habsent]
  rfl

/-- What is left of a detachment that comes to its request. -/
theorem run_detach_present {volumes : List Volume}
    (h : Detaching ctx id address timeout s deadline m s₁ volumes s₂) :
    (detach ctx id address timeout).run s = (Run.translating .volumeDetachment do
      (requestDetach ctx id m).wrapForeign (detachmentFault id address m)
      await ctx id .available deadline).run s₂ := by
  rw [run_detach_due h.due]
  refine Run.run_mapFault_eq ((Run.run_bind_done h.found).trans ?_)
  rw [Run.run_bind_done h.listed, h.held]
  rfl

/-- A detachment with a result came to its request, made it and waited. -/
theorem detaching_of_done (h : (detach ctx id address timeout).run s = (.done (), s')) :
    ∃ deadline m s₁ volumes s₂ s₃,
      Detaching ctx id address timeout s deadline m s₁ volumes s₂ ∧
      (requestDetach ctx id m).run s₂ = (.done (), s₃) ∧
      (await ctx id .available deadline).run s₃ = (.done (), s') := by
  have hdone := Run.run_mapFault_done_iff.1 h
  obtain ⟨deadline, hdue, hdone⟩ := due_of_done hdone
  obtain ⟨m, s₁, hfound, hdone⟩ := Run.done_of_run_bind hdone
  obtain ⟨volumes, s₂, hlisted, hdone⟩ := Run.done_of_run_bind hdone
  cases hheld : Value.mem id (volumes.map (·.id)) with
  | false =>
    rw [hheld] at hdone
    cases hdone
  | true =>
    rw [hheld] at hdone
    obtain ⟨_, s₃, hrequest, hwait⟩ := Run.done_of_run_bind hdone
    exact ⟨deadline, m, s₁, volumes, s₂, s₃, ⟨hdue, hfound, hlisted, hheld⟩,
      Run.run_mapFault_done_iff.1 hrequest, hwait⟩

end Storage

end BlockStorage
