import BlockStorage.Proofs.Attachment
import BlockStorage.Proofs.Closing

/-!
Bad input comes to light early.

What an operation is given is checked before the cloud is asked for anything (`Operation.precheck`),
and so is the name of a compute template. Only whether a volume is already attached cannot be seen
without the cloud, and then nothing is asked but which machine it is. What comes after these checks
blames no input, as long as the cloud does not speak in our words.

Statement: an action that fails because its input is bad has done nothing at all, and one that fails
because a volume is already attached has only looked for the machine (`early_of_failed`).
-/
namespace BlockStorage

variable {σ : Type} {ctx : Context σ} {s s' : Session σ} {f : Fault}

/-- A fault that blames the input came before anything was done, or, if it tells that a volume is
already attached, before anything was done but to look for the machine. -/
structure Early (before after : Session σ) (f : Fault) : Prop where
  untouched : f.isA .validation = true → f.isA .alreadyAttached = false → after = before
  looked : f.isA .alreadyAttached = true →
    Grows (Event.Within Compute.Looks) before.world.journal after.world.journal

namespace Early

theorem of_same (s : Session σ) (f : Fault) : Early s s f where
  untouched _ _ := rfl
  looked _ := .refl _

theorem of_blameless (h : f.Blameless) : Early s s' f where
  untouched hbad := absurd (hbad.symm.trans h) (by simp)
  looked hreason := absurd (hreason.symm.trans h.not_alreadyAttached) (by simp)

/-- What fails with no fault that blames the input never fails late. -/
theorem of_onlyFails {x : Run (Session σ) Unit} (h : x.OnlyFails Fault.Blameless)
    (hrun : x.run s = (.failed f, s')) : Early s s' f := of_blameless (h s f s' hrun)

end Early

/-! ### Operations -/

namespace Storage

open Session Fault

variable {id device address timeout : Value}

/-- What a guard tells is that the volume is already attached, if there are words for it. -/
theorem isA_of_alreadyAttachedFault {m : Machine}
    (hbad : ((alreadyAttachedFault id address m).translate .volumeAttachment).isA .validation =
      true) :
    ((alreadyAttachedFault id address m).translate .volumeAttachment).isA .alreadyAttached =
      true := by
  unfold alreadyAttachedFault at hbad ⊢
  by_cases hshown : ∀ v ∈ [id, m.id, address], v.writable = true
  · rw [mentioning_of_writable _ hshown]
    rfl
  · rw [mentioning_of_unwritable _ hshown] at hbad
    cases hbad

/-- After its checks, an attachment fails early if the machine has the volume. -/
theorem early_attach (halien : ctx.backend.Alien) {deadline : Float} (hgiven : Given id device)
    (hdue : Due ctx timeout s deadline)
    (hrun : (Storage.attach ctx id device address timeout).run s = (.failed f, s')) :
    Early s s' f := by
  have hfind := Compute.blameless_findMachine halien address s
  have hreach : Steps ctx Compute.Looks s ((Compute.findMachine ctx address).run s).2 :=
    Compute.within_findMachine address trivial (fun id => ⟨id, rfl⟩) s
  cases hfound : (Compute.findMachine ctx address).run s with
  | mk out s₁ =>
    rw [hfound] at hreach hfind
    cases out with
    | failed g =>
      rw [run_attach_unfound hgiven hdue hfound] at hrun
      cases hrun
      exact .of_blameless ((hfind g _ rfl).translate rfl)
    | stalled =>
      rw [run_attach_due hgiven hdue,
        Run.translating, Run.run_mapFault_stalled (Run.run_bind_stalled hfound)] at hrun
      cases hrun
    | done m =>
      cases hholds : m.holdsVolume id with
      | error g =>
        rw [run_attach_due hgiven hdue] at hrun
        have hundecided := Run.run_bind_done hfound (f := fun m => do
          if ← Run.ofExcept (m.holdsVolume id) then
            Run.fail (alreadyAttachedFault id address m)
          (requestAttach ctx m id device).wrapForeign (attachmentFault id address m)
          await ctx id .inUse deadline)
        rw [hholds] at hundecided
        rw [Run.run_translating_failed hundecided] at hrun
        cases hrun
        have hforeign := m.neverOwn_holdsVolume id g hholds
        exact .of_blameless ((Blameless.of_foreign hforeign).translate rfl)
      | ok holds =>
        cases holds with
        | true =>
          rw [run_attach_held hgiven hdue hfound hholds] at hrun
          cases hrun
          refine ⟨fun hbad hother => ?_, fun _ => Steps.journal hreach⟩
          exact absurd ((isA_of_alreadyAttachedFault hbad).symm.trans hother) (by simp)
        | false =>
          exact .of_blameless (blameless_attach halien.toForeign ⟨hgiven, hdue, hfound, hholds⟩ hrun)

theorem blameless_detach (halien : ctx.backend.Alien) {deadline : Float}
    (hdue : Due ctx timeout s deadline)
    (hrun : (detach ctx id address timeout).run s = (.failed f, s')) : f.Blameless := by
  rw [run_detach_due hdue] at hrun
  refine Run.OnlyFails.mapFault ?_ (fun _ hf => hf.translate rfl) _ _ _ hrun
  refine (Compute.blameless_findMachine halien address).bind fun m => ?_
  refine (blameless_listAttached halien.toForeign m).bind fun attached => ?_
  have hrest : (do
      (requestDetach ctx id m).wrapForeign (detachmentFault id address m)
      await ctx id .available deadline : Run (Session σ) Unit).OnlyFails Blameless := by
    refine Run.OnlyFails.bind (.wrapForeign ?_ fun _ => .mentioning (.because rfl) _) fun _ => ?_
    · exact blameless_requestDetach halien.toForeign id m
    · exact blameless_await halien.toForeign id .available deadline
  dsimp only
  split
  · exact (Run.OnlyFails.fail (.mentioning (.because rfl) _)).bind fun _ => hrest
  · exact hrest

theorem blameless_delete (hforeign : ctx.backend.Foreign) {location : Value} {deadline : Float}
    (hdue : Due ctx timeout s deadline)
    (hrun : (delete ctx location id timeout).run s = (.failed f, s')) : f.Blameless := by
  unfold delete at hrun
  rw [Run.run_bind_done hdue.run] at hrun
  refine Run.OnlyFails.bind ?_ (fun _ => ?_) _ _ _ hrun
  · exact (blameless_askStorage hforeign _).wrapForeign fun _ => .mentioning (.because rfl) _
  · intro s f s' hrun
    rw [Run.run_catching] at hrun
    split at hrun
    · rename_i g s₁ hg
      split at hrun
      · cases hrun
      · cases hrun
        exact blameless_await hforeign id .deleting deadline _ _ _ hg
    · exact blameless_await hforeign id .deleting deadline _ _ _ hrun

end Storage

namespace Operation

open Storage

/-- Checks that are passed are each passed. -/
theorem passed_of_bind {α : Type} {e : Except Fault α} {rest : α → Except Fault Unit}
    (h : (e >>= rest) = .ok ()) : ∃ a, e = .ok a ∧ rest a = .ok () := by
  cases e with
  | error g => cases h
  | ok a => exact ⟨a, rfl, h⟩

theorem due_of_precheck {timeout : Value} {rest : Except Fault Unit}
    (h : (do
      let _ ← Deadline.after (ctx.backend.now s.world.cloud) ctx.settings.operationTimeout timeout
      rest) = .ok ()) : ∃ deadline, Due ctx timeout s deadline :=
  (passed_of_bind h).imp fun _ hdue => hdue.1

/-- An attachment that passes its checks was given what it must be given. -/
theorem given_of_precheck {id device address timeout : Value}
    (h : (attach id device address timeout).precheck ctx s = .ok ()) :
    Given id device ∧ ∃ deadline, Due ctx timeout s deadline := by
  obtain ⟨_, hid, h⟩ := passed_of_bind h
  obtain ⟨_, hdevice, h⟩ := passed_of_bind h
  exact ⟨⟨truthy_of_require hid, truthy_of_require hdevice⟩, due_of_precheck h⟩

/-- An operation that fails for its input fails early: it does not pass its checks, or all that it
did was to look for a machine. -/
theorem fails_early (halien : ctx.backend.Alien) {op : Operation}
    (hrun : (op.run ctx).run s = (.failed f, s')) : Early s s' f := by
  cases hcheck : op.precheck ctx s with
  | error g =>
    rw [run_of_unchecked hcheck] at hrun
    cases hrun
    exact .of_same s _
  | ok _ =>
    cases op with
    | create template location timeout =>
      simp only [precheck] at hcheck
      cases horder : order ctx.settings s.gateway.cloud (ctx.backend.now s.world.cloud) template
          location timeout with
      | error g =>
        rw [horder] at hcheck
        cases hcheck
      | ok o =>
        have hfailed := Run.failed_of_dropped hrun
        rw [run_create horder] at hfailed
        exact .of_blameless (blameless_provision halien.toForeign o _ _ _ hfailed)
    | attach id device address timeout =>
      obtain ⟨hgiven, deadline, hdue⟩ := given_of_precheck hcheck
      exact early_attach halien hgiven hdue hrun
    | detach id address timeout =>
      obtain ⟨deadline, hdue⟩ := due_of_precheck hcheck
      exact .of_blameless (blameless_detach halien hdue hrun)
    | delete location id timeout =>
      obtain ⟨deadline, hdue⟩ := due_of_precheck hcheck
      exact .of_blameless (blameless_delete halien.toForeign hdue hrun)
    | list address => exact .of_onlyFails ((blameless_list halien address).bind fun _ => .pure _) hrun
    | listAll =>
      exact .of_onlyFails ((blameless_listAll halien.toForeign).bind fun _ => .pure _) hrun
    | status id =>
      exact .of_onlyFails ((blameless_status halien.toForeign id).bind fun _ => .pure _) hrun
    | name id =>
      exact .of_onlyFails ((blameless_volumeName halien.toForeign id).bind fun _ => .pure _) hrun
    | volumeIds address =>
      exact .of_onlyFails ((Compute.blameless_volumeIds halien address).bind fun _ => .pure _) hrun
    | machines =>
      exact .of_onlyFails ((Compute.blameless_listMachines halien).bind fun _ => .pure _) hrun
    | find address =>
      exact .of_onlyFails ((Compute.blameless_findMachine halien address).bind fun _ => .pure _) hrun
    | check =>
      exact .of_onlyFails ((Compute.blameless_listMachines halien).bind fun _ => .pure _) hrun

end Operation

/-! ### Actions -/

namespace Session

open Fault

theorem blameless_checkFits (expects : Option String) (via : Connection) :
    (Run.ofExcept (checkFits expects via) : Run (Session σ) Unit).OnlyFails Blameless := by
  refine .ofExcept fun f hf => ?_
  unfold checkFits at hf
  split at hf
  · split at hf
    · cases hf
      rfl
    · cases hf
  · cases hf

theorem blameless_setComputeConnection (via : Connection) :
    (setComputeConnection via : Run (Session σ) Unit).OnlyFails Blameless := by
  refine blameless_current.bind fun g => (blameless_checkFits _ via).bind fun _ => ?_
  split
  · exact .fail (blameless_closedFault g.cloud)
  · exact .modify _

theorem blameless_setStorageConnection (via : Connection) :
    (setStorageConnection via : Run (Session σ) Unit).OnlyFails Blameless := by
  refine blameless_current.bind fun g => (blameless_checkFits _ via).bind fun _ => ?_
  split
  · exact .fail (blameless_closedFault g.cloud)
  · exact .modify _

end Session

namespace Action

open Session Storage

/-- **Bad input is found out before anything is done**, by any action in any session, if the cloud
does not speak in our words. That a volume is already attached is found out by looking for the
machine alone. -/
theorem early_of_failed (halien : ctx.backend.Alien) (a : Action)
    (hrun : (a.run ctx).run s = (.failed f, s')) : Early s s' f := by
  cases a with
  | operate op => exact Operation.fails_early halien hrun
  | forget address => exact .of_onlyFails (blameless_forget address) hrun
  | connection =>
    have hconnection := blameless_computeConnection halien.toForeign
    exact .of_onlyFails (hconnection.bind fun _ => .pure _) hrun
  | storageConnection =>
    have hconnection := blameless_storageConnection halien.toForeign
    exact .of_onlyFails (hconnection.bind fun _ => .pure _) hrun
  | setConnection via =>
    have hcompute := blameless_setComputeConnection (σ := σ) via
    exact .of_onlyFails (hcompute.bind fun _ => blameless_setStorageConnection via) hrun
  | setCompute via => exact .of_onlyFails (blameless_setComputeConnection via) hrun
  | setStorage via => exact .of_onlyFails (blameless_setStorageConnection via) hrun
  | useTemplate name =>
    rcases run_useComputeTemplate ctx s name with hsame | ⟨region, w, -, -, hdone⟩
    · have hsame : s' = s := (congrArg Prod.snd hrun).symm.trans hsame
      rw [hsame]
      exact .of_same s f
    · cases hrun.symm.trans hdone
  -- The others cannot fail.
  | disconnect =>
    obtain ⟨w, hdone, -⟩ := run_disconnect ctx s
    cases hrun.symm.trans hdone
  | releaseCompute final =>
    obtain ⟨w, hdone, -⟩ := run_releaseCompute ctx final s
    cases hrun.symm.trans hdone
  | releaseStorage final =>
    obtain ⟨w, hdone, -⟩ := run_releaseStorage ctx final s
    cases hrun.symm.trans hdone

theorem alien_still : still.Alien where
  toForeign := foreign_still
  listed _ _ nodes h i hi := by
    cases h
    rw [List.mem_singleton.1 hi]
    exact .ok _
  described _ _ _ nodes h i hi := by
    cases h
    rw [List.mem_singleton.1 (List.mem_filter.1 hi).1]
    exact .ok _

/-- One of the machine's volumes is not attached again, and one of a size that is not offered is not
created. -/
theorem early_of_failed_still :
    stillContext.backend.Alien ∧
    (∃ f s', (Action.run stillContext (.operate (.attach (.text "va") (.text "/dev/sdf")
        (.text "10.0.0.1") (.int 5)))).run stillStart = (.failed f, s') ∧
      f.isA .alreadyAttached = true ∧ Early stillStart s' f) ∧
    ∃ f s', (Action.run stillContext (.operate (.create (.text "large") (.text "z1")
        (.int 5)))).run stillStart = (.failed f, s') ∧
      f.isA .storageTemplateNotFound = true ∧ Early stillStart s' f := by
  have hattach : ∃ f s', (Action.run stillContext (.operate (.attach (.text "va")
      (.text "/dev/sdf") (.text "10.0.0.1") (.int 5)))).run stillStart = (.failed f, s') ∧
      f.isA .alreadyAttached = true := ⟨_, _, rfl, rfl⟩
  have hcreate : ∃ f s', (Action.run stillContext (.operate (.create (.text "large")
      (.text "z1") (.int 5)))).run stillStart = (.failed f, s') ∧
      f.isA .storageTemplateNotFound = true := ⟨_, _, rfl, rfl⟩
  obtain ⟨f, s₁, hattach, hattached⟩ := hattach
  obtain ⟨g, s₂, hcreate, hunknown⟩ := hcreate
  exact ⟨alien_still, ⟨f, s₁, hattach, hattached, early_of_failed alien_still _ hattach⟩,
    g, s₂, hcreate, hunknown, early_of_failed alien_still _ hcreate⟩

end Action

end BlockStorage
