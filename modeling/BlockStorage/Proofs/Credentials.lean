import BlockStorage.Proofs.Attaching
import BlockStorage.Proofs.LookupFaults
import BlockStorage.Proofs.Operations
import BlockStorage.Proofs.Waiting

/-!
Refused credentials.

Five operations report refused credentials as such, by a handler around the whole operation. Most of
their requests are made inside another handler, which is nearer and takes every foreign fault for a
failed listing, attachment or detachment, so that the outer one gets a fault of our own and lets it
pass. Only the listing of all machines and the status queries have no handler of that kind.

`Denied` says at which request an operation is denied, and `Stage.report` what becomes of that.

Statement: an operation that is denied fails with what is reported of the stage, which tells of the
refused credentials exactly at the stages that are translated (`unauthorized_iff_translated`). That
there are others is no theory: to list the volumes is to be denied in other words
(`listAll_misreported`).
-/
namespace BlockStorage

namespace Fault

/-- The fault is that of a cloud that refuses the credentials. -/
def Refusal (g : Fault) : Prop := ∃ text, g = .foreign .invalidCredentials text

/-- The fault tells that the cloud refused the credentials, and by which fault it did. -/
def Unauthorized (f g : Fault) : Prop := f.isA .cloudUnauthorized = true ∧ f.cause? = some g

theorem Refusal.translate {g : Fault} (hg : g.Refusal) (kind : Kind) :
    g.translate kind = .wrapping .cloudUnauthorized g := by
  obtain ⟨text, rfl⟩ := hg
  rfl

theorem Refusal.foreign {g : Fault} (hg : g.Refusal) : g.isOwn = false := by
  obtain ⟨text, rfl⟩ := hg
  rfl

/-- A fault of our own that cannot be written becomes one of the kind that is asked for, and so is
of no other. -/
theorem isA_translate_mentioning {shown : List Value} {kind k : Kind} (f : Fault)
    (hown : f.isOwn = true) (hkind : f.isA k = kind.isA k) :
    ((mentioning shown f).translate kind).isA k = kind.isA k := by
  by_cases h : ∀ v ∈ shown, v.writable = true
  · rwa [mentioning_of_writable f h, translate_own kind hown]
  · rw [mentioning_of_unwritable f h]
    rfl

end Fault

namespace Storage

open Session

variable {σ : Type} {ctx : Context σ} {s s' s₁ s₂ : Session σ} {id : Value} {deadline : Float}
  {g : Fault}

/-! ### Waits -/

/-- The wait comes to a status query that is denied. -/
inductive WaitDenied (ctx : Context σ) (id : Value) (wanted : Status) (deadline : Float)
    (g : Fault) (s' : Session σ) : Nat → Session σ → Prop
  | now {patience : Nat} {s : Session σ} (due : (watch ctx).now s < deadline)
      (h : (describeDisks ctx [id]).run s = (.failed g, s')) :
      WaitDenied ctx id wanted deadline g s' (patience + 1) s
  | later {patience : Nat} {s s₁ s₂ : Session σ} {seen : Value}
      (due : (watch ctx).now s < deadline)
      (hseen : (status ctx id).run s = (.done seen, s₁))
      (hother : ¬seen.equal wanted.toValue = true)
      (hpause : (sleep ctx ctx.settings.pollInterval).run s₁ = (.done (), s₂))
      (h : WaitDenied ctx id wanted deadline g s' patience s₂) :
      WaitDenied ctx id wanted deadline g s' (patience + 1) s

/-- A status query that is denied says so. -/
theorem run_status_denied (hg : g.Refusal)
    (h : (describeDisks ctx [id]).run s = (.failed g, s')) :
    (status ctx id).run s = (.failed (.wrapping .cloudUnauthorized g), s') := by
  have hquery : (describeDisk ctx id).run s = (.failed g, s') := Run.run_bind_failed h
  rw [← hg.translate .statusQuery]
  exact Run.run_translating_failed (Run.run_bind_failed hquery)

/-- So does a wait, whichever query it is. -/
theorem run_wait_denied (hg : g.Refusal) {wanted : Status} {patience : Nat}
    (h : WaitDenied ctx id wanted deadline g s' patience s) (last : Value) :
    ((watch ctx).await id wanted.toValue ctx.settings.pollInterval deadline patience last).run s =
      (.failed (.wrapping .cloudUnauthorized g), s') := by
  induction h generalizing last with
  | @now patience s due h =>
    unfold Watch.await
    rw [Run.run_bind_done (Run.run_get s), if_pos due]
    exact Run.run_bind_failed (Run.run_wrapForeign_own rfl (run_status_denied hg h))
  | later due hseen hother hpause _ ih =>
    rw [Watch.await_again due hseen hother hpause]
    exact ih _

theorem run_await_denied (hg : g.Refusal) {wanted : Status}
    (h : WaitDenied ctx id wanted deadline g s' ctx.patience s) :
    (await ctx id wanted deadline).run s = (.failed (.wrapping .cloudUnauthorized g), s') :=
  Run.run_bind_failed (run_wait_denied hg h .null)

/-! ### Stages -/

/-- The request at which an operation is denied: machines are listed, all of them or to find one,
volumes are listed, a volume is asked to be attached to or detached from a machine, or its status
is queried. -/
inductive Stage where
  | machines
  | lookUp
  | volumes
  | attachment (id address : Value) (m : Machine)
  | detachment (id address : Value) (m : Machine)
  | query

namespace Stage

/-- No handler is nearer than that around the operation. -/
def Translated : Stage → Prop
  | machines | query => True
  | _ => False

/-- The kind of fault that is reported. -/
def kind : Stage → Fault.Kind
  | machines | query => .cloudUnauthorized
  | lookUp => .machineListing
  | volumes => .volumeListing
  | attachment .. => .volumeAttachment
  | detachment .. => .volumeDetachment

/-- What is reported of a fault at the stage. -/
def report (g : Fault) : Stage → Fault
  | machines | query => .wrapping .cloudUnauthorized g
  | lookUp => Compute.listingFault g
  | volumes => volumeListingFault g
  | attachment id address m => (attachmentFault id address m g).translate .volumeAttachment
  | detachment id address m => (detachmentFault id address m g).translate .volumeDetachment

/-- What the report shows can be written. -/
def Sayable : Stage → Prop
  | attachment id _ m | detachment id _ m => id.writable = true ∧ m.id.writable = true
  | _ => True

theorem isA_report (stage : Stage) (g : Fault) (k : Fault.Kind) :
    (stage.report g).isA k = stage.kind.isA k := by
  cases stage with
  | attachment id address m | detachment id address m =>
    exact Fault.isA_translate_mentioning _ rfl rfl
  | machines | lookUp | volumes | query => rfl

theorem cause_report {stage : Stage} (h : stage.Sayable) (g : Fault) :
    (stage.report g).cause? = some g := by
  have hwritable : ∀ id machine : Value, id.writable = true ∧ machine.writable = true →
      ∀ v ∈ [id, machine], v.writable = true := fun id machine h => by simpa using h
  cases stage with
  | attachment id address m =>
    show ((Fault.mentioning [id, m.id] _).translate _).cause? = some g
    rw [Fault.mentioning_of_writable _ (hwritable _ _ h)]
    rfl
  | detachment id address m =>
    show ((Fault.mentioning [id, m.id] _).translate _).cause? = some g
    rw [Fault.mentioning_of_writable _ (hwritable _ _ h)]
    rfl
  | machines | lookUp | volumes | query => rfl

/-- The stages that are translated are those at which the report is what it should be. -/
theorem unauthorized_report_iff (stage : Stage) (g : Fault) :
    (stage.report g).Unauthorized g ↔ stage.Translated := by
  constructor
  · rintro ⟨hkind, -⟩
    rw [isA_report] at hkind
    cases stage with
    | machines | query => trivial
    | _ => exact absurd hkind Bool.false_ne_true
  · intro h
    cases stage with
    | machines | query => exact ⟨rfl, rfl⟩
    | _ => exact h.elim

end Stage

/-! ### Operations -/

/-- The operation comes to a request that the cloud denies with a fault, and that is its last. -/
inductive Denied (ctx : Context σ) (g : Fault) (s s' : Session σ) : Operation → Stage → Prop
  | machines (h : (Compute.fetchInstances ctx).run s = (.failed g, s')) :
      Denied ctx g s s' .machines .machines
  | listAll (h : (describeDisks ctx []).run s = (.failed g, s')) :
      Denied ctx g s s' .listAll .volumes
  | status {id : Value} (h : (describeDisks ctx [id]).run s = (.failed g, s')) :
      Denied ctx g s s' (.status id) .query
  | attachLookUp {id device address timeout : Value} {deadline : Float} {s₁ : Session σ}
      (given : Given id device) (due : Due ctx timeout s deadline)
      (unanswered : Compute.Unanswered ctx address s s₁)
      (h : (Compute.fetchInstances ctx).run s₁ = (.failed g, s')) :
      Denied ctx g s s' (.attach id device address timeout) .lookUp
  | attachRequest {id device address timeout : Value} {deadline : Float} {m : Machine}
      {s₁ : Session σ} (attaching : Attaching ctx id device address timeout s deadline m s₁)
      (h : (requestAttach ctx m id device).run s₁ = (.failed g, s')) :
      Denied ctx g s s' (.attach id device address timeout) (.attachment id address m)
  | attachQuery {id device address timeout : Value} {deadline : Float} {m : Machine}
      {s₁ s₂ : Session σ} (attaching : Attaching ctx id device address timeout s deadline m s₁)
      (attached : (requestAttach ctx m id device).run s₁ = (.done (), s₂))
      (h : WaitDenied ctx id .inUse deadline g s' ctx.patience s₂) :
      Denied ctx g s s' (.attach id device address timeout) .query
  | detachLookUp {id address timeout : Value} {deadline : Float} {s₁ : Session σ}
      (due : Due ctx timeout s deadline) (unanswered : Compute.Unanswered ctx address s s₁)
      (h : (Compute.fetchInstances ctx).run s₁ = (.failed g, s')) :
      Denied ctx g s s' (.detach id address timeout) .lookUp
  | detachListing {id address timeout : Value} {deadline : Float} {m : Machine}
      {ids : List Value} {s₁ : Session σ} (due : Due ctx timeout s deadline)
      (found : (Compute.findMachine ctx address).run s = (.done m, s₁))
      (attached : m.attachedVolumes = .ok ids)
      (h : (describeDisks ctx []).run s₁ = (.failed g, s')) :
      Denied ctx g s s' (.detach id address timeout) .volumes
  | detachRequest {id address timeout : Value} {deadline : Float} {m : Machine}
      {volumes : List Volume} {s₁ s₂ : Session σ}
      (detaching : Detaching ctx id address timeout s deadline m s₁ volumes s₂)
      (h : (requestDetach ctx id m).run s₂ = (.failed g, s')) :
      Denied ctx g s s' (.detach id address timeout) (.detachment id address m)
  | detachQuery {id address timeout : Value} {deadline : Float} {m : Machine}
      {volumes : List Volume} {s₁ s₂ s₃ : Session σ}
      (detaching : Detaching ctx id address timeout s deadline m s₁ volumes s₂)
      (detached : (requestDetach ctx id m).run s₂ = (.done (), s₃))
      (h : WaitDenied ctx id .available deadline g s' ctx.patience s₃) :
      Denied ctx g s s' (.detach id address timeout) .query

theorem run_wrapForeign_refusal {α : Type} (hg : g.Refusal) {wrap : Fault → Fault}
    {x : Run (Session σ) α} (h : x.run s = (.failed g, s')) :
    (x.wrapForeign wrap).run s = (.failed (wrap g), s') := by
  rw [Run.run_wrapForeign_failed h, hg.foreign, if_neg Bool.false_ne_true]

/-- A look-up that is denied is a failed listing. -/
theorem run_findMachine_denied (hg : g.Refusal) {address : Value}
    (unanswered : Compute.Unanswered ctx address s s₁)
    (h : (Compute.fetchInstances ctx).run s₁ = (.failed g, s')) :
    (Compute.findMachine ctx address).run s = (.failed (Compute.listingFault g), s') := by
  have hfails : Compute.ScanFails ctx address s₁ s' _ := .unlisted h
  rw [hg.foreign, if_neg Bool.false_ne_true] at hfails
  exact Compute.run_findMachine_failed_iff.2 (.inr ⟨s₁, unanswered, hfails⟩)

/-- A listing that is denied is a failed listing. -/
theorem run_listAll_denied (hg : g.Refusal)
    (h : (describeDisks ctx []).run s = (.failed g, s')) :
    (listAll ctx).run s = (.failed (volumeListingFault g), s') := by
  exact Run.run_translating_own rfl (Run.run_bind_failed (run_wrapForeign_refusal hg h))

/-- **What a denied operation reports.** -/
theorem run_denied (hg : g.Refusal) {op : Operation} {stage : Stage}
    (h : Denied ctx g s s' op stage) : (op.run ctx).run s = (.failed (stage.report g), s') := by
  cases h with
  | machines h =>
    have hlist : (Compute.listMachines ctx).run s =
        (.failed (.wrapping .cloudUnauthorized g), s') := by
      rw [← hg.translate .machineListing]
      exact Run.run_translating_failed (Run.run_bind_failed h)
    exact Run.run_bind_failed hlist
  | listAll h => exact Run.run_bind_failed (run_listAll_denied hg h)
  | status h => exact Run.run_bind_failed (run_status_denied hg h)
  | attachLookUp given due unanswered h =>
    exact run_attach_unfound given due (run_findMachine_denied hg unanswered h)
  | attachRequest attaching h =>
    refine (run_attach_apart attaching).trans (Run.run_translating_failed ?_)
    exact Run.run_bind_failed (run_wrapForeign_refusal hg h)
  | attachQuery attaching attached h =>
    refine (run_attach_apart attaching).trans (Run.run_translating_own rfl ?_)
    rw [Run.run_bind_done (Run.run_wrapForeign_done attached)]
    exact run_await_denied hg h
  | detachLookUp due unanswered h =>
    exact run_detach_unfound due (run_findMachine_denied hg unanswered h)
  | @detachListing id address timeout deadline m ids s₁ due found attached h =>
    have hlist : (listAttached ctx m).run s₁ = (.failed (volumeListingFault g), s') := by
      unfold listAttached
      rw [attached, Run.ofExcept_ok, pure_bind]
      exact Run.run_bind_failed (run_listAll_denied hg h)
    exact run_detach_unlisted due found hlist
  | detachRequest detaching h =>
    refine (run_detach_present detaching).trans (Run.run_translating_failed ?_)
    exact Run.run_bind_failed (run_wrapForeign_refusal hg h)
  | detachQuery detaching detached h =>
    refine (run_detach_present detaching).trans (Run.run_translating_own rfl ?_)
    rw [Run.run_bind_done (Run.run_wrapForeign_done detached)]
    exact run_await_denied hg h

/-- **Refused credentials are told of exactly where no handler is nearer than the one that does.** A
denied operation fails with a fault of the kind that its stage has; that tells of the refusal if the
stage is translated and not otherwise. The refusal is its cause, unless the words of the fault
cannot be written. -/
theorem unauthorized_iff_translated (hg : g.Refusal) {op : Operation} {stage : Stage}
    (h : Denied ctx g s s' op stage) :
    ∃ f, (op.run ctx).run s = (.failed f, s') ∧ (f.Unauthorized g ↔ stage.Translated) ∧
      f.isA stage.kind = true ∧ (stage.Sayable → f.cause? = some g) := by
  refine ⟨stage.report g, run_denied hg h, stage.unauthorized_report_iff g, ?_, fun hsay => ?_⟩
  · rw [stage.isA_report]
    exact Fault.Kind.isA_refl _
  · exact Stage.cause_report hsay g

/-- The fault of a driver whose key is refused. -/
def badKey : Fault := .foreign .invalidCredentials (some "bad key")

theorem refusal_badKey : badKey.Refusal := ⟨_, rfl⟩

/-- A session that holds a connection to a cloud that refuses the key when it is asked for some
things. -/
def keyless (m : Sandbox.Method) : Session Sandbox :=
  (Sandbox.start { clock := 0, troubles := [(m, ⟨badKey, 0, none⟩)] }).holding
    ⟨0, .driver, .text "r1"⟩

/-- To list the machines is to be told so. -/
theorem unauthorized_iff_translated_machines :
    ∃ s', badKey.Refusal ∧
      Denied (Sandbox.context Sandbox.plainSettings) badKey (keyless .listHosts) s' .machines
        .machines ∧
      ∃ f, (Operation.machines.run (Sandbox.context Sandbox.plainSettings)).run
        (keyless .listHosts) = (.failed f, s') ∧ f.Unauthorized badKey := by
  have hdenied : ∃ s', Denied (Sandbox.context Sandbox.plainSettings) badKey (keyless .listHosts) s'
      .machines .machines := ⟨_, .machines rfl⟩
  obtain ⟨s', hdenied⟩ := hdenied
  obtain ⟨f, hrun, htold, -⟩ := unauthorized_iff_translated refusal_badKey hdenied
  exact ⟨s', refusal_badKey, hdenied, f, hrun, htold.2 trivial⟩

/-- To list the volumes is to be told of a failed listing, and not that the cloud refused the key. -/
theorem listAll_misreported :
    (keyless .listDrives).gateway.cloud.cls = .amazon ∧
      (keyless .listDrives).gateway.compute.Holds ⟨0, .driver, .text "r1"⟩ ∧
      (keyless .listDrives).gateway.storage.Holds ⟨0, .driver, .text "r1"⟩ ∧
      badKey.Refusal ∧ ∃ f s',
        Denied (Sandbox.context Sandbox.plainSettings) badKey (keyless .listDrives) s' .listAll
          .volumes ∧
        (Operation.listAll.run (Sandbox.context Sandbox.plainSettings)).run (keyless .listDrives) =
          (.failed f, s') ∧
        ¬f.Unauthorized badKey ∧ f.isA .volumeListing = true ∧ f.cause? = some badKey := by
  refine ⟨rfl, ⟨rfl, rfl⟩, ⟨rfl, rfl⟩, refusal_badKey, _, _, .listAll rfl, rfl, ?_, rfl, rfl⟩
  rintro ⟨hkind, -⟩
  exact absurd hkind Bool.false_ne_true

end Storage

end BlockStorage
