import BlockStorage.Proofs.CloudFaults
import BlockStorage.Proofs.VolumeWait
import BlockStorage.Sandbox.Trial

/-!
How the deletion of a volume ends.

A deletion asks for the volume to be destroyed and waits until it is going or gone: until a status
query shows that it is being deleted, or there is no such volume (`Leaving`). It can end in five
ways, or outlast every patience (`Deletes`), and how it ends is decided by the answers to its one
request and to its status queries (`delete_iff`).

That a volume has been deleted is another status than that it is being deleted. A wait that first
looks when the deletion is over sees that status, takes it for one on the way and expires
(`delete_overtaken`).
-/
namespace BlockStorage

/-- Pauses fail for foreign reasons only. -/
def Backend.Rests {σ : Type} (b : Backend σ) : Prop :=
  ∀ seconds w, NeverOwn (b.sleep seconds w).1

namespace Storage

open Session

variable {σ : Type} {ctx : Context σ} {s s' s₁ s₂ : Session σ} {location id timeout seen : Value}
  {deadline : Float} {n : Nat} {f : Fault} {out : Outcome Unit}

theorem isOwn_of_sleep_failed (hrests : ctx.backend.Rests) {seconds : Value}
    (h : (sleep ctx seconds).run s = (.failed f, s')) : f.isOwn = false := by
  have hfails : (World.sleep ctx.backend seconds).OnlyFails fun f => f.isOwn = false := by
    refine (Run.OnlyFails.ofExcept (Clock.neverOwn_checkSleep seconds)).bind fun _ => ?_
    refine (Run.OnlyFails.modify _).bind fun _ w g w' hact => ?_
    rw [World.run_act] at hact
    exact hrests seconds w.cloud g (Outcome.ofExcept_eq_failed.1 (congrArg Prod.fst hact))
  exact hfails s.world f _ (Prod.ext (congrArg Prod.fst h :) rfl)

/-! ### Going or gone -/

/-- A status query shows that a volume is going, or that it is gone: the listing does not show it,
or the cloud says itself that there is no such volume. -/
inductive Leaving (ctx : Context σ) (id : Value) (s s' : Session σ) : Prop
  | going (h : (status ctx id).run s = (.done Status.deleting.toValue, s'))
  | unlisted (hid : id.writable = true) (h : Unlisted ctx id s s')
  | denied {f : Fault} (h : Unanswered ctx id f s s') (hf : f.isA .volumeNotFound = true)

theorem isA_noVolumeFault (hid : id.writable = true) :
    (noVolumeFault id).isA .volumeNotFound = true := by
  rw [noVolumeFault, Fault.mentioning_of_writable _ (by simpa using hid)]
  rfl

/-- A volume that cannot be written of is not reported as missing. -/
theorem writable_of_isA_noVolumeFault
    (h : ((noVolumeFault id).translate .statusQuery).isA .volumeNotFound = true) :
    id.writable = true := by
  by_contra hid
  rw [noVolumeFault, Fault.mentioning_of_unwritable _ (by simpa using hid)] at h
  cases h

/-- A fault of a kind was one before it was translated to another kind. -/
theorem isA_of_isA_translate {kind k : Fault.Kind} (hkind : kind.isA k = false)
    (hunauthorized : Fault.Kind.isA .cloudUnauthorized k = false)
    (h : (f.translate kind).isA k = true) : f.isA k = true := by
  unfold Fault.translate at h
  split at h
  · exact h
  · exact absurd (hunauthorized.symm.trans h) (by simp)
  · exact absurd (hkind.symm.trans h) (by simp)

/-- That is what a wait for a volume to go looks out for. -/
theorem leaving_iff : Leaving ctx id s s' ↔
    (status ctx id).run s = (.done Status.deleting.toValue, s') ∨
      ∃ f, (status ctx id).run s = (.failed f, s') ∧ f.isA .volumeNotFound = true := by
  constructor
  · rintro (h | ⟨hid, h⟩ | ⟨h, hf⟩)
    · exact .inl h
    · have hown := Fault.isOwn_of_isA (isA_noVolumeFault hid)
      refine .inr ⟨_, run_status_unlisted h, ?_⟩
      rw [Fault.translate_own .statusQuery hown]
      exact isA_noVolumeFault hid
    · refine .inr ⟨_, run_status_unanswered h, ?_⟩
      rw [Fault.translate_own .statusQuery (Fault.isOwn_of_isA hf)]
      exact hf
  · rintro (h | ⟨f, h, hf⟩)
    · exact .going h
    · rcases status_failed_iff.1 h with ⟨g, hg, rfl⟩ | ⟨hunlisted, rfl⟩
      · exact .denied hg (isA_of_isA_translate rfl rfl hf)
      · exact .unlisted (writable_of_isA_noVolumeFault hf) hunlisted

/-! ### The course of a deletion -/

/-- How a deletion ends that has a deadline. -/
inductive Deletes (ctx : Context σ) (location id : Value) (deadline : Float) (s : Session σ) :
    Outcome Unit → Session σ → Prop
  /-- The request fails. -/
  | refused {f : Fault} {s' : Session σ} (request : (destroy ctx id).run s = (.failed f, s')) :
      Deletes ctx location id deadline s
        (.failed (if f.isOwn then f else deletionFault location id f)) s'
  /-- A query ahead of the deadline shows that the volume is going or gone. -/
  | left {n : Nat} {seen : Value} {s₁ s₂ s' : Session σ}
      (request : (destroy ctx id).run s = (.done (), s₁))
      (waited : Waited ctx id .deleting deadline s₁ n seen s₂) (patient : n < ctx.patience)
      (due : (watch ctx).now s₂ < deadline) (leaving : Leaving ctx id s₂ s') :
      Deletes ctx location id deadline s (.done ()) s'
  /-- The deadline has passed. -/
  | late {n : Nat} {seen : Value} {s₁ s' : Session σ}
      (request : (destroy ctx id).run s = (.done (), s₁))
      (waited : Waited ctx id .deleting deadline s₁ n seen s') (patient : n < ctx.patience)
      (passed : ¬(watch ctx).now s' < deadline) :
      Deletes ctx location id deadline s
        (.failed (Watch.expiry id Status.deleting.toValue seen)) s'
  /-- A query fails. -/
  | unanswered {n : Nat} {seen : Value} {f : Fault} {s₁ s₂ s' : Session σ}
      (request : (destroy ctx id).run s = (.done (), s₁))
      (waited : Waited ctx id .deleting deadline s₁ n seen s₂) (patient : n < ctx.patience)
      (due : (watch ctx).now s₂ < deadline) (query : (status ctx id).run s₂ = (.failed f, s'))
      (other : f.isA .volumeNotFound = false) :
      Deletes ctx location id deadline s (.failed f) s'
  /-- The pause after a query fails. -/
  | unrested {n : Nat} {seen seen' : Value} {f : Fault} {s₁ s₂ s₃ s' : Session σ}
      (request : (destroy ctx id).run s = (.done (), s₁))
      (waited : Waited ctx id .deleting deadline s₁ n seen s₂) (patient : n < ctx.patience)
      (due : (watch ctx).now s₂ < deadline) (query : (status ctx id).run s₂ = (.done seen', s₃))
      (other : seen' ≠ Status.deleting.toValue)
      (pause : (sleep ctx ctx.settings.pollInterval).run s₃ = (.failed f, s')) :
      Deletes ctx location id deadline s (.failed f) s'
  /-- The patience with the wait is used up. -/
  | endless {seen : Value} {s₁ s' : Session σ}
      (request : (destroy ctx id).run s = (.done (), s₁))
      (waited : Waited ctx id .deleting deadline s₁ ctx.patience seen s') :
      Deletes ctx location id deadline s .stalled s'

/-- What is left of a deletion that has a deadline. -/
theorem run_delete_due (hdue : Due ctx timeout s deadline) :
    (delete ctx location id timeout).run s = (do
      (destroy ctx id).wrapForeign (deletionFault location id)
      (await ctx id .deleting deadline).catching fun f =>
        if f.isA .volumeNotFound then Pure.pure () else Run.fail f : Run (Session σ) Unit).run s :=
  Run.run_bind_done hdue.run

theorem run_delete_refused (hdue : Due ctx timeout s deadline)
    (h : (destroy ctx id).run s = (.failed f, s')) :
    (delete ctx location id timeout).run s =
      (.failed (if f.isOwn then f else deletionFault location id f), s') := by
  rw [run_delete_due hdue]
  exact Run.run_bind_failed (Run.run_wrapForeign_failed h)

/-- What is left of a deletion once the request is accepted. -/
theorem run_delete_accepted (hdue : Due ctx timeout s deadline)
    (h : (destroy ctx id).run s = (.done (), s₁)) :
    (delete ctx location id timeout).run s =
      ((await ctx id .deleting deadline).catching fun f =>
        if f.isA .volumeNotFound then Pure.pure () else Run.fail f).run s₁ := by
  rw [run_delete_due hdue]
  exact Run.run_bind_done (Run.run_wrapForeign_done h)

/-- The end of the wait is that of the deletion, unless it is that there is no such volume. -/
theorem run_delete_of_await (hdue : Due ctx timeout s deadline)
    (h : (destroy ctx id).run s = (.done (), s₁))
    (hwait : (await ctx id .deleting deadline).run s₁ = (out, s'))
    (hfound : ∀ f, out = .failed f → f.isA .volumeNotFound = false) :
    (delete ctx location id timeout).run s = (out, s') := by
  rw [run_delete_accepted hdue h, Run.run_catching, hwait]
  cases out with
  | failed f => simp [hfound f rfl]
  | done | stalled => rfl

theorem isA_expiry (id status last : Value) :
    (Watch.expiry id status last).isA .volumeNotFound = false := by
  rw [Watch.expiry, Fault.mentioning]
  split <;> rfl

/-- The faults of status queries are our own. -/
theorem isOwn_of_status_failed (h : (status ctx id).run s = (.failed f, s')) : f.isOwn = true := by
  obtain ⟨g, -, rfl⟩ := Run.run_mapFault_failed_iff.1 h
  exact Fault.isOwn_translate _ g

/-- A deletion ends as its course says. -/
theorem Deletes.run (hrests : ctx.backend.Rests) (hdue : Due ctx timeout s deadline)
    (h : Deletes ctx location id deadline s out s') :
    (delete ctx location id timeout).run s = (out, s') := by
  cases h with
  | refused request => exact run_delete_refused hdue request
  | @left n seen s₁ s₂ _ request waited patient due leaving =>
    rcases leaving_iff.1 leaving with hgoing | ⟨f, hgone, hf⟩
    · have hend : WaitEnds ctx id .deleting deadline seen s₂ (.done Status.deleting.toValue) s' :=
        .shown due hgoing (by simp [Status.toValue_equal])
      exact run_delete_of_await hdue request (run_await_of_ending waited hend patient) nofun
    · have hend : WaitEnds ctx id .deleting deadline seen s₂ _ s' := .unanswered due hgone
      have hwait := run_await_of_ending waited hend patient
      rw [if_pos (Fault.isOwn_of_isA hf)] at hwait
      rw [run_delete_accepted hdue request, Run.run_catching, hwait]
      simp [Outcome.map, hf]
  | late request waited patient passed =>
    refine run_delete_of_await hdue request (run_await_of_ending waited (.late passed) patient) ?_
    rintro f ⟨⟩
    exact isA_expiry _ _ _
  | @unanswered n seen f s₁ s₂ _ request waited patient due query other =>
    have hend : WaitEnds ctx id .deleting deadline seen s₂ _ s' := .unanswered due query
    have hwait := run_await_of_ending waited hend patient
    rw [if_pos (isOwn_of_status_failed query)] at hwait
    refine run_delete_of_await hdue request hwait ?_
    rintro f ⟨⟩
    exact other
  | @unrested n seen seen' f s₁ s₂ s₃ _ request waited patient due query other pause =>
    have hother : ¬seen'.equal Status.deleting.toValue = true :=
      fun hshown => other (eq_of_shown query hshown)
    have hend : WaitEnds ctx id .deleting deadline seen s₂ _ s' := .unrested due query hother pause
    refine run_delete_of_await hdue request (run_await_of_ending waited hend patient) ?_
    rintro g ⟨⟩
    cases hgone : f.isA .volumeNotFound with
    | false => rfl
    | true =>
      have hown := Fault.isOwn_of_isA hgone
      rw [isOwn_of_sleep_failed hrests pause] at hown
      cases hown
  | endless request waited =>
    exact run_delete_of_await hdue request (run_await_of_rounds waited) nofun

/-- Every deletion takes one of these courses. -/
theorem exists_deletes (ctx : Context σ) (location id : Value) (deadline : Float)
    (s : Session σ) : ∃ out s', Deletes ctx location id deadline s out s' := by
  rcases request : (destroy ctx id).run s with ⟨_ | f | _, s₁⟩
  · rcases waited_cases ctx id .deleting deadline s₁ with
      ⟨n, patient, seen, s₂, out, s', waited, hend⟩ | ⟨seen, s', waited⟩
    · cases hend with
      | late passed => exact ⟨_, _, .late request waited patient passed⟩
      | @shown seen' _ due query awaited =>
        have hgoing : (status ctx id).run s₂ = (.done seen', s') := query
        rw [eq_of_shown query awaited] at hgoing
        exact ⟨_, _, .left request waited patient due (.going hgoing)⟩
      | @unanswered f _ due query =>
        cases hf : f.isA .volumeNotFound with
        | true =>
          have hleaving : Leaving ctx id s₂ s' := leaving_iff.2 (.inr ⟨f, query, hf⟩)
          exact ⟨_, _, .left request waited patient due hleaving⟩
        | false => exact ⟨_, _, .unanswered request waited patient due query hf⟩
      | @unrested seen' _ s₃ _ due query other pause =>
        have hother : seen' ≠ Status.deleting.toValue := by
          rintro rfl
          exact other (by simp [Status.toValue_equal])
        exact ⟨_, _, .unrested request waited patient due query hother pause⟩
    · exact ⟨_, _, .endless request waited⟩
  · exact ⟨_, _, .refused request⟩
  · exact absurd (congrArg Prod.fst request) (ends_askStorage _ s)

/-- A deletion ends exactly as its request and its status queries are answered. -/
theorem delete_iff (hrests : ctx.backend.Rests) (hdue : Due ctx timeout s deadline) :
    (delete ctx location id timeout).run s = (out, s') ↔
      Deletes ctx location id deadline s out s' := by
  refine ⟨fun h => ?_, fun h => h.run hrests hdue⟩
  obtain ⟨out', s₁, hcourse⟩ := exists_deletes ctx location id deadline s
  have hrun := hcourse.run hrests hdue
  rw [h] at hrun
  cases hrun
  exact hcourse

/-! ### When it returns and when it expires -/

/-- How the deletion of a volume keeps to its deadline. -/
structure Deletion (ctx : Context σ) (location id timeout : Value) (deadline : Float)
    (s : Session σ) : Prop where
  /-- It takes one of the courses that it can take. -/
  course : ∀ out s', (delete ctx location id timeout).run s = (out, s') ↔
    Deletes ctx location id deadline s out s'
  /-- It returns exactly if the request is accepted and, after rounds in which every query showed
  another status, a query ahead of the deadline shows that the volume is going or gone. -/
  returned : ∀ s', (delete ctx location id timeout).run s = (.done (), s') ↔
    ∃ s₁, (destroy ctx id).run s = (.done (), s₁) ∧ ∃ n < ctx.patience, ∃ seen s₂,
      Waited ctx id .deleting deadline s₁ n seen s₂ ∧ (watch ctx).now s₂ < deadline ∧
        Leaving ctx id s₂ s'
  /-- If the request is accepted and every query ahead of the deadline shows that the volume is not
  going, the deletion expires, unless it outlasts the patience. -/
  expired : ∀ s₁, (destroy ctx id).run s = (.done (), s₁) →
    (∀ n seen s₂, Waited ctx id .deleting deadline s₁ n seen s₂ → (watch ctx).now s₂ < deadline →
      ∃ st s₃, st ≠ Status.deleting ∧ (status ctx id).run s₂ = (.done st.toValue, s₃) ∧
        ∃ s₄, (sleep ctx ctx.settings.pollInterval).run s₃ = (.done (), s₄)) →
    (∃ n < ctx.patience, ∃ seen s', Waited ctx id .deleting deadline s₁ n seen s' ∧
      ¬(watch ctx).now s' < deadline ∧
      (delete ctx location id timeout).run s =
        (.failed (Watch.expiry id Status.deleting.toValue seen), s')) ∨
    ∃ seen s', Waited ctx id .deleting deadline s₁ ctx.patience seen s' ∧
      (delete ctx location id timeout).run s = (.stalled, s')
  /-- That is told as a timeout, if the volume can be written of. -/
  told : id.writable = true → ∀ n seen s₁ s₂, Waited ctx id .deleting deadline s₁ n seen s₂ →
    (Watch.expiry id Status.deleting.toValue seen).isA .timeout = true ∧
      (Watch.expiry id Status.deleting.toValue seen).context =
        [("resource_id", id), ("status", Status.deleting.toValue), ("last_status", seen)]

/-- **A deletion returns exactly if the volume is seen going or gone in time.** A query that fails
ends it, the deadline ends it, and every other status lets it go on, also that the volume has been
deleted. -/
theorem deletion_of_due (hrests : ctx.backend.Rests) (hdue : Due ctx timeout s deadline)
    (location id : Value) : Deletion ctx location id timeout deadline s where
  course out s' := delete_iff hrests hdue
  returned s' := by
    rw [delete_iff hrests hdue]
    constructor
    · intro h
      cases h with
      | left request waited patient due leaving =>
        exact ⟨_, request, _, patient, _, _, waited, due, leaving⟩
    · rintro ⟨s₁, request, n, patient, seen, s₂, waited, due, leaving⟩
      exact .left request waited patient due leaving
  expired s₁ request hothers := by
    rcases waited_cases ctx id .deleting deadline s₁ with
      ⟨n, patient, seen, s₂, out, s', waited, hend⟩ | ⟨seen, s', waited⟩
    · by_cases due : (watch ctx).now s₂ < deadline
      · -- The query and the pause that are left to make do not end the wait.
        exfalso
        obtain ⟨st, s₃, hst, hquery, s₄, hpause⟩ := hothers n seen s₂ waited due
        cases hend with
        | late passed => exact passed due
        | @shown v _ _ query awaited =>
          have hshown : (.done st.toValue, s₃) = (Outcome.done v, s') := hquery.symm.trans query
          cases hshown
          rw [Status.toValue_equal, beq_iff_eq] at awaited
          exact hst awaited
        | unanswered _ query => cases hquery.symm.trans query
        | unrested _ query _ pause =>
          cases hquery.symm.trans query
          cases hpause.symm.trans pause
      · exact .inl ⟨n, patient, seen, s₂, waited, due,
          (Deletes.late request waited patient due).run hrests hdue⟩
    · exact .inr ⟨seen, s', waited, (Deletes.endless request waited).run hrests hdue⟩
  told hid n seen s₁ s₂ waited := by
    have hseen : seen.writable = true := by
      rcases status_of_waited waited with rfl | ⟨st, rfl⟩
      · rfl
      · rfl
    rw [Watch.expiry_of_writable hid rfl hseen]
    exact ⟨rfl, rfl⟩

/-! ### A volume that is gone before anyone looks -/

/-- Pauses in a sandbox take the time that the clock can show. -/
theorem rests_sandbox : Sandbox.backend.Rests := by
  intro seconds w f h
  have hwait : w.wait seconds = .error f := by
    change (Sandbox.sleep seconds w).1 = .error f at h
    unfold Sandbox.sleep at h
    split at h
    · cases h
    · cases h
      assumption
  have hadvance : NeverOwn (Clock.advance w.clock seconds) := by
    unfold Clock.advance
    repeat' split
    all_goals first | exact .ok _ | exact .error rfl
  exact hadvance.bind (fun clock => .ok _) f hwait

/-- A session with a cloud of one volume, which shows these states once it is destroyed. -/
def doomed (states : List String) : Session Sandbox :=
  Sandbox.start {
    clock := 0
    drives := [{ id := .text "va" }]
    course := { destroyed := states.map .text } }

/-- A volume that lingers before it is seen going. -/
theorem deletion_of_due_lingering :
    Sandbox.backend.Rests ∧
      Due Sandbox.plainContext (.int 60) (doomed ["available", "deleting"]) 60 ∧
      ∃ s', (delete Sandbox.plainContext .null (.text "va") (.int 60)).run
          (doomed ["available", "deleting"]) = (.done (), s') ∧
        ∃ n seen s₁ s₂, Waited Sandbox.plainContext (.text "va") .deleting 60 s₁ n seen s₂ ∧
          (watch Sandbox.plainContext).now s₂ < 60 ∧
          Leaving Sandbox.plainContext (.text "va") s₂ s' := by
  have hdue : Due Sandbox.plainContext (.int 60) (doomed ["available", "deleting"]) 60 := rfl
  have hdeletion := deletion_of_due rests_sandbox hdue .null (.text "va")
  obtain ⟨_, hrun, -⟩ := Outcome.done_of_gives (p := fun _ => true)
    (r := (delete Sandbox.plainContext .null (.text "va") (.int 60)).run
      (doomed ["available", "deleting"]))
    (by decide +kernel)
  obtain ⟨s₁, -, n, -, seen, s₂, hwaited, hdue', hleaving⟩ := (hdeletion.returned _).1 hrun
  exact ⟨rests_sandbox, hdue, _, hrun, n, seen, s₁, s₂, hwaited, hdue', hleaving⟩

/-- A volume that has been deleted when the wait first looks, in good time. The deletion expires. -/
theorem delete_overtaken :
    Due Sandbox.plainContext (.int 5) (doomed ["deleted"]) 5 ∧
      ∃ s₁ s₂ f s',
        (destroy Sandbox.plainContext (.text "va")).run (doomed ["deleted"]) = (.done (), s₁) ∧
        (watch Sandbox.plainContext).now s₁ < 5 ∧
        (status Sandbox.plainContext (.text "va")).run s₁ = (.done Status.deleted.toValue, s₂) ∧
        (delete Sandbox.plainContext .null (.text "va") (.int 5)).run (doomed ["deleted"]) =
          (.failed f, s') ∧
        f.isA .timeout = true :=
  ⟨rfl, _, _, _, _, rfl, by decide +kernel, rfl, rfl, rfl⟩

end Storage

end BlockStorage
