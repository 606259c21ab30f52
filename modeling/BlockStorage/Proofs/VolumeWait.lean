import BlockStorage.Proofs.Requests
import BlockStorage.Proofs.Waiting

/-!
Waits for a volume, whatever the cloud does.

Such a wait has made some rounds (`Waited`) when it comes to an end (`WaitEnds`), unless it uses up
the patience with it (`waited_cases`); if it has a result, a query ahead of the deadline showed the
awaited status (`shown_of_await`).

A query is a status query, which fails for one of three reasons: the listing fails, the cloud tells
of a volume whose state cannot be looked up, or it does not know the volume (`status_failed_iff`).
-/
namespace BlockStorage

namespace Run

variable {σ α : Type}

/-- A run whose result is dropped comes to what it comes to by itself. -/
theorem run_dropped (x : Run σ α) (s : σ) :
    (do let _ ← x; Pure.pure () : Run σ Unit).run s =
      ((x.run s).1.map fun _ => (), (x.run s).2) := by
  rw [run_bind]
  cases x.run s with
  | mk out s' => cases out <;> rfl

end Run

/-! ### Waiting for a volume -/

namespace Storage

open Session

variable {σ : Type} {ctx : Context σ} {s s' s₁ : Session σ} {id seen : Value} {wanted : Status}
  {deadline : Float} {n : Nat} {f g : Fault}

theorem ends_status (ctx : Context σ) (id : Value) : (status ctx id).Ends := by
  have hcurrent : (current : Run (Session σ) Gateway).Ends :=
    Run.Ends.get.bind fun s => Run.Ends.pure _
  have hdisks : (describeDisks ctx [id]).Ends := by
    refine hcurrent.bind fun g => ?_
    split
    · exact ends_askStorage _
    · exact ends_askStorage _
  refine Run.Ends.mapFault (Run.Ends.bind (hdisks.bind fun disks => ?_) fun d => ?_) _
  · split
    · exact Run.Ends.pure _
    · exact Run.Ends.fail _
  · exact (Run.Ends.ofExcept _).bind fun st => Run.Ends.pure _

theorem ends_sleep (ctx : Context σ) (seconds : Value) : (sleep ctx seconds).Ends := by
  refine ends_inWorld ((Run.Ends.ofExcept _).bind fun _ => ?_)
  exact (Run.Ends.modify _).bind fun _ => ends_act _

/-- The wait for a volume to show a status has made so many rounds, the last of which saw this. -/
abbrev Waited (ctx : Context σ) (id : Value) (wanted : Status) (deadline : Float) (s : Session σ)
    (n : Nat) (seen : Value) (s' : Session σ) : Prop :=
  (watch ctx).Rounds id wanted.toValue ctx.settings.pollInterval deadline .null s n seen s'

/-- The wait for a volume to show a status comes to this end. -/
abbrev WaitEnds (ctx : Context σ) (id : Value) (wanted : Status) (deadline : Float) (seen : Value)
    (s : Session σ) (out : Outcome Value) (s' : Session σ) : Prop :=
  (watch ctx).Ending id wanted.toValue ctx.settings.pollInterval deadline seen s out s'

theorem run_await_of_ending {out : Outcome Value} (h : Waited ctx id wanted deadline s n seen s₁)
    (hend : WaitEnds ctx id wanted deadline seen s₁ out s') (hn : n < ctx.patience) :
    (await ctx id wanted deadline).run s = (out.map fun _ => (), s') := by
  refine (Run.run_dropped _ s).trans ?_
  rw [Watch.run_of_ending h hend hn]

theorem run_await_of_rounds (h : Waited ctx id wanted deadline s ctx.patience seen s') :
    (await ctx id wanted deadline).run s = (.stalled, s') := by
  refine (Run.run_dropped _ s).trans ?_
  rw [Watch.await_stalls h]
  rfl

/-- The wait for a volume comes to an end after some rounds, or it uses up the patience with it. -/
theorem waited_cases (ctx : Context σ) (id : Value) (wanted : Status) (deadline : Float)
    (s : Session σ) :
    (∃ n < ctx.patience, ∃ seen s₁ out s', Waited ctx id wanted deadline s n seen s₁ ∧
        WaitEnds ctx id wanted deadline seen s₁ out s') ∨
      ∃ seen s', Waited ctx id wanted deadline s ctx.patience seen s' :=
  Watch.await_cases (ends_status ctx id) (ends_sleep ctx _) deadline .null ctx.patience s

/-! ### Status queries -/

/-- A status query has no answer: the listing fails, or the state of the volume cannot be looked
up. -/
inductive Unanswered (ctx : Context σ) (id : Value) (f : Fault) (s s' : Session σ) : Prop
  | unlisted (h : (describeDisks ctx [id]).run s = (.failed f, s'))
  | unread {d : Disk} (h : (describeDisk ctx id).run s = (.done d, s'))
      (hstate : Status.ofState d.state = .error f)

/-- The listing does not show the volume. -/
def Unlisted (ctx : Context σ) (id : Value) (s s' : Session σ) : Prop :=
  ∃ disks, (describeDisks ctx [id]).run s = (.done disks, s') ∧
    disks.find? (fun d => d.id.equal id) = none

theorem run_status_unanswered (h : Unanswered ctx id f s s') :
    (status ctx id).run s = (.failed (f.translate .statusQuery), s') := by
  refine Run.run_translating_failed ?_
  cases h with
  | unlisted h => exact Run.run_bind_failed (Run.run_bind_failed h)
  | unread h hstate =>
    rw [Run.run_bind_done h, hstate]
    rfl

/-- The wait ends with the first query that has no answer. -/
theorem run_await_unanswered (h : Waited ctx id wanted deadline s n seen s₁)
    (hn : n < ctx.patience) (due : (watch ctx).now s₁ < deadline)
    (hquery : Unanswered ctx id f s₁ s') :
    (await ctx id wanted deadline).run s = (.failed (f.translate .statusQuery), s') := by
  have hend : WaitEnds ctx id wanted deadline seen s₁ _ s' :=
    .unanswered due (run_status_unanswered hquery)
  rw [run_await_of_ending h hend hn, if_pos (Fault.isOwn_translate _ f)]
  rfl

theorem run_status_unlisted (h : Unlisted ctx id s s') :
    (status ctx id).run s = (.failed ((noVolumeFault id).translate .statusQuery), s') := by
  obtain ⟨disks, hlist, hnone⟩ := h
  refine Run.run_translating_failed (Run.run_bind_failed ?_)
  unfold describeDisk
  rw [Run.run_bind_done hlist, hnone]
  rfl

/-- A status query fails because it has no answer, or because the cloud does not know the volume. -/
theorem status_failed_iff : (status ctx id).run s = (.failed g, s') ↔
    (∃ f, Unanswered ctx id f s s' ∧ f.translate .statusQuery = g) ∨
      (Unlisted ctx id s s' ∧ (noVolumeFault id).translate .statusQuery = g) := by
  constructor
  · intro h
    obtain ⟨f, hf, rfl⟩ := Run.run_mapFault_failed_iff.1 h
    rcases Run.run_bind_failed_iff.1 hf with hf | ⟨d, s₁, hd, hf⟩
    · rcases Run.run_bind_failed_iff.1 hf with hf | ⟨disks, s₁, hdisks, hf⟩
      · exact .inl ⟨f, .unlisted hf, rfl⟩
      · split at hf
        · cases hf
        · rename_i hnone
          cases hf
          exact .inr ⟨⟨disks, hdisks, hnone⟩, rfl⟩
    · rcases Run.run_bind_failed_iff.1 hf with hf | ⟨st, s₂, -, hf⟩
      · obtain ⟨hstate, rfl⟩ := Run.run_ofExcept_failed_iff.1 hf
        exact .inl ⟨f, .unread hd hstate, rfl⟩
      · cases hf
  · rintro (⟨f, hf, rfl⟩ | ⟨hnone, rfl⟩)
    · exact run_status_unanswered hf
    · exact run_status_unlisted hnone

/-- What a status query shows is a status. -/
theorem status_of_shown (h : (status ctx id).run s = (.done seen, s')) :
    ∃ st : Status, seen = st.toValue := by
  obtain ⟨d, s₁, -, h⟩ := Run.done_of_run_bind (Run.run_mapFault_done_iff.1 h)
  obtain ⟨st, s₂, -, h⟩ := Run.done_of_run_bind h
  cases h
  exact ⟨st, rfl⟩

/-- A status that counts as the awaited one is that. -/
theorem eq_of_shown (h : (status ctx id).run s = (.done seen, s'))
    (hseen : seen.equal wanted.toValue = true) : seen = wanted.toValue := by
  obtain ⟨st, rfl⟩ := status_of_shown h
  rw [Status.toValue_equal, beq_iff_eq] at hseen
  rw [hseen]

/-- What a wait for a volume has seen is a status, or nothing yet. -/
theorem status_of_waited (h : Waited ctx id wanted deadline s n seen s') :
    seen = .null ∨ ∃ st : Status, seen = st.toValue := by
  cases h with
  | none => exact .inl rfl
  | more _ _ query => exact .inr (status_of_shown query)

/-- A wait for a volume that has a result made some rounds, and then a query ahead of the deadline
showed the status. -/
theorem shown_of_await (h : (await ctx id wanted deadline).run s = (.done (), s')) :
    ∃ n seen s₁, Waited ctx id wanted deadline s n seen s₁ ∧ (watch ctx).now s₁ < deadline ∧
      (status ctx id).run s₁ = (.done wanted.toValue, s') := by
  rcases waited_cases ctx id wanted deadline s with
    ⟨n, hn, seen, s₁, out, s₂, hrounds, hend⟩ | ⟨seen, s₂, hrounds⟩
  · rw [run_await_of_ending hrounds hend hn] at h
    cases hend with
    | @shown v _ due query awaited =>
      cases h
      have hquery : (status ctx id).run s₁ = (.done v, s') := query
      rw [eq_of_shown hquery awaited] at hquery
      exact ⟨n, seen, s₁, hrounds, due, hquery⟩
    | late | unanswered | unrested => cases h
  · rw [run_await_of_rounds hrounds] at h
    cases h

end Storage

end BlockStorage
