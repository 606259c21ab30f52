import BlockStorage.Proofs.Deletion

/-!
What is said when a change of a volume fails.

Three operations change a volume: each makes one request and waits for a status (`Change`,
`Arrives`). A request that fails is reported by the operation itself, with the volume and the cause
in its words. A status query that fails is reported by the query, which comes first and knows of the
cause alone: the words that a wait has for it, with the volume in them, are for foreign faults, and
the query has left none. So the volume is named where the request fails, and where a query fails
only by chance (`worded_of_arrives`, `delete_unnamed`).
-/
namespace BlockStorage

namespace Fault

/-- The words stand in what the fault says. -/
def Says (f : Fault) (words : String) : Prop := words.toList <:+: f.text.toList

instance (f : Fault) (words : String) : Decidable (f.Says words) :=
  inferInstanceAs (Decidable (words.toList <:+: f.text.toList))

theorem says_of_text {f : Fault} {words : String} (front rest : String)
    (h : f.text = front ++ words ++ rest) : f.Says words :=
  ⟨front.toList, rest.toList, by rw [h, String.toList_append, String.toList_append]⟩

/-- A foreign fault that says something is said again where it is translated, after the summary of
the kind that it is reported as. -/
theorem text_translate {f : Fault} (hf : f.isOwn = false) (htext : f.text ≠ "") (kind : Kind) :
    ∃ k, (k = kind ∨ k = .cloudUnauthorized) ∧
      (f.translate kind).text = k.summary ++ ": " ++ f.text := by
  have hwords : f.words = f.text := if_neg htext
  have hwrapping : ∀ k, (wrapping k f).text = k.summary ++ ": " ++ f.text := fun k => by
    rw [← hwords]
    rfl
  unfold translate
  split
  · cases hf
  · exact ⟨_, .inr rfl, hwrapping _⟩
  · exact ⟨_, .inl rfl, hwrapping _⟩

theorem cause_translate {f : Fault} (hf : f.isOwn = false) (kind : Kind) :
    (f.translate kind).cause? = some f := by
  unfold translate
  split
  · cases hf
  · rfl
  · rfl

/-- Foreign faults are never translated to tell that a volume is missing. -/
theorem isA_translate_statusQuery {f : Fault} (hf : f.isOwn = false) :
    (f.translate .statusQuery).isA .volumeNotFound = false := by
  unfold translate
  split
  · cases hf
  · rfl
  · rfl

end Fault

namespace Storage

open Session

variable {σ : Type} {ctx : Context σ} {s s' s₁ s₂ s₃ : Session σ}
  {location id device address timeout seen : Value} {deadline : Float} {n : Nat} {f : Fault}
  {op : Run (Session σ) Unit}

/-! ### Changes -/

/-- A change of a volume: its request, how it reports that this failed for a foreign reason and
which values that shows, and what is waited for. -/
structure Change (σ : Type) where
  id : Value
  request : Run (Session σ) Unit
  report : Fault → Fault
  shown : List Value
  wanted : Status
  deadline : Float

/-- An operation comes to its change. -/
inductive Arrives (ctx : Context σ) (s : Session σ) :
    Run (Session σ) Unit → Change σ → Session σ → Prop
  | attach {id device address timeout : Value} {deadline : Float} {m : Machine} {s₁ : Session σ}
      (h : Attaching ctx id device address timeout s deadline m s₁) :
      Arrives ctx s (attach ctx id device address timeout)
        ⟨id, requestAttach ctx m id device, attachmentFault id address m, [id, m.id], .inUse,
          deadline⟩ s₁
  | detach {id address timeout : Value} {deadline : Float} {m : Machine} {volumes : List Volume}
      {s₁ s₂ : Session σ} (h : Detaching ctx id address timeout s deadline m s₁ volumes s₂) :
      Arrives ctx s (detach ctx id address timeout)
        ⟨id, requestDetach ctx id m, detachmentFault id address m, [id, m.id], .available,
          deadline⟩ s₂
  | delete {location id timeout : Value} {deadline : Float} (h : Due ctx timeout s deadline) :
      Arrives ctx s (delete ctx location id timeout)
        ⟨id, destroy ctx id, deletionFault location id, [id], .deleting, deadline⟩ s

variable {c : Change σ}

/-- The report of a request that failed names the volume before the cause. -/
theorem Arrives.report_eq (h : Arrives ctx s op c s₁) (f : Fault) :
    ∃ kind front middle context, c.report f = .mentioning c.shown
      (.because kind (front ++ c.id.display ++ middle ++ f.text) (some f) context) := by
  cases h with
  | @attach id device address timeout deadline m _ h =>
    refine ⟨.volumeAttachment, "Failed attaching volume ",
      " to machine " ++ m.id.display ++ ". Reason: ",
      [("volume_id", id), ("address", address)], ?_⟩
    simp only [attachmentFault, String.append_assoc]
  | @detach id address timeout deadline m volumes _ _ h =>
    refine ⟨.volumeDetachment, "Failed detaching volume ",
      " from machine " ++ m.id.display ++ ". Reason: ",
      [("volume_id", id), ("address", address)], ?_⟩
    simp only [detachmentFault, String.append_assoc]
  | delete h => exact ⟨.volumeDeletion, "Failed deleting volume with ID ", ". Reason: ", _, rfl⟩

/-- A request that failed for a foreign reason is reported with the volume and the cause. -/
theorem Arrives.report_says (h : Arrives ctx s op c s₁)
    (hshown : ∀ v ∈ c.shown, v.writable = true) (f : Fault) :
    (c.report f).isOwn = true ∧ (c.report f).cause? = some f ∧
      (c.report f).Says c.id.display ∧ (c.report f).Says f.text := by
  obtain ⟨kind, front, middle, context, hreport⟩ := h.report_eq f
  rw [Fault.mentioning_of_writable _ hshown] at hreport
  have htext : (c.report f).text =
      kind.summary ++ ": " ++ (front ++ c.id.display ++ middle ++ f.text) := by
    rw [hreport]
    rfl
  refine ⟨by rw [hreport]; rfl, by rw [hreport]; rfl, ?_, ?_⟩
  · refine Fault.says_of_text (kind.summary ++ ": " ++ front) (middle ++ f.text) ?_
    simp only [htext, String.append_assoc]
  · refine Fault.says_of_text (kind.summary ++ ": " ++ front ++ c.id.display ++ middle) "" ?_
    simp only [htext, String.append_assoc, String.append_empty]

/-- An operation whose request fails ends with the report of that, if it is one of our own. -/
theorem Arrives.run_refused (h : Arrives ctx s op c s₁)
    (hrequest : c.request.run s₁ = (.failed f, s'))
    (hown : (if f.isOwn then f else c.report f).isOwn = true) :
    op.run s = (.failed (if f.isOwn then f else c.report f), s') := by
  cases h with
  | attach h =>
    rw [run_attach_apart h]
    exact Run.run_translating_own hown (Run.run_bind_failed (Run.run_wrapForeign_failed hrequest))
  | detach h =>
    rw [run_detach_present h]
    exact Run.run_translating_own hown (Run.run_bind_failed (Run.run_wrapForeign_failed hrequest))
  | delete h => exact run_delete_refused h hrequest

/-- An operation whose wait fails ends with that fault, if it is one of our own and does not tell
that the volume is missing. -/
theorem Arrives.run_waited (h : Arrives ctx s op c s₁)
    (hrequest : c.request.run s₁ = (.done (), s₂))
    (hwait : (await ctx c.id c.wanted c.deadline).run s₂ = (.failed f, s'))
    (hown : f.isOwn = true) (hfound : f.isA .volumeNotFound = false) :
    op.run s = (.failed f, s') := by
  cases h with
  | attach h =>
    rw [run_attach_apart h]
    refine Run.run_translating_own hown ?_
    rw [Run.run_bind_done (Run.run_wrapForeign_done hrequest)]
    exact hwait
  | detach h =>
    rw [run_detach_present h]
    refine Run.run_translating_own hown ?_
    rw [Run.run_bind_done (Run.run_wrapForeign_done hrequest)]
    exact hwait
  | delete h =>
    refine run_delete_of_await h hrequest hwait ?_
    rintro g ⟨⟩
    exact hfound

/-! ### What a failed change says -/

/-- What an operation says if its change fails. -/
structure Worded (ctx : Context σ) (s : Session σ) (op : Run (Session σ) Unit) (c : Change σ)
    (s₁ : Session σ) : Prop where
  /-- A request that fails for a foreign reason is reported with the volume and the cause. -/
  refused : ∀ f s', c.request.run s₁ = (.failed f, s') → f.isOwn = false →
    (∀ v ∈ c.shown, v.writable = true) →
    ∃ g, op.run s = (.failed g, s') ∧ g.isOwn = true ∧ g.cause? = some f ∧
      g.Says c.id.display ∧ g.Says f.text
  /-- A fault of our own passes. -/
  passed : ∀ f s', c.request.run s₁ = (.failed f, s') → f.isOwn = true →
    op.run s = (.failed f, s')
  /-- A query of the wait that fails for a foreign reason is reported with the cause alone. The
  volume is named exactly if the cause or the summary before it happens to name it. -/
  queried : ∀ f s₂ n seen s₃ s', c.request.run s₁ = (.done (), s₂) →
    Waited ctx c.id c.wanted c.deadline s₂ n seen s₃ → n < ctx.patience →
    (watch ctx).now s₃ < c.deadline → Unanswered ctx c.id f s₃ s' → f.isOwn = false →
    f.text ≠ "" →
    ∃ g k, op.run s = (.failed g, s') ∧ g.isOwn = true ∧ g.cause? = some f ∧ g.Says f.text ∧
      (k = Fault.Kind.statusQuery ∨ k = .cloudUnauthorized) ∧
      (g.Says c.id.display ↔ c.id.display.toList <:+: (k.summary ++ ": " ++ f.text).toList)

/-- **A failed change names its cause, and the volume if it was the request that failed.** -/
theorem worded_of_arrives (h : Arrives ctx s op c s₁) : Worded ctx s op c s₁ where
  refused f s' hrequest hforeign hshown := by
    obtain ⟨hown, hcause, hid, htext⟩ := h.report_says hshown f
    have hrun := h.run_refused hrequest (by simpa [hforeign] using hown)
    rw [if_neg (by simp [hforeign])] at hrun
    exact ⟨_, hrun, hown, hcause, hid, htext⟩
  passed f s' hrequest hown := by
    have hrun := h.run_refused hrequest (by rwa [if_pos hown])
    rwa [if_pos hown] at hrun
  queried f s₂ n seen s₃ s' hrequest hwaited hn hdue hquery hforeign htext := by
    obtain ⟨k, hk, hsaid⟩ := Fault.text_translate hforeign htext .statusQuery
    have hown := Fault.isOwn_translate .statusQuery f
    have hrun := h.run_waited hrequest (run_await_unanswered hwaited hn hdue hquery) hown
      (Fault.isA_translate_statusQuery hforeign)
    refine ⟨_, k, hrun, hown, Fault.cause_translate hforeign _, ?_, hk, ?_⟩
    · refine Fault.says_of_text (k.summary ++ ": ") "" ?_
      rw [hsaid, String.append_empty]
    · rw [Fault.Says, hsaid]

/-- A session with a cloud of one volume, in which one method always fails. -/
def troubled (m : Sandbox.Method) : Session Sandbox :=
  Sandbox.start {
    clock := 0
    drives := [{ id := .text "va" }]
    troubles := [(m, ⟨Sandbox.boom, 0, none⟩)] }

/-- A volume that cannot be destroyed is named, and so is the reason. -/
theorem worded_of_arrives_undestroyed :
    Arrives Sandbox.plainContext (troubled .destroy)
        (delete Sandbox.plainContext .null (.text "va") (.int 60))
        ⟨.text "va", destroy Sandbox.plainContext (.text "va"), deletionFault .null (.text "va"),
          [.text "va"], .deleting, 60⟩ (troubled .destroy) ∧
      ∃ g s', (delete Sandbox.plainContext .null (.text "va") (.int 60)).run (troubled .destroy) =
          (.failed g, s') ∧ g.Says "va" ∧ g.Says "boom" := by
  have harrives : Arrives Sandbox.plainContext (troubled .destroy)
      (delete Sandbox.plainContext .null (.text "va") (.int 60))
      ⟨.text "va", destroy Sandbox.plainContext (.text "va"), deletionFault .null (.text "va"),
        [.text "va"], .deleting, 60⟩ (troubled .destroy) := .delete rfl
  obtain ⟨g, hrun, -, -, hid, htext⟩ := (worded_of_arrives harrives).refused Sandbox.boom _ rfl rfl
    (by simp [Value.writable])
  exact ⟨harrives, g, _, hrun, hid, htext⟩

/-- A volume whose status cannot be queried while it is deleted is not named. -/
theorem delete_unnamed :
    ∃ s₁ g s',
      (destroy Sandbox.plainContext (.text "va")).run (troubled .listDrives) = (.done (), s₁) ∧
      Unanswered Sandbox.plainContext (.text "va") Sandbox.boom s₁ s' ∧
      (delete Sandbox.plainContext .null (.text "va") (.int 60)).run (troubled .listDrives) =
        (.failed g, s') ∧
      g.text = "Error while getting volume description: boom" ∧ ¬g.Says "va" :=
  ⟨_, _, _, rfl, .unlisted rfl, rfl, rfl, by decide⟩

end Storage

end BlockStorage
