import BlockStorage.Proofs.SharedConnection
import BlockStorage.Proofs.Timeouts

/-!
One change at most, and never again.

To attach, detach or delete a volume is to make one request that changes something (`Single`).
Before it a machine may be looked for and volumes may be listed, after it nothing happens but that
the status of the volume is queried and waited for, through the connection that the request was made
through (`Polled`); if the request fails, nothing happens after it. So what an operation comes to is
decided where it makes its request: it ends before that, or the request is made once (`Changes`).
All other operations but that which creates a volume only read.

Statement: that holds of every operation in every session, whatever the cloud does (`sparing`).
-/
namespace BlockStorage

/-! ### What changes nothing -/

/-- Nothing at all. -/
def Deed.Nothing (_ : Deed) : Prop := False

/-- What follows a change: queries of the volume's status through the connection, and pauses. -/
def Event.Polls (native : Bool) (via : Connection) (id interval : Value) : Event → Prop
  | .requested other (.describeDisks ids) => other = via ∧ native = true ∧ ids = [id]
  | .requested other .listDisks => other = via ∧ native = false
  | .slept seconds => seconds = interval
  | _ => False

/-- The event is a request that changes something. -/
def Event.changes : Event → Bool
  | .requested _ r => r.mutating
  | _ => false

theorem Event.changes_of_reads {e : Event} (h : e.Within Deed.Reads) : e.changes = false := by
  cases e with
  | requested via r =>
    cases r with
    | listInstances | describeInstances _ | listDisks | describeDisks _ | describeTags _ => rfl
    | _ => exact h.elim
  | opened | slept => rfl

theorem Event.changes_of_nothing {e : Event} (h : e.Within Deed.Nothing) : e.changes = false := by
  cases e with
  | requested => exact h.elim
  | slept => exact h.elim
  | opened => rfl

theorem Event.changes_of_polls {native : Bool} {via : Connection} {id interval : Value} {e : Event}
    (h : e.Polls native via id interval) : e.changes = false := by
  cases e with
  | requested other r =>
    cases r with
    | listDisks | describeDisks _ => rfl
    | _ => exact h.elim
  | opened => exact h.elim
  | slept => rfl

/-- How many changes were asked for. -/
def changesIn (journal : List Event) : Nat := journal.countP Event.changes

theorem changesIn_append (new old : List Event) :
    changesIn (new ++ old) = changesIn new + changesIn old := List.countP_append

theorem changesIn_eq_zero {events : List Event} (h : ∀ e ∈ events, e.changes = false) :
    changesIn events = 0 := by
  unfold changesIn
  rw [List.countP_eq_zero]
  intro e he
  rw [h e he]
  exact Bool.false_ne_true

/-- Nothing is changed by what does no more than grow a journal by what changes nothing. -/
theorem changesIn_of_grows {P : Event → Prop} {before after : List Event} (h : Grows P before after)
    (hP : ∀ e, P e → e.changes = false) : changesIn after = changesIn before := by
  obtain ⟨events, rfl, hevents⟩ := h
  rw [changesIn_append, changesIn_eq_zero fun e he => hP e (hevents e he), Nat.zero_add]

namespace Storage

open Session

variable {σ α : Type} {ctx : Context σ} {s s' s₁ : Session σ} {via : Connection} {id : Value}

/-! ### Polling -/

/-- If the storage side uses a connection, nothing is done but to query the status of the volume
through it, and to pause. -/
def Polled (ctx : Context σ) (id : Value) (s s' : Session σ) : Prop :=
  ∀ via, s.gateway.storage.Holds via → s'.gateway = s.gateway ∧
    Grows (Event.Polls (native s.gateway.cloud) via id ctx.settings.pollInterval)
      s.world.journal s'.world.journal

namespace Polled

theorem refl (ctx : Context σ) (id : Value) (s : Session σ) : Polled ctx id s s :=
  fun _ _ => ⟨rfl, .refl _⟩

theorem trans (h₁ : Polled ctx id s s₁) (h₂ : Polled ctx id s₁ s') : Polled ctx id s s' := by
  intro via hvia
  obtain ⟨hgateway₁, hgrows₁⟩ := h₁ via hvia
  obtain ⟨hgateway₂, hgrows₂⟩ := h₂ via (by rwa [hgateway₁])
  rw [hgateway₁] at hgateway₂ hgrows₂
  exact ⟨hgateway₂, hgrows₁.trans hgrows₂⟩

theorem bind {β : Type} {x : Run (Session σ) α} {f : α → Run (Session σ) β}
    (hx : x.Keeps (Polled ctx id)) (hf : ∀ a, (f a).Keeps (Polled ctx id)) :
    (x >>= f).Keeps (Polled ctx id) := Run.Keeps.bind (R := Polled ctx id) trans hx hf

theorem catching {x : Run (Session σ) α} (hx : x.Keeps (Polled ctx id))
    {handle : Fault → Run (Session σ) α} (hh : ∀ f, (handle f).Keeps (Polled ctx id)) :
    (x.catching handle).Keeps (Polled ctx id) :=
  Run.Keeps.catching (R := Polled ctx id) trans hx hh

theorem mapFault {x : Run (Session σ) α} (hx : x.Keeps (Polled ctx id)) (change : Fault → Fault) :
    (x.mapFault change).Keeps (Polled ctx id) := Polled.catching hx fun _ s => refl ctx id s

theorem ofExcept (e : Except Fault α) : (Run.ofExcept e).Keeps (Polled ctx id) := fun s => by
  rw [Run.run_ofExcept]
  exact refl ctx id s

end Polled

/-- What is done to ask a storage side that uses a connection. -/
theorem run_askStorage_held (hvia : s.gateway.storage.Holds via) (r : Request) :
    (askStorage ctx r).run s = (request ctx via r).run s := by
  unfold askStorage
  rw [Run.run_bind_done (storageConnection_held ctx s via hvia.1 hvia.2)]

/-- A request is written down if it is made, and changes nothing of the session but its world. -/
theorem state_request (ctx : Context σ) (via : Connection) (r : Request) (s : Session σ) :
    ((request ctx via r).run s).2.gateway = s.gateway ∧
      ((request ctx via r).run s).2.world.journal =
        if via.serves r then .requested via r :: s.world.journal else s.world.journal := by
  rw [request, run_inWorld]
  split
  · rename_i hserves
    rw [World.run_request hserves]
    exact ⟨rfl, rfl⟩
  · rename_i hserves
    rw [World.run_request_refused hserves]
    exact ⟨rfl, rfl⟩

/-- A status query polls. -/
theorem polled_describeDisks (ctx : Context σ) (id : Value) :
    (describeDisks ctx [id]).Keeps (Polled ctx id) := by
  intro s via hvia
  unfold describeDisks
  rw [Run.run_bind_done (run_current s)]
  have hasks : ∀ r : Request,
      Event.Polls (native s.gateway.cloud) via id ctx.settings.pollInterval (.requested via r) →
      ((askStorage ctx r).run s).2.gateway = s.gateway ∧
        Grows (Event.Polls (native s.gateway.cloud) via id ctx.settings.pollInterval)
          s.world.journal ((askStorage ctx r).run s).2.world.journal := by
    intro r hr
    obtain ⟨hgateway, hjournal⟩ := state_request ctx via r s
    rw [run_askStorage_held hvia]
    refine ⟨hgateway, ?_⟩
    rw [hjournal]
    split
    · exact .cons hr _
    · exact .refl _
  cases hnative : native s.gateway.cloud with
  | true =>
    rw [hnative] at hasks
    exact hasks (.describeDisks [id]) ⟨rfl, rfl, rfl⟩
  | false =>
    rw [hnative] at hasks
    exact hasks .listDisks ⟨rfl, rfl⟩

theorem polled_status (ctx : Context σ) (id : Value) :
    (status ctx id).Keeps (Polled ctx id) := by
  refine Polled.mapFault (Polled.bind ?_ fun d => ?_) _
  · refine Polled.bind (polled_describeDisks ctx id) fun ds => ?_
    split
    · exact fun s => .refl ctx id s
    · exact fun s => .refl ctx id s
  · exact Polled.bind (Polled.ofExcept _) fun st s => .refl ctx id s

theorem polled_sleep (ctx : Context σ) (id : Value) :
    (sleep ctx ctx.settings.pollInterval).Keeps (Polled ctx id) := by
  intro s via hvia
  rw [sleep, run_inWorld]
  cases hcheck : Clock.checkSleep ctx.settings.pollInterval with
  | ok _ =>
    rw [World.run_sleep hcheck]
    have hslept : Event.Polls (native s.gateway.cloud) via id ctx.settings.pollInterval
        (.slept ctx.settings.pollInterval) := rfl
    exact ⟨rfl, .cons hslept _⟩
  | error f =>
    rw [World.run_sleep_refused hcheck]
    exact ⟨rfl, .refl _⟩

/-- A wait polls. -/
theorem polled_await (ctx : Context σ) (id : Value) (wanted : Status) (deadline : Float) :
    (await ctx id wanted deadline).Keeps (Polled ctx id) := by
  suffices ∀ patience last, ((watch ctx).await id wanted.toValue ctx.settings.pollInterval deadline
      patience last).Keeps (Polled ctx id) from
    Polled.bind (this _ _) fun _ s => .refl ctx id s
  intro patience
  induction patience with
  | zero => exact fun last s => .refl ctx id s
  | succ patience ih =>
    intro last
    unfold Watch.await
    refine Polled.bind (fun s => .refl ctx id s) fun s => ?_
    split
    · refine Polled.bind (Polled.mapFault (polled_status ctx id) _) fun seen => ?_
      split
      · exact fun s => .refl ctx id s
      · exact Polled.bind (polled_sleep ctx id) fun _ => ih seen
    · exact fun s => .refl ctx id s

/-! ### The request -/

/-- How an attempt to make a request of some kind ends. It ends before that, or the request is made
through the connection of the storage side; if it fails, so does the attempt. -/
inductive Changes (ctx : Context σ) (early : Deed → Prop) (wanted : Request → Prop)
    (s : Session σ) : Outcome α → Session σ → Prop
  | unasked {out : Outcome α} {s' : Session σ} (h : ∀ a, out ≠ .done a)
      (reach : Steps ctx early s s') : Changes ctx early wanted s out s'
  | asked {out : Outcome α} {s' : Session σ} {via : Connection} {r : Request} {s₁ : Session σ}
      (hr : wanted r) (reach : Steps ctx early s s₁) (held : s₁.gateway.storage.Holds via)
      (gateway : s'.gateway = s₁.gateway)
      (journal : s'.world.journal = .requested via r :: s₁.world.journal)
      (failed : ∀ f, (ctx.backend.respond via r s₁.world.cloud).1 = .error f → ∀ a, out ≠ .done a) :
      Changes ctx early wanted s out s'

/-- The operation made one request that changes something: before it only what is allowed early,
after it only polls, and nothing if it failed. -/
structure Single (ctx : Context σ) (early : Deed → Prop) (id : Value) (r : Request)
    (via : Connection) (s s₁ s' : Session σ) : Prop where
  reach : Steps ctx early s s₁
  held : s₁.gateway.storage.Holds via
  before : Grows (Event.Within early) s.world.journal s₁.world.journal
  after : ∃ events, s'.world.journal = events ++ .requested via r :: s₁.world.journal ∧
    (∀ e ∈ events, e.Polls (native s.gateway.cloud) via id ctx.settings.pollInterval) ∧
    ∀ f, (ctx.backend.respond via r s₁.world.cloud).1 = .error f → events = []

/-- The operation made one request of some kind that changes something, or none at all. -/
inductive Restrained (ctx : Context σ) (early : Deed → Prop) (wanted : Request → Prop) (id : Value)
    (s s' : Session σ) : Prop
  | none (h : Grows (Event.Within early) s.world.journal s'.world.journal)
  | single {r : Request} {via : Connection} {s₁ : Session σ} (hr : wanted r)
      (h : Single ctx early id r via s s₁ s')

variable {early : Deed → Prop} {wanted : Request → Prop}

theorem Single.of_polled {r : Request} {s₂ : Session σ} (reach : Steps ctx early s s₁)
    (held : s₁.gateway.storage.Holds via) (gateway : s₂.gateway = s₁.gateway)
    (journal : s₂.world.journal = .requested via r :: s₁.world.journal)
    (polled : Polled ctx id s₂ s')
    (failed : ∀ f, (ctx.backend.respond via r s₁.world.cloud).1 = .error f → s' = s₂) :
    Single ctx early id r via s s₁ s' := by
  obtain ⟨-, events, hevents, hpolls⟩ := polled via (by rwa [gateway])
  rw [gateway, reach.progress.cloud] at hpolls
  refine ⟨reach, held, reach.journal, events, by rw [hevents, journal], hpolls, fun f hf => ?_⟩
  rw [failed f hf] at hevents
  exact List.self_eq_append_left.1 hevents

/-- A request through a connection that the storage side holds is not made, or made once. -/
theorem changes_request {r : Request} (hr : wanted r) (reach : Steps ctx early s s₁)
    (held : s₁.gateway.storage.Holds via) :
    Changes ctx early wanted s ((request ctx via r).run s₁).1 ((request ctx via r).run s₁).2 := by
  rw [request, run_inWorld]
  by_cases hserves : via.serves r = true
  · rw [World.run_request hserves]
    refine .asked hr reach held rfl rfl fun f hf a hdone => ?_
    rw [hf] at hdone
    cases hdone
  · rw [World.run_request_refused hserves]
    refine .unasked (fun a hdone => ?_) reach
    cases hdone

theorem changes_askStorage {r : Request} (hr : wanted r) (s : Session σ) :
    Changes ctx early wanted s ((askStorage ctx r).run s).1 ((askStorage ctx r).run s).2 := by
  have reach : Steps ctx early s ((storageConnection ctx).run s).2 := within_storageConnection s
  unfold askStorage
  cases hrun : (storageConnection ctx).run s with
  | mk out s₁ =>
    rw [hrun] at reach
    cases out with
    | done via =>
      rw [Run.run_bind_done hrun]
      exact changes_request hr reach (storageConnection_done hrun)
    | failed f =>
      rw [Run.run_bind_failed hrun]
      exact .unasked nofun reach
    | stalled =>
      rw [Run.run_bind_stalled hrun]
      exact .unasked nofun reach

theorem handle_of_text {m : Machine} {text : String} (hid : m.id = .text text) (htext : text ≠ "") :
    handle m = .ok m := by
  obtain ⟨_, name, privateAddresses, publicAddresses, devices⟩ := m
  cases hid
  have htruthy : (Value.text text).truthy = true := by simpa [Value.truthy] using htext
  unfold handle
  rw [htruthy, Bool.not_true, if_neg Bool.false_ne_true, Value.writable_text, if_pos rfl]
  rfl

/-- A machine is attached to as it is referred to. -/
theorem changes_requestAttach {m : Machine} {device : Value}
    (hr : ∀ referred, handle m = .ok referred → wanted (.attach referred id device))
    (s : Session σ) :
    Changes ctx early wanted s ((requestAttach ctx m id device).run s).1
      ((requestAttach ctx m id device).run s).2 := by
  have reach : Steps ctx early s ((storageConnection ctx).run s).2 := within_storageConnection s
  unfold requestAttach
  cases hrun : (storageConnection ctx).run s with
  | mk out s₁ =>
    rw [hrun] at reach
    cases out with
    | done via =>
      rw [Run.run_bind_done hrun]
      cases hhandle : handle m with
      | error f => exact .unasked nofun reach
      | ok referred => exact changes_request (hr referred hhandle) reach (storageConnection_done hrun)
    | failed f =>
      rw [Run.run_bind_failed hrun]
      exact .unasked nofun reach
    | stalled =>
      rw [Run.run_bind_stalled hrun]
      exact .unasked nofun reach

theorem changes_requestDetach {m : Machine}
    (hr : wanted (if native s.gateway.cloud then .submitDetach id m.id true else .detach id)) :
    Changes ctx early wanted s ((requestDetach ctx id m).run s).1
      ((requestDetach ctx id m).run s).2 := by
  unfold requestDetach
  rw [Run.run_bind_done (run_current s)]
  cases hnative : native s.gateway.cloud with
  | true =>
    rw [hnative] at hr
    exact changes_askStorage hr s
  | false =>
    rw [hnative] at hr
    exact changes_askStorage hr s

/-- What makes one request of some kind, or none, and only polls after it, is restrained. -/
theorem Restrained.of_changes {β : Type} {change : Run (Session σ) α} {wrap : Fault → Fault}
    {rest : Run (Session σ) β} (reach : Steps ctx early s s₁)
    (h : Changes ctx early wanted s₁ (change.run s₁).1 (change.run s₁).2)
    (hrest : rest.Keeps (Polled ctx id)) :
    Restrained ctx early wanted id s
      ((change.wrapForeign wrap >>= fun _ => rest).run s₁).2 := by
  cases hrun : change.run s₁ with
  | mk out s₂ =>
    rw [hrun] at h
    cases out with
    | done a =>
      rw [Run.run_bind_done (Run.run_wrapForeign_done hrun)]
      cases h with
      | unasked h => exact absurd rfl (h a)
      | asked hr reach' held gateway journal failed =>
        exact .single hr (.of_polled (reach.trans reach') held gateway journal (hrest s₂)
          fun f hf => absurd rfl (failed f hf a))
    | failed f =>
      rw [Run.run_bind_failed (Run.run_wrapForeign_failed hrun)]
      cases h with
      | unasked h reach' => exact .none (Steps.journal (reach.trans reach'))
      | asked hr reach' held gateway journal failed =>
        exact .single hr (.of_polled (reach.trans reach') held gateway journal (.refl ctx id s₂)
          fun _ _ => rfl)
    | stalled =>
      rw [Run.run_bind_stalled (Run.run_wrapForeign_stalled hrun)]
      cases h with
      | unasked h reach' => exact .none (Steps.journal (reach.trans reach'))
      | asked hr reach' held gateway journal failed =>
        exact .single hr (.of_polled (reach.trans reach') held gateway journal (.refl ctx id s₂)
          fun _ _ => rfl)

/-- What comes to its request and only polls after it makes that one request. -/
theorem single_of_request {β : Type} {r : Request} {change : Run (Session σ) r.Answer}
    {wrap : Fault → Fault} {rest : Run (Session σ) β} {s₂ : Session σ}
    (reach : Steps ctx early s s₂) (held : s₂.gateway.storage.Holds via)
    (hserves : via.serves r = true) (hchange : change.run s₁ = (request ctx via r).run s₂)
    (hrest : rest.Keeps (Polled ctx id)) :
    Single ctx early id r via s s₂ ((change.wrapForeign wrap >>= fun _ => rest).run s₁).2 := by
  rw [request, run_inWorld, World.run_request hserves] at hchange
  cases hanswer : (ctx.backend.respond via r s₂.world.cloud).1 with
  | ok a =>
    rw [hanswer] at hchange
    rw [Run.run_bind_done (Run.run_wrapForeign_done hchange)]
    refine .of_polled reach held ?_ ?_ (hrest _) fun f hf => ?_
    · rfl
    · rfl
    · rw [hanswer] at hf
      cases hf
  | error f =>
    rw [hanswer] at hchange
    rw [Run.run_bind_failed (Run.run_wrapForeign_failed hchange)]
    refine .of_polled reach held ?_ ?_ (.refl ctx id _) fun _ _ => rfl
    · rfl
    · rfl

/-! ### Operations -/

theorem reads_findMachine (ctx : Context σ) (address : Value) :
    Within ctx Deed.Reads (Compute.findMachine ctx address) :=
  Compute.within_findMachine address trivial fun _ => trivial

theorem reads_listAttached (ctx : Context σ) (m : Machine) :
    Within ctx Deed.Reads (listAttached ctx m) :=
  within_listAttached m trivial trivial fun _ => trivial

/-- A decision changes nothing. -/
theorem restrained_ofExcept {β : Type} {e : Except Fault α} {f : α → Run (Session σ) β}
    (reach : Steps ctx early s s₁)
    (h : ∀ a, Restrained ctx early wanted id s ((f a).run s₁).2) :
    Restrained ctx early wanted id s ((Run.ofExcept e >>= f).run s₁).2 := by
  cases e with
  | error g => exact .none reach.journal
  | ok a => exact h a

/-- An operation that is due by a deadline does nothing if there is none. -/
theorem restrained_deadline {x : Float → Run (Session σ) α} (timeout : Value)
    (h : ∀ deadline, Restrained ctx early wanted id s ((x deadline).run s).2) :
    Restrained ctx early wanted id s ((deadline ctx timeout >>= x).run s).2 := by
  unfold deadline
  rw [bind_assoc, Run.run_bind_done (run_now ctx s)]
  exact restrained_ofExcept .refl h

/-- What is read first changes nothing, and what comes after may depend on it. -/
theorem restrained_reading {x : Run (Session σ) α} {β : Type} {f : α → Run (Session σ) β}
    (reach : Steps ctx early s s₁) (hx : Within ctx early x)
    (h : ∀ a s₂, x.run s₁ = (.done a, s₂) → Steps ctx early s s₂ →
      Restrained ctx early wanted id s ((f a).run s₂).2) :
    Restrained ctx early wanted id s ((x >>= f).run s₁).2 := by
  have reach' := hx s₁
  cases hrun : x.run s₁ with
  | mk out s₂ =>
    rw [hrun] at reach'
    cases out with
    | done a =>
      rw [Run.run_bind_done hrun]
      exact h a s₂ hrun (reach.trans reach')
    | failed f =>
      rw [Run.run_bind_failed hrun]
      exact .none (Steps.journal (reach.trans reach'))
    | stalled =>
      rw [Run.run_bind_stalled hrun]
      exact .none (Steps.journal (reach.trans reach'))

/-- A volume is asked to be attached once at most, to the machine that was found. -/
theorem restrained_attach (ctx : Context σ) (s : Session σ) (id device address timeout : Value) :
    Restrained ctx Deed.Reads
      (fun r => ∃ m s₁ referred, (Compute.findMachine ctx address).run s = (.done m, s₁) ∧
        handle m = .ok referred ∧ r = .attach referred id device)
      id s ((Storage.attach ctx id device address timeout).run s).2 := by
  unfold attach Run.translating
  rw [Run.state_mapFault]
  refine restrained_ofExcept .refl fun _ => restrained_ofExcept .refl fun _ => ?_
  refine restrained_deadline timeout fun deadline => ?_
  refine restrained_reading .refl (reads_findMachine ctx address) fun m s₁ hfind reach => ?_
  refine restrained_ofExcept reach fun holds => ?_
  cases holds with
  | true => exact .none reach.journal
  | false =>
    refine .of_changes reach (changes_requestAttach (fun referred hreferred => ?_) s₁)
      (polled_await ctx id .inUse deadline)
    exact ⟨m, s₁, referred, hfind, hreferred, rfl⟩

/-- A volume is asked to be detached once at most, from the machine that was found if the cloud is
told of one. -/
theorem restrained_detach (ctx : Context σ) (s : Session σ) (id address timeout : Value) :
    Restrained ctx Deed.Reads
      (fun r => ∃ m s₁, (Compute.findMachine ctx address).run s = (.done m, s₁) ∧
        r = if native s.gateway.cloud then .submitDetach id m.id true else .detach id)
      id s ((detach ctx id address timeout).run s).2 := by
  unfold detach Run.translating
  rw [Run.state_mapFault]
  refine restrained_deadline timeout fun deadline => ?_
  refine restrained_reading .refl (reads_findMachine ctx address) fun m s₁ hfind reach => ?_
  refine restrained_reading reach (reads_listAttached ctx m) fun attached s₂ _ reach => ?_
  cases hmem : Value.mem id (attached.map (·.id)) with
  | false => exact .none reach.journal
  | true =>
    refine .of_changes reach (changes_requestDetach ⟨m, s₁, hfind, ?_⟩)
      (polled_await ctx id .available deadline)
    rw [reach.progress.cloud]

/-- Whether the volume is gone or the wait is over, nothing is done but to wait. -/
theorem polled_awaitDeletion (ctx : Context σ) (id : Value) (deadline : Float) :
    ((await ctx id .deleting deadline).catching fun f =>
      if f.isA .volumeNotFound then pure () else Run.fail f).Keeps (Polled ctx id) := by
  refine Polled.catching (polled_await ctx id .deleting deadline) fun f => ?_
  split
  · exact fun s => .refl ctx id s
  · exact fun s => .refl ctx id s

/-- A volume is asked to be destroyed once at most, before anything else. -/
theorem restrained_delete (ctx : Context σ) (s : Session σ) (location id timeout : Value) :
    Restrained ctx Deed.Nothing (fun r => r = .destroy id) id s
      ((delete ctx location id timeout).run s).2 := by
  refine restrained_deadline timeout fun deadline => ?_
  refine .of_changes .refl ?_ (polled_awaitDeletion ctx id deadline)
  apply changes_askStorage
  rfl

/-- If there is a deadline and a connection to ask through, it is asked to be destroyed. -/
theorem single_delete {timeout : Value} {deadline : Float}
    (hdeadline : Deadline.after (ctx.backend.now s.world.cloud) ctx.settings.operationTimeout
      timeout = .ok deadline)
    (hstorage : (storageConnection ctx).run s = (.done via, s₁))
    (hserves : via.serves (.destroy id) = true) (location : Value) :
    Single ctx Deed.Nothing id (.destroy id) via s s₁
      ((delete ctx location id timeout).run s).2 := by
  have reach : Steps ctx Deed.Nothing s ((storageConnection ctx).run s).2 :=
    within_storageConnection s
  rw [hstorage] at reach
  have hdue := run_deadline ctx timeout s
  rw [hdeadline] at hdue
  unfold delete
  rw [Run.run_bind_done hdue]
  exact single_of_request reach (storageConnection_done hstorage) hserves
    (Run.run_bind_done hstorage) (polled_awaitDeletion ctx id deadline)

end Storage

namespace Storage

open Session

variable {σ : Type} {ctx : Context σ} {s s' s₁ : Session σ} {early : Deed → Prop} {id : Value}

/-! ### One change -/

theorem Single.changesIn {r : Request} {via : Connection} (h : Single ctx early id r via s s₁ s')
    (hearly : ∀ e : Event, e.Within early → e.changes = false) :
    changesIn s'.world.journal ≤ changesIn s.world.journal + 1 := by
  obtain ⟨events, hjournal, hpolls, -⟩ := h.after
  have hbefore := changesIn_of_grows h.before hearly
  have hafter := changesIn_eq_zero fun e he => Event.changes_of_polls (hpolls e he)
  have hone : BlockStorage.changesIn (.requested via r :: s₁.world.journal) ≤
      BlockStorage.changesIn s₁.world.journal + 1 := by
    unfold BlockStorage.changesIn
    rw [List.countP_cons]
    split <;> omega
  rw [hjournal, changesIn_append]
  omega

/-- What is restrained asks for one change at most. -/
theorem Restrained.changesIn {wanted : Request → Prop} (h : Restrained ctx early wanted id s s')
    (hearly : ∀ e : Event, e.Within early → e.changes = false) :
    changesIn s'.world.journal ≤ changesIn s.world.journal + 1 := by
  cases h with
  | none h => exact Nat.le_succ_of_le (Nat.le_of_eq (changesIn_of_grows h hearly))
  | single hr h => exact h.changesIn hearly

/-- What the operations ask of a cloud in a session. -/
structure Sparing (ctx : Context σ) (s : Session σ) : Prop where
  /-- A volume is attached by one request, for the machine that was just found. -/
  attach : ∀ id device address timeout, Restrained ctx Deed.Reads
    (fun r => ∃ m s₁ referred, (Compute.findMachine ctx address).run s = (.done m, s₁) ∧
      handle m = .ok referred ∧ r = .attach referred id device)
    id s ((Storage.attach ctx id device address timeout).run s).2
  /-- A machine whose id is a text is referred to by that. -/
  referred : ∀ (m : Machine) (text : String), m.id = .text text → text ≠ "" → handle m = .ok m
  /-- A volume is detached by one request, and where volumes are managed natively the cloud is told
  which machine to detach it from, and to do so by force. -/
  detach : ∀ id address timeout, Restrained ctx Deed.Reads
    (fun r => ∃ m s₁, (Compute.findMachine ctx address).run s = (.done m, s₁) ∧
      r = if native s.gateway.cloud then .submitDetach id m.id true else .detach id)
    id s ((Storage.detach ctx id address timeout).run s).2
  /-- A volume is deleted by one request, which is the first. -/
  delete : ∀ location id timeout, Restrained ctx Deed.Nothing (fun r => r = .destroy id) id s
    ((Storage.delete ctx location id timeout).run s).2
  /-- That request is made if there is a deadline and a connection to make it through. -/
  deleted : ∀ location id timeout deadline via s₁,
    Deadline.after (ctx.backend.now s.world.cloud) ctx.settings.operationTimeout timeout =
      .ok deadline →
    (storageConnection ctx).run s = (.done via, s₁) → via.serves (.destroy id) = true →
    Single ctx Deed.Nothing id (.destroy id) via s s₁
      ((Storage.delete ctx location id timeout).run s).2
  /-- All other operations but that which creates a volume only read. -/
  reads : ∀ op : Operation, op.Reads →
    Grows (Event.Within Deed.Reads) s.world.journal ((op.run ctx).run s).2.world.journal
  unchanged : ∀ op : Operation, op.Reads →
    changesIn ((op.run ctx).run s).2.world.journal = changesIn s.world.journal
  /-- Nothing but the creation of a volume asks for more than one change. -/
  once : ∀ op : Operation, (∀ template location timeout, op ≠ .create template location timeout) →
    changesIn ((op.run ctx).run s).2.world.journal ≤ changesIn s.world.journal + 1

/-- **Operations are sparing with changes**, in every session and whatever the cloud does: to
attach, detach or delete a volume asks for one change at most, once, and does nothing but poll after
it, and no other operation on volumes that are there asks for any. -/
theorem sparing (ctx : Context σ) (s : Session σ) : Sparing ctx s where
  attach := restrained_attach ctx s
  referred m text hid htext := handle_of_text hid htext
  detach := restrained_detach ctx s
  delete := restrained_delete ctx s
  deleted location id timeout deadline via s₁ hdeadline hstorage hserves :=
    single_delete hdeadline hstorage hserves location
  reads op hop := Steps.journal (op.within_reads ctx hop s)
  unchanged op hop :=
    changesIn_of_grows (Steps.journal (op.within_reads ctx hop s)) fun _ => Event.changes_of_reads
  once op hop := by
    have hreads : ∀ e : Event, e.Within Deed.Reads → e.changes = false :=
      fun _ => Event.changes_of_reads
    cases op with
    | create template location timeout => exact absurd rfl (hop template location timeout)
    | attach id device address timeout =>
      exact (restrained_attach ctx s id device address timeout).changesIn hreads
    | detach id address timeout =>
      exact (restrained_detach ctx s id address timeout).changesIn hreads
    | delete location id timeout =>
      exact (restrained_delete ctx s location id timeout).changesIn
        fun _ => Event.changes_of_nothing
    | _ =>
      refine Nat.le_succ_of_le (Nat.le_of_eq (changesIn_of_grows ?_ hreads))
      refine Steps.journal (Operation.within_reads ctx ?_ s)
      trivial

end Storage

end BlockStorage
