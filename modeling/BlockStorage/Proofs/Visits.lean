import BlockStorage.Proofs.Ascending
import BlockStorage.Proofs.Closing
import BlockStorage.Proofs.Region
import BlockStorage.Sandbox.Trial
import BlockStorage.Visit

/-!
Visits leave nothing open.

A visit opens a cloud, makes one operation and closes what that opened. Closing always succeeds, so
however the operation ends, both sides are closed after it, the connection that it opened, if it
opened one, is told to close and asked for nothing else any more, and the visit ends as the operation
does by itself (`run_visit`).

Statement: that holds of each of the eight functions (`settled_of_call`). What is shown of a result is
a table of its fields; ids are shown in ascending order, and not at all if they have none
(`unsorted_ids`).
-/
namespace BlockStorage

/-- An outcome whose result is shown in some form, which may fail. -/
def Outcome.shown {α β : Type} (render : α → Except Fault β) : Outcome α → Outcome β
  | .done a => .ofExcept (render a)
  | .failed f => .failed f
  | .stalled => .stalled

namespace Visit

open Session

variable {σ α β : Type} {ctx : Context σ} {title : Value} {cloud : Cloud} {p p' : Place σ}
  {s₁ : Session σ}

/-! ### The functions -/

/-- What a cloud is visited for. -/
inductive Call where
  | list (address : Value)
  | listAll
  | create (template location timeout : Value)
  | attach (id device address timeout : Value)
  | detach (id address timeout : Value)
  | delete (id location timeout : Value)
  | volumeName (id : Value)
  | volumeIds (address : Value)

namespace Call

/-- What the operation results in. -/
def Result : Call → Type
  | list _ | listAll => List Volume
  | create .. => Volume
  | attach .. | detach .. | delete .. => Unit
  | volumeName _ => Value
  | volumeIds _ => List Value

/-- What is shown of it. -/
def Shown : Call → Type
  | list _ | listAll => List Fields
  | create .. => Fields
  | attach .. | detach .. | delete .. => Unit
  | volumeName _ => Value
  | volumeIds _ => List Value

/-- The operation by itself. -/
def alone (ctx : Context σ) : (c : Call) → Run (Session σ) c.Result
  | list address => Storage.list ctx address
  | listAll => Storage.listAll ctx
  | create template location timeout => Storage.create ctx template location timeout
  | attach id device address timeout => Storage.attach ctx id device address timeout
  | detach id address timeout => Storage.detach ctx id address timeout
  | delete id location timeout => Storage.delete ctx location id timeout
  | volumeName id => Storage.volumeName ctx id
  | volumeIds address => Compute.volumeIds ctx address

/-- How a result is shown. -/
def render : (c : Call) → c.Result → Except Fault c.Shown
  | list _, volumes | listAll, volumes => .ok (volumes.map Volume.toFields)
  | create .., volume => .ok volume.toFields
  | attach .., _ | detach .., _ | delete .., _ => .ok ()
  | volumeName _, name => .ok name
  | volumeIds _, ids => Machine.sortedIds ids

/-- The visit. -/
def make (ctx : Context σ) (title : Value) : (c : Call) → Run (Place σ) c.Shown
  | list address => Visit.list ctx title address
  | listAll => Visit.listAll ctx title
  | create template location timeout => Visit.create ctx title template location timeout
  | attach id device address timeout => Visit.attach ctx title id device address timeout
  | detach id address timeout => Visit.detach ctx title id address timeout
  | delete id location timeout => Visit.delete ctx title id location timeout
  | volumeName id => Visit.volumeName ctx title id
  | volumeIds address => Visit.volumeIds ctx title address

theorem works_alone (ctx : Context σ) (c : Call) : Within ctx Deed.Works (c.alone ctx) := by
  cases c with
  | list address =>
    exact Storage.within_list address trivial (fun _ => trivial) trivial trivial fun _ => trivial
  | listAll => exact Storage.within_listAll trivial trivial fun _ => trivial
  | create template location timeout => exact Storage.within_create ctx template location timeout
  | attach id device address timeout => exact Storage.within_attach ctx id device address timeout
  | detach id address timeout => exact Storage.within_detach ctx id address timeout
  | delete id location timeout => exact Storage.within_delete ctx location id timeout
  | volumeName id => exact Storage.within_volumeName id trivial
  | volumeIds address => exact Compute.within_volumeIds address trivial fun _ => trivial

end Call

/-! ### Closing -/

/-- A new session. -/
def fresh (w : World σ) (cloud : Cloud) : Session σ := ⟨w, { cloud }⟩

/-- What a visit leaves of the place where it began, if its operation has led to `s₁`. -/
structure Released (p : Place σ) (s₁ : Session σ) (p' : Place σ) : Prop where
  /-- Both sides are closed for good. -/
  closed : ∃ g, p'.gateway = some g ∧ (Session.mk p'.world g).Closed
  /-- One connection was opened at most. -/
  count : p'.world.connections = p.world.connections ∨
    p'.world.connections = p.world.connections + 1
  /-- It is told to close, and nothing comes after that. -/
  trace : ∃ works closings, s₁.world.journal = works ++ p.world.journal ∧
    p'.world.journal = closings ++ s₁.world.journal ∧
    (∀ e ∈ works, e.Within Deed.Works) ∧
    (∀ e ∈ closings, ∃ via, via.serial = p.world.connections ∧ e = .requested via .close) ∧
    (closings = [] ↔ p'.world.connections = p.world.connections)

/-- Closing leaves the world, in which the connections were told to close. -/
theorem run_disconnect_journal (ctx : Context σ) (s : Session σ) :
    ∃ w, (disconnect ctx).run s = (.done (), s.releasing true w) ∧
      w.connections = s.world.connections ∧
      w.journal = closings s.gateway.compute.connection ++
        (closings s.gateway.storage.connection ++ s.world.journal) := by
  obtain ⟨w, hrun, hcount⟩ := run_disconnect ctx s
  have hjournal := journal_release ctx true s
  have hsame : ((disconnect ctx).run s).2.world = w := by rw [hrun]; rfl
  exact ⟨w, hrun, hcount, by rw [← hjournal, ← hsame]; rfl⟩

/-- The sides of a new session hold nothing but the one connection that was opened, if one was. -/
theorem closings_of_works (hsteps : Steps ctx Deed.Works (fresh p.world cloud) s₁) :
    (s₁.world.connections = p.world.connections ∧
        closings s₁.gateway.compute.connection ++ closings s₁.gateway.storage.connection = []) ∨
      (s₁.world.connections = p.world.connections + 1 ∧
        (∀ e ∈ closings s₁.gateway.compute.connection ++ closings s₁.gateway.storage.connection,
          e = .requested (fresh p.world cloud).nextConnection .close) ∧
        closings s₁.gateway.compute.connection ++ closings s₁.gateway.storage.connection ≠ []) := by
  have hprogress := hsteps.progress
  have hshared := hprogress.shared ⟨rfl, nofun, nofun⟩
  have hserves : (fresh p.world cloud).nextConnection.serves .close = true := rfl
  rcases hprogress.opens with ⟨hcompute, hcount⟩ | ⟨-, hheld, hcount⟩
  · have hfree : s₁.gateway.compute.Free := by
      rw [hcompute]
      exact ⟨rfl, rfl⟩
    rw [hfree.2, (hshared.storage_free hfree).2]
    exact .inl ⟨hcount, rfl⟩
  · refine .inr ⟨hcount, ?_, ?_⟩
    · rw [hheld.2]
      cases hstorage : s₁.gateway.storage.connection with
      | none => simp [closings, hserves]
      | some via =>
        cases (hshared.same via hstorage).symm.trans hheld.2
        simp [closings, hserves]
    · rw [hheld.2]
      simp [closings, hserves]

/-- What is left when a session that works led to is closed. -/
theorem released_of_works (hsteps : Steps ctx Deed.Works (fresh p.world cloud) s₁) {w : World σ}
    (hcount : w.connections = s₁.world.connections)
    (hjournal : w.journal = closings s₁.gateway.compute.connection ++
      (closings s₁.gateway.storage.connection ++ s₁.world.journal)) :
    Released p s₁ ⟨w, some (s₁.releasing true w).gateway⟩ := by
  obtain ⟨works, hworks, hwithin⟩ := Steps.journal hsteps
  rw [← List.append_assoc] at hjournal
  refine ⟨⟨_, rfl, closed_releasing s₁ w⟩, ?_, works, _, hworks, hjournal, hwithin, ?_, ?_⟩
  · rw [hcount]
    exact (closings_of_works hsteps).imp And.left And.left
  · rcases closings_of_works hsteps with ⟨-, hnone⟩ | ⟨-, hone, -⟩
    · rw [hnone]
      exact nofun
    · exact fun e he => ⟨_, rfl, hone e he⟩
  · rw [hcount]
    rcases closings_of_works hsteps with ⟨hnone, hnothing⟩ | ⟨hone, -, hsome⟩
    · exact iff_of_true hnothing hnone
    · exact iff_of_false hsome (by rw [hone]; exact Nat.succ_ne_self _)

theorem run_entering {g : Gateway} {x : Run (Session σ) α} {out : Outcome α}
    (h : x.run ⟨p.world, g⟩ = (out, s₁)) :
    (Place.entering g x).run p = (out, ⟨s₁.world, some s₁.gateway⟩) :=
  Prod.ext (congrArg Prod.fst h :) (congrArg (fun r => Place.mk r.2.world (some r.2.gateway)) h :)

/-- A visit to a cloud that is there ends as the operation does, and leaves nothing open. -/
theorem run_visit {x : Run (Session σ) α} {out : Outcome α} (hx : Within ctx Deed.Works x)
    (hcloud : Cloud.named ctx.known .abstract ctx.settings.clouds title = .ok cloud)
    (hrun : x.run (fresh p.world cloud) = (out, s₁)) :
    ∃ p', (visit ctx title x).run p = (out, p') ∧ (out ≠ .stalled → Released p s₁ p') := by
  have hsteps := hx (fresh p.world cloud)
  rw [hrun] at hsteps
  have hopen : (visit ctx title x).run p =
      (Place.entering { cloud } (x.ensuring (disconnect ctx))).run ⟨p.world, some { cloud }⟩ := by
    refine Run.run_bind_done ?_
    unfold Place.openNamed
    rw [hcloud]
    rfl
  rw [hopen]
  by_cases hout : out = .stalled
  · rw [hout] at hrun ⊢
    exact ⟨_, run_entering (Run.run_ensuring_stalled hrun), absurd rfl⟩
  · obtain ⟨w, hclose, hcount, hjournal⟩ := run_disconnect_journal ctx s₁
    exact ⟨_, run_entering (Run.run_ensuring hrun hclose hout), fun _ =>
      released_of_works hsteps hcount hjournal⟩

/-! ### What a visit comes to -/

/-- What becomes of a visit. -/
structure Settled (ctx : Context σ) (title : Value) (c : Call) (p : Place σ) : Prop where
  /-- If there is no such cloud, nothing is done. -/
  unbuilt : ∀ f, Cloud.named ctx.known .abstract ctx.settings.clouds title = .error f →
    (c.make ctx title).run p = (.failed f, ⟨p.world, none⟩)
  /-- If there is one, the visit ends as the operation does by itself in a new session, and nothing is
  left open when it ends. -/
  built : ∀ cloud out s₁, Cloud.named ctx.known .abstract ctx.settings.clouds title = .ok cloud →
    (c.alone ctx).run (fresh p.world cloud) = (out, s₁) →
    ∃ p', (c.make ctx title).run p = (out.shown c.render, p') ∧
      (out ≠ .stalled → Released p s₁ p')
  /-- Ids that can be compared are shown in ascending order, each once. -/
  sorted : ∀ address, c = .volumeIds address → ∀ (s s' : Session σ) ids,
    (Compute.volumeIds ctx address).run s = (.done ids, s') → Value.Ordered ids →
    ∃ shown, Machine.sortedIds ids = .ok shown ∧ shown.Perm ids ∧ Value.Ascending shown
  /-- Texts can be compared. -/
  texts : ∀ texts : List String, Value.Ordered (texts.map Value.text)
  /-- Ids that cannot be compared are not shown. -/
  unsorted : ∀ ids, Value.comparable ids = false →
    Machine.sortedIds ids = .error (.wrongKind "ids of different kinds have no order")

theorem run_unbuilt {x : Run (Session σ) α} {f : Fault}
    (h : Cloud.named ctx.known .abstract ctx.settings.clouds title = .error f) :
    (visit ctx title x).run p = (.failed f, ⟨p.world, none⟩) := by
  refine Run.run_bind_failed ?_
  unfold Place.openNamed
  rw [h]
  rfl

/-- What is done to a result does not matter to the session. -/
theorem run_map {f : α → β} {x : Run (Session σ) α} {s : Session σ} {out : Outcome α}
    (h : x.run s = (out, s₁)) : (f <$> x).run s = (out.shown fun a => .ok (f a), s₁) := by
  rw [map_eq_pure_bind]
  cases out with
  | done a => exact Run.run_bind_done h
  | failed f => exact Run.run_bind_failed h
  | stalled => exact Run.run_bind_stalled h

theorem shown_ok (out : Outcome α) : out.shown (.ok : α → Except Fault α) = out := by
  cases out <;> rfl

theorem stalled_of_shown {out : Outcome α} {render : α → Except Fault β}
    (h : out.shown render = .stalled) : out = .stalled := by
  cases out with
  | done a =>
    simp only [Outcome.shown] at h
    cases hr : render a <;> rw [hr] at h <;> cases h
  | failed f => cases h
  | stalled => rfl

/-- A visit for a result that is shown in another form. -/
theorem run_visit_map {f : α → β} {x : Run (Session σ) α} {out : Outcome α}
    (hx : Within ctx Deed.Works x)
    (hcloud : Cloud.named ctx.known .abstract ctx.settings.clouds title = .ok cloud)
    (hrun : x.run (fresh p.world cloud) = (out, s₁)) :
    ∃ p', (visit ctx title (f <$> x)).run p = (out.shown fun a => .ok (f a), p') ∧
      (out ≠ .stalled → Released p s₁ p') := by
  have hmap : Within ctx Deed.Works (f <$> x) := by
    rw [map_eq_pure_bind]
    exact hx.bind fun _ => Within.pure _
  obtain ⟨p', hvisit, hreleased⟩ := run_visit hmap hcloud (run_map hrun)
  exact ⟨p', hvisit, fun hout => hreleased fun h => hout (stalled_of_shown h)⟩

/-- **A visit reports what its operation does and leaves nothing open**, whatever becomes of the
operation and whatever the cloud says to being closed. -/
theorem settled_of_call (ctx : Context σ) (title : Value) (c : Call) (p : Place σ) :
    Settled ctx title c p where
  unbuilt f h := by
    cases c with
    | volumeIds address => exact Run.run_bind_failed (run_unbuilt h)
    | _ => exact run_unbuilt h
  built cloud out s₁ hcloud hrun := by
    have hworks := c.works_alone ctx
    cases c with
    | list address => exact run_visit_map hworks hcloud hrun
    | listAll => exact run_visit_map hworks hcloud hrun
    | create template location timeout => exact run_visit_map hworks hcloud hrun
    | volumeIds address =>
      obtain ⟨p', hvisit, hreleased⟩ := run_visit hworks hcloud hrun
      refine ⟨p', ?_, hreleased⟩
      cases out with
      | done ids => exact (Run.run_bind_done hvisit).trans (Run.run_ofExcept _ _)
      | failed f => exact Run.run_bind_failed hvisit
      | stalled => exact Run.run_bind_stalled hvisit
    | _ =>
      obtain ⟨p', hvisit, hreleased⟩ := run_visit hworks hcloud hrun
      refine ⟨p', ?_, hreleased⟩
      rw [← shown_ok out] at hvisit
      exact hvisit
  sorted address hc s s' ids hrun hordered := by
    obtain ⟨m, s₁, -, htold⟩ := Run.done_of_run_bind hrun
    rw [Run.run_ofExcept] at htold
    exact Machine.sortedIds_of_ordered (Outcome.ofExcept_eq_done.1 (congrArg Prod.fst htold)) hordered
  texts := Machine.ordered_texts
  unsorted ids := Machine.sortedIds_of_unordered

/-- Settings with an account. -/
def accountSettings : Settings :=
  { Sandbox.plainSettings with
    clouds := .dict [("c", .dict [("provider", .text "ec2"), ("apikey", .text "k"),
      ("apisecret", .text "s"), ("region", .text "r1")])] }

/-- A machine with two volumes whose ids are of different kinds. -/
def mixed : Sandbox.Host :=
  { Sandbox.hostWith "i-1" ["10.0.0.1"] with
    mapping := .list [.dict [("ebs", .dict [("volume_id", .int 5)])],
      .dict [("ebs", .dict [("volume_id", .text "a")])]] }

def mixedPlace : Place Sandbox := ⟨⟨{ clock := 0, hosts := [mixed] }, [], 0⟩, none⟩

/-- The ids of these volumes are told by the operation, but they have no order to be shown in. -/
theorem unsorted_ids :
    ∃ cloud s₁ p', Cloud.named Cloud.usual .abstract accountSettings.clouds (.text "c") = .ok cloud ∧
      (Compute.volumeIds (Sandbox.context accountSettings) (.text "10.0.0.1")).run
        (fresh mixedPlace.world cloud) = (.done [.int 5, .text "a"], s₁) ∧
      (Visit.volumeIds (Sandbox.context accountSettings) (.text "c") (.text "10.0.0.1")).run
        mixedPlace = (.failed (.wrongKind "ids of different kinds have no order"), p') :=
  ⟨_, _, _, rfl, rfl, rfl⟩

end Visit

end BlockStorage
