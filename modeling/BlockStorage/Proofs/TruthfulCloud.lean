import BlockStorage.Proofs.Plain
import BlockStorage.Sandbox.Trial

/-!
Clouds that list their machines, and sessions that look at them.

A truthful cloud lists its machines whenever it is asked to. Asked for one machine, it may fail, but
what it then tells agrees with what it lists (`Truthful`). In a session whose compute side can be
used (`Sound`) a listing therefore succeeds (`run_fetchInstances`), a single machine is there as the
listing has it or is not told of (`run_fetchInstance`), and no step of a look-up makes the session
unsound (`Sound.steps`). A cloud held in memory that meets no trouble is one (`truthful_calm`).
-/
namespace BlockStorage

namespace Compute

open Session

variable {σ : Type} {ctx : Context σ} {c : Cloud} {s s' s₁ : Session σ}
  {listing : σ → List Instance} {Good : σ → Prop}

/-! ### Clouds that list their machines -/

/-- Connections can be opened to a cloud in a good state, which leaves it in one. -/
structure Opens (ctx : Context σ) (Good : σ → Prop) : Prop where
  driver : ∃ name, driverOf ctx.settings = .ok name
  connect : ∀ how w, Good w → ∃ w', ctx.backend.connect how w = (.ok (), w') ∧ Good w'

/-- What is asked of a cloud, as long as it is in a good state. Connections can be opened and
listings succeed. Asking for one machine may fail; if it does not, it shows what the listing shows,
or nothing. -/
structure Truthful (ctx : Context σ) (listing : σ → List Instance) (Good : σ → Prop) : Prop where
  driver : ∃ name, driverOf ctx.settings = .ok name
  connect : ∀ how w, Good w → ∃ w', ctx.backend.connect how w = (.ok (), w') ∧ Good w'
  list : ∀ via w, Good w → ∃ w',
    ctx.backend.respond via .listInstances w = (.ok (listing w'), w') ∧ Good w'
  describe : ∀ via id w, Good w → ∃ answer w',
    ctx.backend.respond via (.describeInstances [id]) w = (answer, w') ∧ Good w' ∧
      ∀ found, answer = .ok found → ∀ i ∈ found, i ∈ listing w' ∧ i.id.equal id = true
  plain : ∀ w, Good w → ∀ i ∈ listing w, i.Plain

theorem Truthful.opens (h : Truthful ctx listing Good) : Opens ctx Good := ⟨h.driver, h.connect⟩

/-- A session with a good cloud whose compute side can be used: the account is of a class that has
one, the side is open, and the connection that it uses, if it has one, is that of a driver. -/
structure Sound (Good : σ → Prop) (c : Cloud) (s : Session σ) : Prop where
  cloud : s.gateway.cloud = c
  account : c.cls.hasAccount = true
  opened : s.gateway.compute.closed = false
  fitting : ∀ via, s.gateway.compute.connection = some via → via.kind ≠ .foreign
  good : Good s.world.cloud

/-- What is remembered does not matter to that. -/
theorem Sound.remembering (h : Sound Good c s) (sightings : List (Value × Sighting)) :
    Sound Good c { s with gateway := { s.gateway with sightings } } :=
  ⟨h.cloud, h.account, h.opened, h.fitting, h.good⟩

/-- A session after the compute side has asked for something. -/
structure Asked (Good : σ → Prop) (via : Connection) (s s' : Session σ) : Prop where
  cloud : s'.gateway.cloud = s.gateway.cloud
  sightings : s'.gateway.sightings = s.gateway.sightings
  held : s'.gateway.compute.Holds via
  driver : via.kind ≠ .foreign
  good : Good s'.world.cloud

theorem Asked.sound {via : Connection} (h : Asked Good via s s') (hs : Sound Good c s) :
    Sound Good c s' where
  cloud := h.cloud.trans hs.cloud
  account := hs.account
  opened := h.held.1
  fitting other hother := by
    rw [h.held.2] at hother
    cases hother
    exact h.driver
  good := h.good

/-- A connection is opened. -/
theorem run_connect (hopens : Opens ctx Good) (hs : Sound Good c s) :
    ∃ world, (Session.connect ctx).run s = (.done s.nextConnection, { s with world }) ∧
      Good world.cloud := by
  obtain ⟨name, hdriver⟩ := hopens.driver
  obtain ⟨w', hconnect, hgood⟩ := hopens.connect ⟨name, s.gateway.cloud.apikey,
    s.gateway.cloud.apisecret, s.gateway.cloud.region⟩ s.world.cloud hs.good
  have haccount : s.gateway.cloud.cls.hasAccount = true := by rw [hs.cloud]; exact hs.account
  unfold Session.connect
  rw [Run.run_bind_done (run_current s)]
  dsimp only
  rw [if_pos haccount, hdriver, Run.ofExcept_ok, pure_bind, run_inWorld, World.run_connect,
    hconnect]
  exact ⟨_, rfl, hgood⟩

/-- A compute side without a connection opens one. -/
theorem run_computeConnection_free (hopens : Opens ctx Good) (hs : Sound Good c s)
    (hfree : s.gateway.compute.connection = none) :
    ∃ world, (computeConnection ctx).run s = (.done s.nextConnection, ⟨world, { s.gateway with
      compute := { s.gateway.compute with connection := some s.nextConnection } }⟩) ∧
      Good world.cloud := by
  obtain ⟨world, hconnect, hgood⟩ := run_connect hopens hs
  refine ⟨world, ?_, hgood⟩
  unfold computeConnection
  rw [Run.run_bind_done (run_current s)]
  dsimp only
  rw [if_neg (Bool.eq_false_iff.1 hs.opened), hfree]
  dsimp only
  rw [Run.run_bind_done (Run.run_wrapForeign_done hconnect)]
  rfl

/-- The compute side gets a connection. -/
theorem run_computeConnection (hopens : Opens ctx Good) (hs : Sound Good c s) :
    ∃ via s₁, (computeConnection ctx).run s = (.done via, s₁) ∧ Asked Good via s s₁ := by
  cases hheld : s.gateway.compute.connection with
  | some via =>
    exact ⟨via, s, computeConnection_held ctx s via hs.opened hheld,
      rfl, rfl, ⟨hs.opened, hheld⟩, hs.fitting via hheld, hs.good⟩
  | none =>
    obtain ⟨world, hrun, hgood⟩ := run_computeConnection_free hopens hs hheld
    exact ⟨s.nextConnection, _, hrun, rfl, rfl, ⟨hs.opened, rfl⟩, nofun, hgood⟩

/-- A request that needs no channel of its own is made and answered. -/
theorem run_askCompute (htrue : Truthful ctx listing Good) (hs : Sound Good c s) {r : Request}
    (hr : r.direct = false) :
    ∃ via s₁, Asked Good via s s₁ ∧
      (askCompute ctx r).run s = (.ofExcept (ctx.backend.respond via r s₁.world.cloud).1,
        { s₁ with world := { s₁.world with
          cloud := (ctx.backend.respond via r s₁.world.cloud).2
          journal := .requested via r :: s₁.world.journal } }) := by
  obtain ⟨via, s₁, hconnection, hasked⟩ := run_computeConnection htrue.opens hs
  have hserves : via.serves r = true := by
    unfold Connection.serves
    cases hkind : via.kind with
    | driver => rfl
    | channelless => rw [hr]; rfl
    | foreign => exact absurd hkind hasked.driver
  refine ⟨via, s₁, hasked, ?_⟩
  unfold askCompute
  rw [Run.run_bind_done hconnection, request, run_inWorld, World.run_request hserves]

/-- The listing is fetched as it is by then. -/
theorem run_fetchInstances (htrue : Truthful ctx listing Good) (hs : Sound Good c s) :
    ∃ via s₁, (fetchInstances ctx).run s = (.done (listing s₁.world.cloud), s₁) ∧
      Asked Good via s s₁ := by
  obtain ⟨via, s₁, hasked, hrun⟩ :=
    run_askCompute htrue hs (show Request.listInstances.direct = false from rfl)
  obtain ⟨w', hlist, hgood⟩ := htrue.list via s₁.world.cloud hasked.good
  rw [hlist] at hrun
  refine ⟨via, { s₁ with world := { s₁.world with
    cloud := w', journal := .requested via .listInstances :: s₁.world.journal } }, hrun, ?_⟩
  exact ⟨hasked.cloud, hasked.sightings, hasked.held, hasked.driver, hgood⟩

/-- A machine that is asked for is there as the listing has it, or is not told of. -/
theorem run_fetchInstance (htrue : Truthful ctx listing Good) (hs : Sound Good c s) (id : Value) :
    ∃ via seen s₁, (fetchInstance ctx id).run s = (.done seen, s₁) ∧ Asked Good via s s₁ ∧
      ∀ i, seen = some i → i ∈ listing s₁.world.cloud ∧ i.id.equal id = true := by
  obtain ⟨via, s₁, hasked, hrun⟩ :=
    run_askCompute htrue hs (show (Request.describeInstances [id]).direct = false from rfl)
  obtain ⟨answer, w', hdescribe, hgood, hshown⟩ :=
    htrue.describe via id s₁.world.cloud hasked.good
  have haccount : s.gateway.cloud.cls.hasAccount = true := by rw [hs.cloud]; exact hs.account
  rw [hdescribe] at hrun
  dsimp only at hrun
  unfold fetchInstance
  rw [Run.run_bind_done (run_current s), if_pos haccount, map_eq_pure_bind, Run.run_catching]
  cases answer with
  | ok found =>
    rw [Run.run_bind_done hrun]
    refine ⟨via, found.head?, _, rfl, ?_, fun i hi => ?_⟩
    · exact ⟨hasked.cloud, hasked.sightings, hasked.held, hasked.driver, hgood⟩
    · exact hshown found rfl i (List.mem_of_head? hi)
  | error f =>
    rw [Run.run_bind_failed hrun]
    refine ⟨via, none, _, rfl, ?_, nofun⟩
    exact ⟨hasked.cloud, hasked.sightings, hasked.held, hasked.driver, hgood⟩

/-! ### The steps of a look-up -/

/-- To look for a machine is to list machines or to ask for one of them. -/
def Looks : Deed → Prop
  | .asks .listInstances => True
  | .asks (.describeInstances ids) => ∃ id, ids = [id]
  | _ => False

/-- No step of a look-up makes the session unsound. -/
theorem Sound.step (htrue : Truthful ctx listing Good) (hs : Sound Good c s)
    (h : Step ctx Looks s s') : Sound Good c s' := by
  cases h with
  | requested via r held serves h =>
    rw [request, run_inWorld, World.run_request serves]
    refine ⟨hs.cloud, hs.account, hs.opened, hs.fitting, ?_⟩
    cases r with
    | listInstances =>
      obtain ⟨w', hlist, hgood⟩ := htrue.list via s.world.cloud hs.good
      show Good (ctx.backend.respond via .listInstances s.world.cloud).2
      rwa [hlist]
    | describeInstances ids =>
      obtain ⟨id, rfl⟩ := h
      obtain ⟨answer, w', hdescribe, hgood, -⟩ := htrue.describe via id s.world.cloud hs.good
      show Good (ctx.backend.respond via (.describeInstances [id]) s.world.cloud).2
      rwa [hdescribe]
    | _ => exact h.elim
  | slept seconds h => exact h.elim
  | connected free =>
    obtain ⟨via, s₁, hconnection, hasked⟩ := run_computeConnection htrue.opens hs
    rw [hconnection]
    exact hasked.sound hs
  | adopted via free held => exact ⟨hs.cloud, hs.account, hs.opened, hs.fitting, hs.good⟩
  | remembered address machine =>
    obtain ⟨sightings, hrun⟩ := remember_cases s address machine
    rw [hrun]
    exact hs.remembering sightings
  | forgotten address =>
    obtain ⟨sightings, hrun⟩ := forget_cases s address
    rw [hrun]
    exact hs.remembering sightings

theorem Sound.steps (htrue : Truthful ctx listing Good) (hs : Sound Good c s)
    (h : Steps ctx Looks s s') : Sound Good c s' := by
  induction h with
  | refl => exact hs
  | tail _ hstep ih => exact ih.step htrue hstep

/-! ### Clouds that stay as they are -/

/-- Being asked does not change what a cloud lists. -/
structure Unmoved (ctx : Context σ) (listing : σ → List Instance) (Good : σ → Prop) : Prop where
  connect : ∀ how w, Good w → listing (ctx.backend.connect how w).2 = listing w
  list : ∀ via w, Good w → listing (ctx.backend.respond via .listInstances w).2 = listing w
  describe : ∀ via id w, Good w →
    listing (ctx.backend.respond via (.describeInstances [id]) w).2 = listing w

/-- Such a cloud stays one that lists certain machines. -/
theorem Truthful.pinned (htrue : Truthful ctx listing Good) (hstill : Unmoved ctx listing Good)
    (nodes : List Instance) : Truthful ctx listing fun w => Good w ∧ listing w = nodes where
  driver := htrue.driver
  connect how w h := by
    obtain ⟨w', hconnect, hgood⟩ := htrue.connect how w h.1
    have hsame := hstill.connect how w h.1
    rw [hconnect, h.2] at hsame
    exact ⟨w', hconnect, hgood, hsame⟩
  list via w h := by
    obtain ⟨w', hlist, hgood⟩ := htrue.list via w h.1
    have hsame := hstill.list via w h.1
    rw [hlist, h.2] at hsame
    exact ⟨w', hlist, hgood, hsame⟩
  describe via id w h := by
    obtain ⟨answer, w', hdescribe, hgood, hshown⟩ := htrue.describe via id w h.1
    have hsame := hstill.describe via id w h.1
    rw [hdescribe, h.2] at hsame
    exact ⟨answer, w', hdescribe, ⟨hgood, hsame⟩, hshown⟩
  plain w h := htrue.plain w h.1

end Compute

/-! ### A cloud held in memory -/

namespace Sandbox

/-- A cloud that takes no time and meets no trouble, and whose machines are plain. -/
structure Calm (w : Sandbox) : Prop where
  latencies : w.latencies = []
  troubles : w.troubles = []
  plain : ∀ h ∈ w.hosts, (w.machine h).Plain

/-- The machines of a cloud. -/
def machines (w : Sandbox) : List Instance := w.hosts.map w.machine

theorem Calm.receive {w : Sandbox} (h : w.Calm) (m : Method) : w.receive m = (.ok (), w) := by
  unfold Sandbox.receive delay
  rw [h.latencies]
  show w.meet m = (.ok (), w)
  unfold meet
  rw [h.troubles]
  rfl

theorem Calm.respond {w : Sandbox} (h : w.Calm) (r : Request) : respond r w = w.act r := by
  unfold Sandbox.respond
  rw [h.receive]

theorem calm_pair (first second : List String) : (pair first second).Calm where
  latencies := rfl
  troubles := rfl
  plain h hh := by
    have hplain : ∀ id addresses,
        ((pair first second).machine (hostWith id addresses)).Plain := fun id addresses =>
      { id := ⟨id, rfl⟩
        privateAddresses := ⟨_, rfl, .inr ⟨addresses, rfl⟩⟩
        publicAddresses := .inl rfl
        mapping := .inl rfl }
    rcases List.mem_cons.1 hh with rfl | hh
    · exact hplain "i-1" first
    · rw [List.mem_singleton.1 hh]
      exact hplain "i-2" second

end Sandbox

namespace Compute

open Session Sandbox

/-- A calm cloud tells of its machines. -/
theorem truthful_calm {settings : Settings} {name : Value} (h : driverOf settings = .ok name) :
    Truthful (context settings) machines Calm where
  driver := ⟨name, h⟩
  connect _ w hw := ⟨w, hw.receive _, hw⟩
  list _ w hw := ⟨w, hw.respond _, hw⟩
  describe _ id w hw := by
    refine ⟨_, w, hw.respond _, hw, fun found hfound i hi => ?_⟩
    cases hfound
    obtain ⟨h, hh, rfl⟩ := List.mem_map.1 hi
    obtain ⟨hh, hmem⟩ := List.mem_filter.1 hh
    obtain ⟨asked, hasked, hequal⟩ := List.any_eq_true.1 hmem
    obtain ⟨text, htext⟩ := (hw.plain h hh).id
    refine ⟨List.mem_map.2 ⟨h, hh, rfl⟩, ?_⟩
    rw [List.mem_singleton.1 hasked, show h.id = .text text from htext,
      Value.equal_text_iff] at hequal
    rw [htext]
    exact Value.text_equal_iff.2 hequal
  plain w hw i hi := by
    obtain ⟨h, hh, rfl⟩ := List.mem_map.1 hi
    exact hw.plain h hh

/-- Asking a calm cloud does not change what it lists. -/
theorem unmoved_calm (settings : Settings) : Unmoved (context settings) machines Calm where
  connect _ _ hw := congrArg (fun answer => machines answer.2) (hw.receive .connect)
  list _ _ hw := congrArg (fun answer => machines answer.2) (hw.respond .listInstances)
  describe _ id _ hw :=
    congrArg (fun answer => machines answer.2) (hw.respond (.describeInstances [id]))

theorem sound_start {w : Sandbox} (h : w.Calm) : Sound Calm account (start w) where
  cloud := rfl
  account := rfl
  opened := rfl
  fitting _ h := nomatch h
  good := h

end Compute

end BlockStorage
