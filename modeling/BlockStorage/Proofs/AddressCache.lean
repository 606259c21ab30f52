import BlockStorage.Proofs.TruthfulCloud

/-!
Finding machines with the address cache on. The cache keeps nothing but which machine was last seen
at an address. A look-up asks the cloud for that machine, takes it if it still has the address, and
otherwise forgets it and looks through all machines, as every look-up does with the cache off.

The cloud is one that tells the truth, and nothing is asked of what is remembered. A stale entry
costs a request and no more, so what a history has to keep is only that the session can use its
cloud, which every look-up does and hence every history (`sound_after`).

Statement: after any history, a look-up with the cache on comes to what the machines listed by then
ask for (`Resolved`), it remembers what it finds, and if at most one machine has the address it
comes to what a look-up with the cache off does (`findMachine_transparent`).
-/
namespace BlockStorage.Compute

open Session Sandbox

variable {σ : Type} {ctx : Context σ} {c : Cloud} {s s' s₁ : Session σ}
  {listing : σ → List Instance} {Good : σ → Prop}

/-! ### The scan -/

/-- What a scan of a listing comes to: the first machine with the address. -/
def scanned (cls : Cloud.Class) (address : String) (nodes : List Instance) : Outcome Machine :=
  match nodes.find? (·.has address) with
  | some i => .ofExcept (i.describe cls)
  | none => .failed (noMachineFault (.text address))

/-- The machine is the one remembered at the address. -/
def Recalls (s : Session σ) (address : String) (m : Machine) : Prop :=
  ∃ sighting, Value.find? (.text address) s.gateway.sightings = some sighting ∧
    sighting.machine = m.id

theorem run_describe {i : Instance} {m : Machine}
    (h : i.describe s.gateway.cloud.cls = .ok m) : (describe i).run s = (.done m, s) := by
  unfold describe
  rw [Run.run_bind_done (run_current s), h, Run.ofExcept_ok, Run.run_pure]

/-- What is remembered is found again. -/
theorem run_remember {via : Connection} (h : s.gateway.compute.Holds via) (address : String)
    (m : Machine) :
    ∃ s', (remember (.text address) m.id).run s = (.done (), s') ∧ s'.world = s.world ∧
      Recalls s' address m := by
  unfold remember modifyGateway
  rw [Run.run_modify]
  simp only [h.2]
  refine ⟨_, rfl, rfl, ⟨m.id, via⟩, ?_, rfl⟩
  simp [Value.find?]

/-- A search finds what it should, asks for nothing, and leaves what it found remembered. -/
theorem run_search (ctx : Context σ) {via : Connection} (address : String) {nodes : List Instance}
    (hplain : ∀ i ∈ nodes, i.Plain) (hheld : s.gateway.compute.Holds via) :
    ∃ s', (search ctx (.text address) nodes).run s =
        (scanned s.gateway.cloud.cls address nodes, s') ∧ s'.world = s.world ∧
      (ctx.settings.cacheAddresses = true →
        ∀ m, scanned s.gateway.cloud.cls address nodes = .done m → Recalls s' address m) := by
  induction nodes with
  | nil => exact ⟨s, rfl, rfl, nofun⟩
  | cons i rest ih =>
    obtain ⟨m, hm, hid, hhas⟩ :=
      Instance.describe_plain (hplain i List.mem_cons_self) s.gateway.cloud.cls
    unfold search
    rw [Run.run_bind_done (Run.run_wrapForeign_done (run_describe hm)), hhas, Run.ofExcept_ok,
      pure_bind]
    cases hfound : i.has address with
    | false =>
      have hscanned : scanned s.gateway.cloud.cls address (i :: rest) =
          scanned s.gateway.cloud.cls address rest := by
        unfold scanned
        rw [List.find?_cons, hfound]
      rw [hscanned, if_neg Bool.false_ne_true]
      exact ih fun x hx => hplain x (List.mem_cons_of_mem i hx)
    | true =>
      have hscanned : scanned s.gateway.cloud.cls address (i :: rest) = .done m := by
        unfold scanned
        rw [List.find?_cons, hfound]
        exact congrArg Outcome.ofExcept hm
      rw [hscanned, if_pos rfl]
      dsimp only
      split
      · obtain ⟨s', hrun, hworld, hrecalls⟩ := run_remember hheld address m
        refine ⟨s', ?_, hworld, fun _ m' h => ?_⟩
        · rw [Run.run_bind_done hrun, Run.run_pure]
        · cases h
          exact hrecalls
      · rename_i hoff
        exact ⟨s, rfl, rfl, fun hon => absurd hon hoff⟩

/-- The plain scan finds the first machine with the address, as the cloud lists them by then. -/
theorem run_scan (htrue : Truthful ctx listing Good) (hs : Sound Good c s) (address : String) :
    ∃ s', (scan ctx (.text address)).run s =
        (scanned c.cls address (listing s'.world.cloud), s') ∧ Good s'.world.cloud ∧
      (ctx.settings.cacheAddresses = true → ∀ m,
        scanned c.cls address (listing s'.world.cloud) = .done m → Recalls s' address m) := by
  obtain ⟨via, s₁, hlist, hasked⟩ := run_fetchInstances htrue hs
  obtain ⟨s', hsearch, hworld, hrecalls⟩ :=
    run_search ctx address (htrue.plain s₁.world.cloud hasked.good) hasked.held
  rw [(hasked.sound hs).cloud] at hsearch hrecalls
  refine ⟨s', ?_, ?_, ?_⟩
  · unfold scan
    rw [Run.run_bind_done (Run.run_wrapForeign_done hlist), hsearch, hworld]
  · rw [hworld]
    exact hasked.good
  · rw [hworld]
    exact hrecalls

/-! ### The cache -/

/-- The machine is listed with the address, and told of as the listing has it. -/
def Listed (cls : Cloud.Class) (address : String) (nodes : List Instance) (m : Machine) : Prop :=
  ∃ i ∈ nodes, i.has address = true ∧ i.describe cls = .ok m

theorem run_forget (s : Session σ) (address : String) :
    ∃ sightings, (forget (.text address)).run s =
      (.done (), { s with gateway := { s.gateway with sightings } }) := by
  unfold forget
  rw [if_neg (show ¬(Value.text address).isNull = true from Bool.false_ne_true),
    Run.run_bind_done (run_current s)]
  exact ⟨_, rfl⟩

/-- The cache never answers with anything but what is listed, and what it answers with it keeps. -/
theorem run_findRemembered (htrue : Truthful ctx listing Good) (hs : Sound Good c s)
    (address : String) :
    ∃ seen s', (findRemembered ctx (.text address)).run s = (.done seen, s') ∧
      Sound Good c s' ∧ ∀ m, seen = some m →
        Listed c.cls address (listing s'.world.cloud) m ∧ Recalls s' address m := by
  unfold findRemembered
  rw [if_neg (show ¬(!(Value.text address).hashable) = true from Bool.false_ne_true),
    Run.run_bind_done (run_current s)]
  cases hsighting : Value.find? (.text address) s.gateway.sightings with
  | none => exact ⟨none, s, rfl, hs, nofun⟩
  | some sighting =>
    dsimp only
    split
    · exact ⟨none, s, rfl, hs, nofun⟩
    obtain ⟨via, seen, s₁, hfetch, hasked, hshown⟩ := run_fetchInstance htrue hs sighting.machine
    have hs₁ := hasked.sound hs
    obtain ⟨sightings, hforget⟩ := run_forget s₁ address
    rw [Run.run_bind_done hfetch]
    cases seen with
    | none =>
      rw [Run.run_bind_done hforget]
      exact ⟨none, _, rfl, hs₁.remembering sightings, nofun⟩
    | some i =>
      obtain ⟨hlisted, hequal⟩ := hshown i rfl
      have hplain := htrue.plain s₁.world.cloud hasked.good i hlisted
      obtain ⟨m, hm, hid, hhas⟩ := Instance.describe_plain hplain s₁.gateway.cloud.cls
      dsimp only
      rw [Run.run_bind_done (run_describe hm), hhas, Run.ofExcept_ok, pure_bind]
      cases hfound : i.has address with
      | false =>
        rw [if_neg Bool.false_ne_true, Run.run_bind_done hforget]
        exact ⟨none, _, rfl, hs₁.remembering sightings, nofun⟩
      | true =>
        rw [if_pos rfl]
        refine ⟨some m, s₁, rfl, hs₁, fun m' h => ?_⟩
        cases h
        refine ⟨⟨i, hlisted, hfound, ?_⟩, sighting, ?_, ?_⟩
        · rw [← hs₁.cloud]
          exact hm
        · rw [hasked.sightings]
          exact hsighting
        · obtain ⟨text, htext⟩ := hplain.id
          rw [hid, htext]
          rw [htext] at hequal
          exact Value.text_equal_iff.1 hequal

/-- A look-up without the cache is a scan. -/
theorem run_findMachine_uncached (htrue : Truthful ctx listing Good)
    (hoff : ctx.settings.cacheAddresses = false) (hs : Sound Good c s) (address : String) :
    ∃ s', (findMachine ctx (.text address)).run s =
      (scanned c.cls address (listing s'.world.cloud), s') := by
  obtain ⟨s', hscan, -⟩ := run_scan htrue hs address
  unfold findMachine
  rw [hoff, if_neg Bool.false_ne_true]
  exact ⟨s', hscan⟩

/-- A look-up with the cache answers from the cache or is a scan. -/
theorem run_findMachine_cached (htrue : Truthful ctx listing Good)
    (hon : ctx.settings.cacheAddresses = true) (hs : Sound Good c s) (address : String) :
    ∃ out s', (findMachine ctx (.text address)).run s = (out, s') ∧ Good s'.world.cloud ∧
      ((∃ m, out = .done m ∧ Listed c.cls address (listing s'.world.cloud) m) ∨
        out = scanned c.cls address (listing s'.world.cloud)) ∧
      ∀ m, out = .done m → Recalls s' address m := by
  obtain ⟨seen, s₁, hremembered, hs₁, hseen⟩ := run_findRemembered htrue hs address
  unfold findMachine
  rw [hon, if_pos rfl, Run.run_bind_done hremembered]
  cases seen with
  | some m =>
    obtain ⟨hlisted, hrecalls⟩ := hseen m rfl
    refine ⟨.done m, s₁, rfl, hs₁.good, .inl ⟨m, rfl, hlisted⟩, fun m' h => ?_⟩
    cases h
    exact hrecalls
  | none =>
    obtain ⟨s', hscan, hgood, hrecalls⟩ := run_scan htrue hs₁ address
    exact ⟨_, s', hscan, hgood, .inr rfl, hrecalls hon⟩

/-! ### Histories -/

/-- What happens to a session: addresses are looked up and forgotten, and the cloud changes. -/
inductive Move (σ : Type) where
  | find (address : Value)
  | forget (address : Value)
  | change (f : σ → σ)

namespace Move

/-- The session after a move. -/
def perform (ctx : Context σ) : Move σ → Session σ → Session σ
  | find address, s => ((findMachine ctx address).run s).2
  | forget address, s => ((Session.forget address).run s).2
  | change f, s => { s with world := { s.world with cloud := f s.world.cloud } }

/-- Changes leave the cloud in a good state. -/
def KeepsGood (Good : σ → Prop) : Move σ → Prop
  | change f => ∀ w, Good w → Good (f w)
  | _ => True

end Move

/-- The session after a history, the first move first. -/
def after (ctx : Context σ) (moves : List (Move σ)) (s : Session σ) : Session σ :=
  moves.foldl (fun s m => m.perform ctx s) s

/-- Whatever is looked up, the next look-up finds the session sound. -/
theorem sound_findMachine (htrue : Truthful ctx listing Good) (hs : Sound Good c s)
    (address : Value) : Sound Good c ((findMachine ctx address).run s).2 :=
  hs.steps htrue (within_findMachine address trivial (fun id => ⟨id, rfl⟩) s)

/-- A move leaves a sound session sound. -/
theorem sound_perform (htrue : Truthful ctx listing Good) (hs : Sound Good c s) {m : Move σ}
    (hm : m.KeepsGood Good) : Sound Good c (m.perform ctx s) := by
  cases m with
  | find address => exact sound_findMachine htrue hs address
  | forget address => exact hs.steps htrue (within_forget address s)
  | change f => exact ⟨hs.cloud, hs.account, hs.opened, hs.fitting, hm s.world.cloud hs.good⟩

/-- So does a history. -/
theorem sound_after (htrue : Truthful ctx listing Good) {moves : List (Move σ)}
    (hmoves : ∀ m ∈ moves, m.KeepsGood Good) (hs : Sound Good c s) :
    Sound Good c (after ctx moves s) := by
  induction moves generalizing s with
  | nil => exact hs
  | cons m rest ih =>
    refine ih (fun n hn => hmoves n (List.mem_cons_of_mem m hn)) ?_
    exact sound_perform htrue hs (hmoves m List.mem_cons_self)

/-! ### Transparency -/

/-- What a look-up should come to, by the machines listed: a machine listed with the address, or the
fault that there is none, which it is exactly if none is listed. If one machine at most is listed
with the address, nothing else is left open. -/
structure Resolved (cls : Cloud.Class) (address : String) (nodes : List Instance)
    (out : Outcome Machine) : Prop where
  ends : (∃ m, out = .done m) ∨ out = .failed (noMachineFault (.text address))
  found : ∀ m, out = .done m → Listed cls address nodes m
  missing : (∃ f, out = .failed f ∧ f.isA .machineNotFound = true) ↔
    ∀ i ∈ nodes, i.has address = false
  unique : (nodes.filter (·.has address)).length ≤ 1 → out = scanned cls address nodes

theorem isA_noMachineFault (address : String) :
    (noMachineFault (.text address)).isA .machineNotFound = true := by
  unfold noMachineFault
  rw [Fault.mentioning_of_writable]
  · rfl
  · intro v hv
    rw [List.mem_singleton.1 hv]
    exact Value.writable_text address

/-- A machine listed with the address is what should be found. -/
theorem resolved_of_listed {cls : Cloud.Class} {address : String} {nodes : List Instance}
    {m : Machine} (h : Listed cls address nodes m) :
    Resolved cls address nodes (.done m) := by
  obtain ⟨i, hi, hhas, hdescribe⟩ := h
  refine ⟨.inl ⟨m, rfl⟩, fun m' h => ?_, ⟨?_, fun hnone => ?_⟩, fun hone => ?_⟩
  · cases h
    exact ⟨i, hi, hhas, hdescribe⟩
  · rintro ⟨f, hf, -⟩
    cases hf
  · rw [hnone i hi] at hhas
    cases hhas
  · -- The first machine with the address is this one, as there is no other.
    have hmem : i ∈ nodes.filter (·.has address) := List.mem_filter.2 ⟨hi, hhas⟩
    have honly : nodes.filter (·.has address) = [i] := by
      cases hmatches : nodes.filter (·.has address) with
      | nil =>
        rw [hmatches] at hmem
        exact absurd hmem List.not_mem_nil
      | cons j rest =>
        rw [hmatches] at hmem hone
        have hrest : rest = [] := List.eq_nil_of_length_eq_zero (by simpa using hone)
        rw [hrest] at hmem ⊢
        rw [List.mem_singleton.1 hmem]
    unfold scanned
    rw [← List.head?_filter, honly]
    exact congrArg Outcome.ofExcept hdescribe.symm

/-- A scan comes to what it should. -/
theorem resolved_scanned (cls : Cloud.Class) (address : String) {nodes : List Instance}
    (hplain : ∀ i ∈ nodes, i.Plain) : Resolved cls address nodes (scanned cls address nodes) := by
  unfold scanned
  cases hfound : nodes.find? (·.has address) with
  | some i =>
    have hi := List.mem_of_find?_eq_some hfound
    obtain ⟨m, hm, -⟩ := Instance.describe_plain (hplain i hi) cls
    dsimp only
    rw [hm]
    exact resolved_of_listed ⟨i, hi, List.find?_some hfound, hm⟩
  | none =>
    have hnone : ∀ i ∈ nodes, i.has address = false := fun i hi =>
      Bool.eq_false_iff.2 (List.find?_eq_none.1 hfound i hi)
    refine ⟨.inr rfl, nofun, ⟨fun _ => hnone, fun _ => ?_⟩, fun _ => ?_⟩
    · exact ⟨_, rfl, isA_noMachineFault address⟩
    · unfold scanned
      rw [hfound]

/-- A look-up does not change what is listed by a cloud that stays as it is. -/
theorem listing_findMachine (htrue : Truthful ctx listing Good) (hstill : Unmoved ctx listing Good)
    (hs : Sound Good c s) (address : Value) :
    listing ((findMachine ctx address).run s).2.world.cloud = listing s.world.cloud := by
  have hpinned : Sound (fun w => Good w ∧ listing w = listing s.world.cloud) c s :=
    ⟨hs.cloud, hs.account, hs.opened, hs.fitting, hs.good, rfl⟩
  exact (sound_findMachine (htrue.pinned hstill _) hpinned address).good.2

/-- The context with the cache off. -/
def uncached (ctx : Context σ) : Context σ :=
  { ctx with settings := { ctx.settings with cacheAddresses := false } }

theorem Truthful.uncached (h : Truthful ctx listing Good) :
    Truthful (uncached ctx) listing Good :=
  ⟨h.driver, h.connect, h.list, h.describe, h.plain⟩

/-- **The cache is transparent.** After any history, a look-up with the cache on comes to what it
should by the machines listed, and remembers the machine it finds. With the cache off, a session
with the cloud finds the first machine listed with the address; if that session sees the same
machines and at most one of them has the address, both look-ups come to the same. -/
theorem findMachine_transparent (htrue : Truthful ctx listing Good)
    (hon : ctx.settings.cacheAddresses = true) (hs : Sound Good c s) {moves : List (Move σ)}
    (hmoves : ∀ m ∈ moves, m.KeepsGood Good) (address : String) :
    ∃ out s', (findMachine ctx (.text address)).run (after ctx moves s) = (out, s') ∧
      Resolved c.cls address (listing s'.world.cloud) out ∧
      (∀ m, out = .done m → Recalls s' address m) ∧
      (Unmoved ctx listing Good →
        listing s'.world.cloud = listing (after ctx moves s).world.cloud) ∧
      ∀ t, Sound Good c t → ∃ t',
        (findMachine (uncached ctx) (.text address)).run t =
          (scanned c.cls address (listing t'.world.cloud), t') ∧
        (Unmoved ctx listing Good → listing t'.world.cloud = listing t.world.cloud) ∧
        (listing t'.world.cloud = listing s'.world.cloud →
          ((listing s'.world.cloud).filter (·.has address)).length ≤ 1 →
          out = scanned c.cls address (listing t'.world.cloud)) := by
  have hafter := sound_after htrue hmoves hs
  obtain ⟨out, s', hrun, hgood, hout, hrecalls⟩ := run_findMachine_cached htrue hon hafter address
  have hresolved : Resolved c.cls address (listing s'.world.cloud) out := by
    rcases hout with ⟨m, rfl, hlisted⟩ | rfl
    · exact resolved_of_listed hlisted
    · exact resolved_scanned c.cls address (htrue.plain s'.world.cloud hgood)
  refine ⟨out, s', hrun, hresolved, hrecalls, fun hstill => ?_, fun t ht => ?_⟩
  · have hsame := listing_findMachine htrue hstill hafter (.text address)
    rwa [hrun] at hsame
  · obtain ⟨t', hplain⟩ := run_findMachine_uncached htrue.uncached rfl ht address
    refine ⟨t', hplain, fun hstill => ?_, fun hlisting hone => ?_⟩
    · have hkept : Unmoved (uncached ctx) listing Good :=
        ⟨hstill.connect, hstill.list, hstill.describe⟩
      have hsame := listing_findMachine htrue.uncached hkept ht (.text address)
      rwa [hplain] at hsame
    · rw [hlisting]
      exact hresolved.unique hone

/-- An address is found at one machine and moves to the other. -/
def moving : List (Move Sandbox) :=
  [.find (.text "10.0.0.1"), .change fun _ => pair [] ["10.0.0.1"]]

theorem keepsGood_moving : ∀ m ∈ moving, m.KeepsGood Calm := by
  intro m hm
  rcases List.mem_cons.1 hm with rfl | hm
  · trivial
  · rw [List.mem_singleton.1 hm]
    exact fun _ _ => calm_pair [] ["10.0.0.1"]

/-- It is then found at the other, and that is remembered. -/
theorem findMachine_transparent_moved :
    ∃ m s', (findMachine (context cachingSettings) (.text "10.0.0.1")).run
        (after (context cachingSettings) moving (start (pair ["10.0.0.1"] []))) = (.done m, s') ∧
      m.id = .text "i-2" ∧ Recalls s' "10.0.0.1" m := by
  have htrue : Truthful (context cachingSettings) machines Calm := truthful_calm rfl
  obtain ⟨out, s', hrun, hresolved, hrecalls, hstill, -⟩ := findMachine_transparent htrue rfl
    (sound_start (calm_pair ["10.0.0.1"] [])) keepsGood_moving "10.0.0.1"
  have hlisting : machines s'.world.cloud = machines (pair [] ["10.0.0.1"]) :=
    hstill (unmoved_calm cachingSettings)
  rw [hlisting] at hresolved
  obtain ⟨m, hfirst, hid⟩ : ∃ m,
      scanned account.cls "10.0.0.1" (machines (pair [] ["10.0.0.1"])) = .done m ∧
        m.id = .text "i-2" := ⟨_, rfl, rfl⟩
  have hout : out = .done m := (hresolved.unique (by decide)).trans hfirst
  exact ⟨m, s', by rw [hrun, hout], hid, hrecalls m hout⟩

end BlockStorage.Compute
