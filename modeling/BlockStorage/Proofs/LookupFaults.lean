import BlockStorage.Compute
import BlockStorage.Sandbox.Trial

/-!
How looking for a machine fails.

A look-up among all machines reports what it can: that the cloud did not list them or that one of
them cannot be described, with the foreign fault as the cause, and that none has the address
(`SearchFails`, `ScanFails`). The cache has no such care. A machine that was remembered is fetched
and described without a word about what goes wrong, so whatever ends that ends the look-up as it is
(`RecallFails`). Only where a cloud can be asked for one machine does a failure to fetch it count
as there being none.

Each of these is exactly how its part of the look-up fails (`run_search_of_fails` and
`fails_of_run_search`, `run_scan_failed_iff`, `run_findRemembered_failed_iff`). So a fault of our
own is of a promised kind (`Promised`), and there are few ways for a foreign fault to get out
(`Leaks`), as `findMachine_fails` puts together. That they differ with the cache on is no theory: a
machine that cannot be described fails a look-up in one way before it is remembered and in another
after that (`findMachine_recalled`).
-/
namespace BlockStorage.Compute

open Session

variable {σ : Type} {ctx : Context σ} {address : Value} {s s' : Session σ} {f : Fault}

/-! ### Looking through the machines -/

/-- How looking through some machines fails. -/
inductive SearchFails (cls : Cloud.Class) (address : Value) : List Instance → Fault → Prop
  | absent : SearchFails cls address [] (noMachineFault address)
  | undescribed {i : Instance} {rest : List Instance} {g : Fault} (h : i.describe cls = .error g) :
      SearchFails cls address (i :: rest) (if g.isOwn then g else descriptionFault i.id g)
  | unsearchable {i : Instance} {rest : List Instance} {m : Machine} {g : Fault}
      (hm : i.describe cls = .ok m) (h : m.hasAddress address = .error g) :
      SearchFails cls address (i :: rest) g
  | later {i : Instance} {rest : List Instance} {m : Machine} {g : Fault}
      (hm : i.describe cls = .ok m) (hno : m.hasAddress address = .ok false)
      (h : SearchFails cls address rest g) : SearchFails cls address (i :: rest) g

theorem run_describe_eq (i : Instance) (s : Session σ) :
    (describe i).run s = (.ofExcept (i.describe s.gateway.cloud.cls), s) := by
  unfold describe
  rw [Run.run_bind_done (run_current s), Run.run_ofExcept]

theorem run_search_of_fails {cls : Cloud.Class} {nodes : List Instance}
    (h : SearchFails cls address nodes f) (hcls : s.gateway.cloud.cls = cls) :
    (search ctx address nodes).run s = (.failed f, s) := by
  induction h with
  | absent => rfl
  | @undescribed i rest g h =>
    have hdescribe : (describe i).run s = (.failed g, s) := by
      rw [run_describe_eq, hcls, h]
      rfl
    exact Run.run_bind_failed (Run.run_wrapForeign_failed hdescribe)
  | @unsearchable i rest m g hm h =>
    have hdescribe : (describe i).run s = (.done m, s) := by
      rw [run_describe_eq, hcls, hm]
      rfl
    unfold search
    rw [Run.run_bind_done (Run.run_wrapForeign_done hdescribe), h]
    rfl
  | @later i rest m g hm hno h ih =>
    have hdescribe : (describe i).run s = (.done m, s) := by
      rw [run_describe_eq, hcls, hm]
      rfl
    unfold search
    rw [Run.run_bind_done (Run.run_wrapForeign_done hdescribe), hno, Run.ofExcept_ok, pure_bind,
      if_neg Bool.false_ne_true]
    exact ih

theorem fails_of_run_search {nodes : List Instance}
    (h : (search ctx address nodes).run s = (.failed f, s')) :
    s = s' ∧ SearchFails s.gateway.cloud.cls address nodes f := by
  induction nodes with
  | nil =>
    cases h
    exact ⟨rfl, .absent⟩
  | cons i rest ih =>
    unfold search at h
    rcases Run.run_bind_failed_iff.1 h with h | ⟨m, s₁, htold, h⟩
    · obtain ⟨g, hg, rfl⟩ := Run.run_mapFault_failed_iff.1 h
      simp only [run_describe_eq, Prod.mk.injEq, Outcome.ofExcept_eq_failed] at hg
      exact ⟨hg.2, .undescribed hg.1⟩
    · replace htold := Run.run_mapFault_done_iff.1 htold
      simp only [run_describe_eq, Prod.mk.injEq, Outcome.ofExcept_eq_done] at htold
      obtain ⟨hm, rfl⟩ := htold
      rcases Run.run_bind_failed_iff.1 h with h | ⟨found, s₁, hfound, h⟩
      · obtain ⟨hhas, rfl⟩ := Run.run_ofExcept_failed_iff.1 h
        exact ⟨rfl, .unsearchable hm hhas⟩
      · simp only [Run.run_ofExcept, Prod.mk.injEq, Outcome.ofExcept_eq_done] at hfound
        obtain ⟨hhas, rfl⟩ := hfound
        cases found with
        | true =>
          -- The machine is the result, whether or not it is remembered.
          exfalso
          rw [if_pos rfl] at h
          dsimp only at h
          split at h
          · cases h
          · cases h
        | false =>
          rw [if_neg Bool.false_ne_true] at h
          obtain ⟨hsame, hrest⟩ := ih h
          exact ⟨hsame, .later hm hhas hrest⟩

/-- How a look-up among all machines fails. -/
inductive ScanFails (ctx : Context σ) (address : Value) (s s' : Session σ) : Fault → Prop
  | unlisted {g : Fault} (h : (fetchInstances ctx).run s = (.failed g, s')) :
      ScanFails ctx address s s' (if g.isOwn then g else listingFault g)
  | searched {nodes : List Instance} {g : Fault}
      (hlist : (fetchInstances ctx).run s = (.done nodes, s'))
      (h : SearchFails s'.gateway.cloud.cls address nodes g) : ScanFails ctx address s s' g

theorem run_scan_failed_iff :
    (scan ctx address).run s = (.failed f, s') ↔ ScanFails ctx address s s' f := by
  constructor
  · intro h
    rcases Run.run_bind_failed_iff.1 h with h | ⟨nodes, s₁, hlist, h⟩
    · obtain ⟨g, hg, rfl⟩ := Run.run_mapFault_failed_iff.1 h
      exact .unlisted hg
    · obtain ⟨rfl, hfails⟩ := fails_of_run_search h
      exact .searched (Run.run_mapFault_done_iff.1 hlist) hfails
  · intro h
    cases h with
    | unlisted h => exact Run.run_bind_failed (Run.run_wrapForeign_failed h)
    | searched hlist h =>
      unfold scan
      rw [Run.run_bind_done (Run.run_wrapForeign_done hlist)]
      exact run_search_of_fails h rfl

/-! ### Asking for a machine that is remembered -/

/-- A machine that can be asked for is remembered at the address. -/
def Remembers (s : Session σ) (address id : Value) : Prop :=
  address.hashable = true ∧ id.isNull = false ∧
    ∃ sighting, Value.find? address s.gateway.sightings = some sighting ∧ sighting.machine = id

/-- How asking for the machine that was last seen at an address fails. -/
inductive RecallFails (ctx : Context σ) (address : Value) (s : Session σ) :
    Session σ → Fault → Prop
  | unhashable (h : address.hashable = false) :
      RecallFails ctx address s s (.unhashable address)
  | unfetched {id : Value} {s' : Session σ} {f : Fault} (hid : Remembers s address id)
      (hcls : s.gateway.cloud.cls.hasAccount = false)
      (h : (fetchInstances ctx).run s = (.failed f, s')) : RecallFails ctx address s s' f
  | undescribed {id : Value} {i : Instance} {s' : Session σ} {f : Fault}
      (hid : Remembers s address id) (hfetch : (fetchInstance ctx id).run s = (.done (some i), s'))
      (h : i.describe s'.gateway.cloud.cls = .error f) : RecallFails ctx address s s' f
  | unsearchable {id : Value} {i : Instance} {m : Machine} {s' : Session σ} {f : Fault}
      (hid : Remembers s address id) (hfetch : (fetchInstance ctx id).run s = (.done (some i), s'))
      (hm : i.describe s'.gateway.cloud.cls = .ok m) (h : m.hasAddress address = .error f) :
      RecallFails ctx address s s' f

/-- A cloud that can be asked for one machine never fails to say that there is none. -/
theorem run_fetchInstance_failed_iff {id : Value} :
    (fetchInstance ctx id).run s = (.failed f, s') ↔
      s.gateway.cloud.cls.hasAccount = false ∧ (fetchInstances ctx).run s = (.failed f, s') := by
  unfold fetchInstance
  rw [Run.run_bind_done (run_current s)]
  cases hcls : s.gateway.cloud.cls.hasAccount with
  | true =>
    rw [if_pos rfl, Run.run_catching]
    constructor
    · intro h
      split at h
      · cases h
      · rename_i hfailed
        exact absurd h (hfailed f s')
    · rintro ⟨h, -⟩
      cases h
  | false =>
    rw [if_neg Bool.false_ne_true, Run.run_bind_failed_iff]
    constructor
    · rintro (h | ⟨nodes, s₁, -, h⟩)
      · exact ⟨rfl, h⟩
      · cases h
    · rintro ⟨-, h⟩
      exact .inl h

/-- Asks for a machine that was seen at an address. -/
def revisit (ctx : Context σ) (address id : Value) : Run (Session σ) (Option Machine) := do
  match ← fetchInstance ctx id with
  | none =>
    forget address
    return none
  | some i => do
    let machine ← describe i
    if ← Run.ofExcept (machine.hasAddress address) then
      return some machine
    else
      forget address
      return none

theorem run_findRemembered_of_remembers {id : Value} (hid : Remembers s address id) :
    (findRemembered ctx address).run s = (revisit ctx address id).run s := by
  obtain ⟨hkey, hnull, sighting, hsighting, rfl⟩ := hid
  unfold findRemembered
  rw [hkey, if_neg (by simp), Run.run_bind_done (run_current s), hsighting]
  dsimp only
  rw [hnull, if_neg Bool.false_ne_true]
  rfl

/-- If nothing is remembered that could be asked for, the cloud is not asked. -/
theorem run_findRemembered_of_not_remembers (hkey : address.hashable = true)
    (h : ∀ id, ¬Remembers s address id) : (findRemembered ctx address).run s = (.done none, s) := by
  unfold findRemembered
  rw [hkey, if_neg (by simp), Run.run_bind_done (run_current s)]
  cases hsighting : Value.find? address s.gateway.sightings with
  | none => rfl
  | some sighting =>
    dsimp only
    cases hnull : sighting.machine.isNull with
    | true => rfl
    | false => exact absurd ⟨hkey, hnull, sighting, hsighting, rfl⟩ (h sighting.machine)

/-- What can be remembered can be forgotten. -/
theorem run_forget_of_hashable (h : address.hashable = true) (s : Session σ) :
    ∃ s', (forget address).run s = (.done (), s') := by
  unfold forget
  split
  · exact ⟨_, rfl⟩
  · rw [Run.run_bind_done (run_current s), h, if_pos (by simp)]
    exact ⟨_, rfl⟩

/-- Forgetting is no way to fail. -/
theorem not_failed_of_forgotten (h : address.hashable = true) :
    ¬(do forget address; pure none : Run (Session σ) (Option Machine)).run s = (.failed f, s') := by
  obtain ⟨s₁, hforget⟩ := run_forget_of_hashable h s
  rw [Run.run_bind_done hforget]
  nofun

theorem fails_of_run_revisit {id : Value} (hid : Remembers s address id)
    (h : (revisit ctx address id).run s = (.failed f, s')) : RecallFails ctx address s s' f := by
  rcases Run.run_bind_failed_iff.1 h with h | ⟨seen, s₁, hfetch, h⟩
  · obtain ⟨hcls, hlist⟩ := run_fetchInstance_failed_iff.1 h
    exact .unfetched hid hcls hlist
  cases seen with
  | none => exact absurd h (not_failed_of_forgotten hid.1)
  | some i =>
    rcases Run.run_bind_failed_iff.1 h with h | ⟨m, s₂, htold, h⟩
    · simp only [run_describe_eq, Prod.mk.injEq, Outcome.ofExcept_eq_failed] at h
      obtain ⟨hg, rfl⟩ := h
      exact .undescribed hid hfetch hg
    simp only [run_describe_eq, Prod.mk.injEq, Outcome.ofExcept_eq_done] at htold
    obtain ⟨hm, rfl⟩ := htold
    rcases Run.run_bind_failed_iff.1 h with h | ⟨found, s₂, -, h⟩
    · obtain ⟨hhas, rfl⟩ := Run.run_ofExcept_failed_iff.1 h
      exact .unsearchable hid hfetch hm hhas
    · cases found with
      | true => cases h
      | false => exact absurd h (not_failed_of_forgotten hid.1)

theorem run_findRemembered_failed_iff :
    (findRemembered ctx address).run s = (.failed f, s') ↔ RecallFails ctx address s s' f := by
  constructor
  · intro h
    cases hkey : address.hashable with
    | false =>
      unfold findRemembered at h
      rw [hkey, Bool.not_false, if_pos rfl] at h
      cases h
      exact .unhashable hkey
    | true =>
      by_cases hid : ∃ id, Remembers s address id
      · obtain ⟨id, hid⟩ := hid
        rw [run_findRemembered_of_remembers hid] at h
        exact fails_of_run_revisit hid h
      · rw [run_findRemembered_of_not_remembers hkey fun id h => hid ⟨id, h⟩] at h
        cases h
  · intro h
    cases h with
    | unhashable h =>
      unfold findRemembered
      rw [h, Bool.not_false, if_pos rfl]
      rfl
    | unfetched hid hcls h =>
      rw [run_findRemembered_of_remembers hid]
      exact Run.run_bind_failed (run_fetchInstance_failed_iff.2 ⟨hcls, h⟩)
    | undescribed hid hfetch h =>
      rw [run_findRemembered_of_remembers hid]
      refine (Run.run_bind_done hfetch).trans (Run.run_bind_failed ?_)
      rw [run_describe_eq, h]
      rfl
    | @unsearchable id i m s' f hid hfetch hm h =>
      have hdescribe : (describe i).run s' = (.done m, s') := by
        rw [run_describe_eq, hm]
        rfl
      rw [run_findRemembered_of_remembers hid]
      refine (Run.run_bind_done hfetch).trans ((Run.run_bind_done hdescribe).trans ?_)
      rw [h]
      rfl

/-! ### The whole look-up -/

/-- The cache has no answer, or it is off. -/
def Unanswered (ctx : Context σ) (address : Value) (s s₁ : Session σ) : Prop :=
  if ctx.settings.cacheAddresses then (findRemembered ctx address).run s = (.done none, s₁)
  else s = s₁

/-- A look-up fails as its cache does, or as the look-up among all machines after that. -/
theorem run_findMachine_failed_iff :
    (findMachine ctx address).run s = (.failed f, s') ↔
      (ctx.settings.cacheAddresses = true ∧ RecallFails ctx address s s' f) ∨
        ∃ s₁, Unanswered ctx address s s₁ ∧ ScanFails ctx address s₁ s' f := by
  unfold findMachine Unanswered
  cases hcache : ctx.settings.cacheAddresses with
  | false =>
    simp only [Bool.false_eq_true, if_false, false_and, false_or]
    constructor
    · intro h
      exact ⟨s, rfl, run_scan_failed_iff.1 h⟩
    · rintro ⟨_, rfl, h⟩
      exact run_scan_failed_iff.2 h
  | true =>
    simp only [if_true, true_and]
    constructor
    · intro h
      rcases Run.run_bind_failed_iff.1 h with h | ⟨seen, s₁, hseen, h⟩
      · exact .inl (run_findRemembered_failed_iff.1 h)
      · cases seen with
        | some m => cases h
        | none => exact .inr ⟨s₁, hseen, run_scan_failed_iff.1 h⟩
    · rintro (h | ⟨s₁, hseen, h⟩)
      · exact Run.run_bind_failed (run_findRemembered_failed_iff.2 h)
      · exact (Run.run_bind_done hseen).trans (run_scan_failed_iff.2 h)

/-- A fault from below a look-up: the machines could not be listed, or one of them could not be
described. -/
inductive Below (ctx : Context σ) (address : Value) (s s' : Session σ) (g : Fault) : Prop
  | listed {s₁ : Session σ} (hreach : Unanswered ctx address s s₁)
      (h : (fetchInstances ctx).run s₁ = (.failed g, s'))
  | described {s₁ : Session σ} {nodes : List Instance} {i : Instance}
      (hreach : Unanswered ctx address s s₁)
      (hlist : (fetchInstances ctx).run s₁ = (.done nodes, s')) (hi : i ∈ nodes)
      (h : i.describe s'.gateway.cloud.cls = .error g)
  | recalled (hcache : ctx.settings.cacheAddresses = true) (h : RecallFails ctx address s s' g)

/-- A fault that is reported as it should be: there is no machine with the address, or a foreign
fault from below is the cause of a failed listing, or a fault of our own from below passes. -/
inductive Promised (ctx : Context σ) (address : Value) (s s' : Session σ) (f : Fault) : Prop
  | absent (h : f.isA .machineNotFound = true)
  | wrapped {g : Fault} (hkind : f.isA .machineListing = true) (hcause : f.cause? = some g)
      (hforeign : g.isOwn = false) (h : Below ctx address s s' g)
  | passed (hown : f.isOwn = true) (h : Below ctx address s s' f)

/-- A value stands in the way of a look-up, as it can be no key, or a report of it, as it cannot be
written. -/
def Obstructed (f : Fault) : Prop :=
  (∃ v : Value, v.hashable = false ∧ f = .unhashable v) ∨ f = .notWritable

/-- A foreign fault that gets out of a look-up: one that ends the cache, or one that a value is to
blame for. -/
inductive Leaks (ctx : Context σ) (address : Value) (s s' : Session σ) (f : Fault) : Prop
  | recalled (hcache : ctx.settings.cacheAddresses = true) (h : RecallFails ctx address s s' f)
  | searched {s₁ : Session σ} {nodes : List Instance} (hreach : Unanswered ctx address s s₁)
      (hlist : (fetchInstances ctx).run s₁ = (.done nodes, s'))
      (h : SearchFails s'.gateway.cloud.cls address nodes f) (hvalue : Obstructed f)

theorem obstructed_of_hasAddress {m : Machine} (h : m.hasAddress address = .error f) :
    Obstructed f := by
  unfold Machine.hasAddress Machine.addresses Machine.members at h
  split at h
  · rename_i v hv
    cases h
    exact .inl ⟨v, by simpa using List.find?_some hv, rfl⟩
  · simp only [bind, Except.bind] at h
    split at h
    · cases h
    · rename_i hkey
      cases h
      exact .inl ⟨address, by simpa using hkey, rfl⟩

theorem obstructed_or_eq (shown : List Value) (g : Fault) :
    Obstructed (Fault.mentioning shown g) ∨ Fault.mentioning shown g = g := by
  by_cases h : ∀ v ∈ shown, v.writable = true
  · exact .inr (Fault.mentioning_of_writable g h)
  · exact .inl (.inr (Fault.mentioning_of_unwritable g h))

theorem isOwn_of_obstructed (h : Obstructed f) : f.isOwn = false := by
  rcases h with ⟨v, -, rfl⟩ | rfl
  · rfl
  · rfl

/-- A search fails because of a value, for want of a machine, or because one cannot be
described. -/
theorem searchFails_cases {cls : Cloud.Class} {nodes : List Instance}
    (h : SearchFails cls address nodes f) :
    Obstructed f ∨ f.isA .machineNotFound = true ∨
      ∃ i ∈ nodes, ∃ g, i.describe cls = .error g ∧
        ((g.isOwn = true ∧ f = g) ∨
          (g.isOwn = false ∧ f.isA .machineListing = true ∧ f.cause? = some g)) := by
  induction h with
  | absent =>
    rcases obstructed_or_eq [address] (.because .machineNotFound
      ("Could not find machine with matching ip: " ++ address.display) none
      [("address", address)]) with h | h
    · exact .inl h
    · unfold noMachineFault
      rw [h]
      exact .inr (.inl rfl)
  | @undescribed i rest g h =>
    cases hown : g.isOwn with
    | true =>
      rw [if_pos rfl]
      exact .inr (.inr ⟨i, List.mem_cons_self, g, h, .inl ⟨hown, rfl⟩⟩)
    | false =>
      rw [if_neg Bool.false_ne_true]
      rcases obstructed_or_eq [i.id] (.because .machineListing
        ("Failed getting metadata of node " ++ i.id.display ++ ". Reason: " ++ g.text) (some g)
        []) with hsaid | hsaid
      · exact .inl hsaid
      · unfold descriptionFault
        rw [hsaid]
        exact .inr (.inr ⟨i, List.mem_cons_self, g, h, .inr ⟨hown, rfl, rfl⟩⟩)
  | unsearchable hm h => exact .inl (obstructed_of_hasAddress h)
  | later hm hno h ih =>
    refine ih.imp_right (Or.imp_right ?_)
    rintro ⟨i, hi, hrest⟩
    exact ⟨i, List.mem_cons_of_mem _ hi, hrest⟩

/-- A fault of our own is one of those promised. -/
theorem promised_of_run (hown : f.isOwn = true)
    (h : (findMachine ctx address).run s = (.failed f, s')) : Promised ctx address s s' f := by
  rcases run_findMachine_failed_iff.1 h with ⟨hcache, h⟩ | ⟨s₁, hreach, h⟩
  · exact .passed hown (.recalled hcache h)
  cases h with
  | @unlisted g hlist =>
    cases hg : g.isOwn with
    | true =>
      rw [if_pos rfl]
      exact .passed hg (.listed hreach hlist)
    | false =>
      rw [if_neg Bool.false_ne_true]
      exact .wrapped rfl rfl hg (.listed hreach hlist)
  | searched hlist h =>
    rcases searchFails_cases h with hvalue | habsent | ⟨i, hi, g, hg, ⟨-, rfl⟩ | hwrapped⟩
    · rw [isOwn_of_obstructed hvalue] at hown
      cases hown
    · exact .absent habsent
    · exact .passed hown (.described hreach hlist hi hg)
    · exact .wrapped hwrapped.2.1 hwrapped.2.2 hwrapped.1 (.described hreach hlist hi hg)

/-- A foreign fault gets out exactly where the look-up lets it. -/
theorem run_findMachine_foreign_iff (hforeign : f.isOwn = false) :
    (findMachine ctx address).run s = (.failed f, s') ↔ Leaks ctx address s s' f := by
  rw [run_findMachine_failed_iff]
  constructor
  · rintro (⟨hcache, h⟩ | ⟨s₁, hreach, h⟩)
    · exact .recalled hcache h
    cases h with
    | @unlisted g h =>
      cases hg : g.isOwn with
      | true => simp [hg] at hforeign
      | false =>
        rw [hg] at hforeign
        cases hforeign
    | searched hlist h =>
      rcases searchFails_cases h with hvalue | habsent | ⟨i, -, g, -, ⟨hg, rfl⟩ | ⟨-, hkind, -⟩⟩
      · exact .searched hreach hlist h hvalue
      · cases f with
        | own => cases hforeign
        | foreign => cases habsent
      · rw [hg] at hforeign
        cases hforeign
      · cases f with
        | own => cases hforeign
        | foreign => cases hkind
  · intro h
    cases h with
    | recalled hcache h => exact .inl ⟨hcache, h⟩
    | searched hreach hlist h hvalue => exact .inr ⟨_, hreach, .searched hlist h⟩

/-- **How a look-up fails.** A fault of our own is one of those promised. A foreign fault gets out
if it ends the cache or if a value is to blame for it, and not otherwise; with the cache off, a
value is always to blame. -/
theorem findMachine_fails (ctx : Context σ) (address : Value) (s s' : Session σ) (f : Fault) :
    (f.isOwn = true → (findMachine ctx address).run s = (.failed f, s') →
        Promised ctx address s s' f) ∧
      (f.isOwn = false →
        ((findMachine ctx address).run s = (.failed f, s') ↔ Leaks ctx address s s' f)) ∧
      (ctx.settings.cacheAddresses = false → Leaks ctx address s s' f → Obstructed f) := by
  refine ⟨promised_of_run, run_findMachine_foreign_iff, fun hcache h => ?_⟩
  cases h with
  | recalled hon h =>
    rw [hcache] at hon
    cases hon
  | searched hreach hlist h hvalue => exact hvalue

/-- A machine that cannot be described for a foreign reason is reported, if it is not remembered. -/
theorem findMachine_fails_unreadable :
    ∃ f s', (findMachine (Sandbox.context Sandbox.cachingSettings) (.text "10.0.0.1")).run
        (Sandbox.start Sandbox.unreadable) = (.failed f, s') ∧ f.isOwn = true ∧
      Promised (Sandbox.context Sandbox.cachingSettings) (.text "10.0.0.1")
        (Sandbox.start Sandbox.unreadable) s' f := by
  obtain ⟨f, s', hrun, hown⟩ : ∃ f s', (findMachine (Sandbox.context Sandbox.cachingSettings)
      (.text "10.0.0.1")).run (Sandbox.start Sandbox.unreadable) = (.failed f, s') ∧
        f.isOwn = true := ⟨_, _, rfl, rfl⟩
  exact ⟨f, s', hrun, hown, (findMachine_fails _ _ _ _ _).1 hown hrun⟩

/-- The session, in another cloud. -/
def elsewhere (s : Session σ) (cloud : σ) : Session σ :=
  { s with world := { s.world with cloud } }

/-- Once the machine is remembered, what it cannot be described for is all there is. -/
theorem findMachine_recalled :
    ∃ m s₁, (findMachine (Sandbox.context Sandbox.cachingSettings) (.text "10.0.0.1")).run
        (Sandbox.start (Sandbox.pair ["10.0.0.1"] [])) = (.done m, s₁) ∧
      ((findMachine (Sandbox.context Sandbox.cachingSettings) (.text "10.0.0.1")).run
        (elsewhere s₁ Sandbox.unreadable)).1 = .failed Sandbox.boom ∧
      Sandbox.boom.isOwn = false :=
  ⟨_, _, rfl, rfl, rfl⟩

end BlockStorage.Compute
