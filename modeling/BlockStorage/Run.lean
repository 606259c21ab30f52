import BlockStorage.Fault

/-!
Runs: operations on a state that may end early. A run ends with a result, with a fault, or, when
its patience with a wait that makes no progress is used up, with nothing; whatever the ending, the
state keeps what was done to it. Faults can be caught, an exhausted patience cannot.

Statements: runs form a lawful monad, `run_catching` says that exactly the faults are caught, what
is put together from runs that end ends (`Ends.bind`, `Ends.catching`), it fails with no other faults
than its parts do (`OnlyFails.bind`), and a relation on states that every step keeps is kept by the
whole (`Keeps.bind`, `Keeps.catching`).
-/
namespace BlockStorage

/-- How a run ends. -/
inductive Outcome (α : Type) where
  | done (a : α)
  | failed (f : Fault)
  | stalled

namespace Outcome

variable {α β : Type}

def ofExcept : Except Fault α → Outcome α
  | .ok a => .done a
  | .error f => .failed f

def map (f : α → β) : Outcome α → Outcome β
  | .done a => .done (f a)
  | .failed e => .failed e
  | .stalled => .stalled

@[simp]
theorem ofExcept_eq_done {e : Except Fault α} {a : α} : ofExcept e = .done a ↔ e = .ok a := by
  cases e <;> simp [ofExcept]

@[simp]
theorem ofExcept_eq_failed {e : Except Fault α} {f : Fault} :
    ofExcept e = .failed f ↔ e = .error f := by
  cases e <;> simp [ofExcept]

/-- Whether a run has a result that passes a test. -/
def gives (p : α → Bool) : Outcome α → Bool
  | .done a => p a
  | _ => false

theorem done_of_gives {σ : Type} {p : α → Bool} {r : Outcome α × σ} (h : r.1.gives p = true) :
    ∃ a, r = (.done a, r.2) ∧ p a = true := by
  obtain ⟨o, s⟩ := r
  cases o with
  | done a => exact ⟨a, rfl, h⟩
  | _ => cases h

/-- The fault of a failed run. -/
def fault? : Outcome α → Option Fault
  | .failed f => some f
  | _ => none

end Outcome

/-- An operation on a state. -/
@[ext]
structure Run (σ α : Type) where
  run : σ → Outcome α × σ

namespace Run

variable {σ α β : Type}

protected def pure (a : α) : Run σ α := ⟨fun s => (.done a, s)⟩

protected def bind (x : Run σ α) (f : α → Run σ β) : Run σ β := ⟨fun s =>
  match x.run s with
  | (.done a, s) => (f a).run s
  | (.failed e, s) => (.failed e, s)
  | (.stalled, s) => (.stalled, s)⟩

instance : Monad (Run σ) where
  pure := Run.pure
  bind := Run.bind

@[simp]
theorem run_pure (a : α) (s : σ) : (pure a : Run σ α).run s = (.done a, s) := rfl

theorem run_bind (x : Run σ α) (f : α → Run σ β) (s : σ) :
    (x >>= f).run s = match x.run s with
      | (.done a, s) => (f a).run s
      | (.failed e, s) => (.failed e, s)
      | (.stalled, s) => (.stalled, s) := rfl

theorem run_bind_done {x : Run σ α} {f : α → Run σ β} {s s' : σ} {a : α}
    (h : x.run s = (.done a, s')) : (x >>= f).run s = (f a).run s' := by
  simp [run_bind, h]

theorem run_bind_failed {x : Run σ α} {f : α → Run σ β} {s s' : σ} {e : Fault}
    (h : x.run s = (.failed e, s')) : (x >>= f).run s = (.failed e, s') := by
  simp [run_bind, h]

theorem run_bind_stalled {x : Run σ α} {f : α → Run σ β} {s s' : σ}
    (h : x.run s = (.stalled, s')) : (x >>= f).run s = (.stalled, s') := by
  simp [run_bind, h]

/-- A run in two parts that has a result has one in each. -/
theorem done_of_run_bind {x : Run σ α} {f : α → Run σ β} {s s' : σ} {b : β}
    (h : (x >>= f).run s = (.done b, s')) :
    ∃ a s₁, x.run s = (.done a, s₁) ∧ (f a).run s₁ = (.done b, s') := by
  rw [run_bind] at h
  split at h
  · rename_i a s₁ hx
    exact ⟨a, s₁, hx, h⟩
  · cases h
  · cases h

/-- A run whose result is dropped fails as it does by itself. -/
theorem failed_of_dropped {x : Run σ α} {b : β} {s s' : σ} {e : Fault}
    (h : (x >>= fun _ => Run.pure b).run s = (.failed e, s')) : x.run s = (.failed e, s') := by
  rw [run_bind] at h
  split at h
  · cases h
  · rename_i hx
    cases h
    exact hx
  · cases h

/-- A run in two parts fails with its first part, or its first part has a result and the second
fails. -/
theorem run_bind_failed_iff {x : Run σ α} {f : α → Run σ β} {s s' : σ} {e : Fault} :
    (x >>= f).run s = (.failed e, s') ↔ x.run s = (.failed e, s') ∨
      ∃ a s₁, x.run s = (.done a, s₁) ∧ (f a).run s₁ = (.failed e, s') := by
  rw [run_bind]
  cases x.run s with
  | mk out s₁ =>
    cases out with
    | failed g => simp
    | stalled => simp
    | done a =>
      constructor
      · intro h
        exact .inr ⟨a, s₁, rfl, h⟩
      · rintro (h | ⟨_, _, h, hf⟩)
        · cases h
        · cases h
          exact hf

instance : LawfulMonad (Run σ) :=
  LawfulMonad.mk' (Run σ)
    (fun x => Run.ext (funext fun s => by
      show (match x.run s with
        | (.done a, s) => (Outcome.done a, s)
        | (.failed e, s) => (.failed e, s)
        | (.stalled, s) => (.stalled, s)) = x.run s
      split <;> simp_all))
    (fun _ _ => rfl)
    (fun x f g => Run.ext (funext fun s => by
      simp only [run_bind]
      cases x.run s with
      | mk o s => cases o <;> rfl))

/-! ### Ending early -/

def fail (f : Fault) : Run σ α := ⟨fun s => (.failed f, s)⟩

@[simp]
theorem run_fail (f : Fault) (s : σ) : (fail f : Run σ α).run s = (.failed f, s) := rfl

/-- Gives up without a fault. -/
def stall : Run σ α := ⟨fun s => (.stalled, s)⟩

@[simp]
theorem run_stall (s : σ) : (stall : Run σ α).run s = (.stalled, s) := rfl

/-- A decision that touches no state. -/
def ofExcept : Except Fault α → Run σ α
  | .ok a => pure a
  | .error f => fail f

@[simp]
theorem ofExcept_ok (a : α) : (ofExcept (.ok a) : Run σ α) = pure a := rfl

@[simp]
theorem ofExcept_error (f : Fault) : (ofExcept (.error f) : Run σ α) = fail f := rfl

theorem run_ofExcept (e : Except Fault α) (s : σ) :
    (ofExcept e : Run σ α).run s = (.ofExcept e, s) := by
  cases e <;> rfl

/-- Decisions that are made in turn fail with the first that fails, and so does a run that makes
them in that order. -/
theorem run_ofExcept_bind_failed {γ : Type} {e : Except Fault α} {next : α → Except Fault γ}
    {f : α → Run σ β} {s : σ} {g : Fault} (h : (e >>= next) = .error g)
    (hf : ∀ a, e = .ok a → next a = .error g → (f a).run s = (.failed g, s)) :
    (ofExcept e >>= f).run s = (.failed g, s) := by
  cases e with
  | error g' =>
    cases h
    rfl
  | ok a => exact hf a rfl h

/-- If all decisions are made, the run comes to what it comes to after the first. -/
theorem run_ofExcept_bind_passed {γ : Type} {e : Except Fault α} {next : α → Except Fault γ}
    {f : α → Run σ β} {s : σ} {c : γ} {r : Outcome β × σ} (h : (e >>= next) = .ok c)
    (hf : ∀ a, e = .ok a → next a = .ok c → (f a).run s = r) : (ofExcept e >>= f).run s = r := by
  cases e with
  | error g => cases h
  | ok a => exact hf a rfl h

/-- A run that starts with a decision has a result only if the decision is made. -/
theorem done_of_run_ofExcept_bind {e : Except Fault α} {f : α → Run σ β} {s s' : σ} {b : β}
    (h : (ofExcept e >>= f).run s = (.done b, s')) : ∃ a, e = .ok a ∧ (f a).run s = (.done b, s') := by
  cases e with
  | error g => cases h
  | ok a => exact ⟨a, rfl, h⟩

theorem run_ofExcept_failed_iff {e : Except Fault α} {s s' : σ} {f : Fault} :
    (ofExcept e : Run σ α).run s = (.failed f, s') ↔ e = .error f ∧ s = s' := by
  cases e <;> simp

/-- Goes on with `handle` after a fault. -/
def catching (x : Run σ α) (handle : Fault → Run σ α) : Run σ α := ⟨fun s =>
  match x.run s with
  | (.failed f, s) => (handle f).run s
  | r => r⟩

theorem run_catching (x : Run σ α) (handle : Fault → Run σ α) (s : σ) :
    (x.catching handle).run s = match x.run s with
      | (.failed f, s) => (handle f).run s
      | r => r := rfl

/-- Reports every fault in another form. -/
def mapFault (change : Fault → Fault) (x : Run σ α) : Run σ α :=
  x.catching fun f => fail (change f)

theorem run_mapFault_done {change : Fault → Fault} {x : Run σ α} {s s' : σ} {a : α}
    (h : x.run s = (.done a, s')) : (x.mapFault change).run s = (.done a, s') := by
  simp [mapFault, run_catching, h]

theorem run_mapFault_failed {change : Fault → Fault} {x : Run σ α} {s s' : σ} {f : Fault}
    (h : x.run s = (.failed f, s')) : (x.mapFault change).run s = (.failed (change f), s') := by
  simp [mapFault, run_catching, h]

theorem run_mapFault_stalled {change : Fault → Fault} {x : Run σ α} {s s' : σ}
    (h : x.run s = (.stalled, s')) : (x.mapFault change).run s = (.stalled, s') := by
  simp [mapFault, run_catching, h]

theorem run_mapFault_failed_iff {change : Fault → Fault} {x : Run σ α} {s s' : σ} {f : Fault} :
    (x.mapFault change).run s = (.failed f, s') ↔
      ∃ g, x.run s = (.failed g, s') ∧ change g = f := by
  rw [mapFault, run_catching]
  cases x.run s with
  | mk out s₁ =>
    cases out with
    | done a => simp
    | stalled => simp
    | failed g =>
      constructor
      · intro h
        cases h
        exact ⟨g, rfl, rfl⟩
      · rintro ⟨_, h, rfl⟩
        cases h
        rfl

theorem run_mapFault_done_iff {change : Fault → Fault} {x : Run σ α} {s s' : σ} {a : α} :
    (x.mapFault change).run s = (.done a, s') ↔ x.run s = (.done a, s') := by
  rw [mapFault, run_catching]
  cases x.run s with
  | mk out s₁ => cases out <;> simp

/-- Nothing but the fault is reported in another form. -/
theorem state_mapFault (change : Fault → Fault) (x : Run σ α) (s : σ) :
    ((x.mapFault change).run s).2 = (x.run s).2 := by
  unfold mapFault
  rw [run_catching]
  cases x.run s with
  | mk out s₁ => cases out <;> rfl

theorem run_mapFault_eq {change : Fault → Fault} {x y : Run σ α} {s t : σ}
    (h : x.run s = y.run t) : (x.mapFault change).run s = (y.mapFault change).run t := by
  rw [mapFault, run_catching, h, mapFault, run_catching]

/-- Turns foreign faults into our own and lets our own pass. -/
def wrapForeign (wrap : Fault → Fault) (x : Run σ α) : Run σ α :=
  x.mapFault fun f => if f.isOwn then f else wrap f

theorem run_wrapForeign_done {wrap : Fault → Fault} {x : Run σ α} {s s' : σ} {a : α}
    (h : x.run s = (.done a, s')) : (x.wrapForeign wrap).run s = (.done a, s') :=
  run_mapFault_done h

theorem run_wrapForeign_failed {wrap : Fault → Fault} {x : Run σ α} {s s' : σ} {f : Fault}
    (h : x.run s = (.failed f, s')) :
    (x.wrapForeign wrap).run s = (.failed (if f.isOwn then f else wrap f), s') :=
  run_mapFault_failed h

theorem run_wrapForeign_stalled {wrap : Fault → Fault} {x : Run σ α} {s s' : σ}
    (h : x.run s = (.stalled, s')) : (x.wrapForeign wrap).run s = (.stalled, s') :=
  run_mapFault_stalled h

/-- Turns every fault into one of our own, see `Fault.translate`. -/
def translating (kind : Fault.Kind) (x : Run σ α) : Run σ α := x.mapFault (.translate kind)

theorem run_translating_failed {kind : Fault.Kind} {x : Run σ α} {s s' : σ} {f : Fault}
    (h : x.run s = (.failed f, s')) :
    (x.translating kind).run s = (.failed (f.translate kind), s') :=
  run_mapFault_failed h

/-- A fault of our own passes both unchanged. -/
theorem run_wrapForeign_own {wrap : Fault → Fault} {x : Run σ α} {s s' : σ} {f : Fault}
    (hown : f.isOwn = true) (h : x.run s = (.failed f, s')) :
    (x.wrapForeign wrap).run s = (.failed f, s') := by
  rw [run_wrapForeign_failed h, if_pos hown]

theorem run_translating_own {kind : Fault.Kind} {x : Run σ α} {s s' : σ} {f : Fault}
    (hown : f.isOwn = true) (h : x.run s = (.failed f, s')) :
    (x.translating kind).run s = (.failed f, s') := by
  rw [run_translating_failed h, Fault.translate_own kind hown]

/-- What is left of foreign faults is up to `wrap`. -/
theorem isOwn_of_wrapForeign {wrap : Fault → Fault} {x : Run σ α} {s s' : σ} {f : Fault}
    (hwrap : ∀ g, (wrap g).isOwn = true) (h : (x.wrapForeign wrap).run s = (.failed f, s')) :
    f.isOwn = true := by
  obtain ⟨g, -, rfl⟩ := run_mapFault_failed_iff.1 h
  split
  · assumption
  · exact hwrap g

theorem isOwn_of_translating {kind : Fault.Kind} {x : Run σ α} {s s' : σ} {f : Fault}
    (h : (x.translating kind).run s = (.failed f, s')) : f.isOwn = true := by
  obtain ⟨g, -, rfl⟩ := run_mapFault_failed_iff.1 h
  exact Fault.isOwn_translate kind g

/-- Ends with `last` after a result and after a fault, which it keeps. -/
def ensuring (x : Run σ α) (last : Run σ Unit) : Run σ α := ⟨fun s =>
  match x.run s with
  | (.done a, s) => (do last; pure a : Run σ α).run s
  | (.failed f, s) => (do last; fail f : Run σ α).run s
  | (.stalled, s) => (.stalled, s)⟩

/-- A run that ends is ended by `last`, if that has a result, and comes to what it came to. -/
theorem run_ensuring {x : Run σ α} {last : Run σ Unit} {s s₁ s' : σ} {out : Outcome α}
    (hx : x.run s = (out, s₁)) (hlast : last.run s₁ = (.done (), s')) (hout : out ≠ .stalled) :
    (x.ensuring last).run s = (out, s') := by
  cases out with
  | done a =>
    simp only [ensuring, hx]
    exact run_bind_done hlast
  | failed f =>
    simp only [ensuring, hx]
    exact run_bind_done hlast
  | stalled => exact absurd rfl hout

theorem run_ensuring_stalled {x : Run σ α} {last : Run σ Unit} {s s₁ : σ}
    (hx : x.run s = (.stalled, s₁)) : (x.ensuring last).run s = (.stalled, s₁) := by
  simp [ensuring, hx]

/-! ### The state -/

def get : Run σ σ := ⟨fun s => (.done s, s)⟩

@[simp]
theorem run_get (s : σ) : (get : Run σ σ).run s = (.done s, s) := rfl

def modify (f : σ → σ) : Run σ Unit := ⟨fun s => (.done (), f s)⟩

@[simp]
theorem run_modify (f : σ → σ) (s : σ) : (modify f).run s = (.done (), f s) := rfl

/-- Applies a run to each member in turn. -/
def forEach (f : α → Run σ β) : List α → Run σ (List β)
  | [] => pure []
  | x :: r => do
    let y ← f x
    let ys ← forEach f r
    pure (y :: ys)

/-! ### Runs that end -/

/-- The run ends, with a result or with a fault. -/
def Ends (x : Run σ α) : Prop := ∀ s, (x.run s).1 ≠ .stalled

namespace Ends

variable {x : Run σ α} {f : α → Run σ β}

protected theorem pure (a : α) : Ends (pure a : Run σ α) := fun _ => nofun

theorem fail (f : Fault) : Ends (fail f : Run σ α) := fun _ => nofun

theorem ofExcept (e : Except Fault α) : Ends (ofExcept e : Run σ α) := by
  cases e with
  | ok a => exact .pure a
  | error f => exact .fail f

theorem get : Ends (get : Run σ σ) := fun _ => nofun

theorem modify (f : σ → σ) : Ends (modify f) := fun _ => nofun

protected theorem bind (hx : Ends x) (hf : ∀ a, Ends (f a)) : Ends (x >>= f) := fun s => by
  have h := hx s
  rw [run_bind]
  split
  · exact hf _ _
  · exact nofun
  · rename_i e
    rw [e] at h
    exact absurd rfl h

theorem catching (hx : Ends x) {handle : Fault → Run σ α} (hh : ∀ f, Ends (handle f)) :
    Ends (x.catching handle) := fun s => by
  rw [run_catching]
  split
  · exact hh _ _
  · exact hx s

theorem mapFault (hx : Ends x) (change : Fault → Fault) : Ends (x.mapFault change) :=
  hx.catching fun _ => fail _

theorem wrapForeign (hx : Ends x) (wrap : Fault → Fault) : Ends (x.wrapForeign wrap) :=
  hx.mapFault _

end Ends

/-! ### How a run fails -/

/-- The run fails with no other faults than those. -/
def OnlyFails (P : Fault → Prop) (x : Run σ α) : Prop :=
  ∀ s f s', x.run s = (.failed f, s') → P f

namespace OnlyFails

variable {P : Fault → Prop} {x : Run σ α} {f : α → Run σ β}

protected theorem pure (a : α) : OnlyFails P (pure a : Run σ α) := fun _ _ _ h => nomatch h

theorem get : OnlyFails P (get : Run σ σ) := fun _ _ _ h => nomatch h

theorem modify (change : σ → σ) : OnlyFails P (modify change) := fun _ _ _ h => nomatch h

theorem stall : OnlyFails P (stall : Run σ α) := fun _ _ _ h => nomatch h

theorem fail {g : Fault} (hg : P g) : OnlyFails P (fail g : Run σ α) := fun _ _ _ h => by
  cases h
  exact hg

theorem ofExcept {e : Except Fault α} (he : ∀ g, e = .error g → P g) :
    OnlyFails P (ofExcept e : Run σ α) := fun _ g _ h => he g (run_ofExcept_failed_iff.1 h).1

/-- What comes after a result may fail as it does because of where that came from. -/
theorem bind_done (hx : OnlyFails P x)
    (hf : ∀ s a s', x.run s = (.done a, s') → OnlyFails P (f a)) : OnlyFails P (x >>= f) := by
  intro s g s' h
  rcases run_bind_failed_iff.1 h with h | ⟨a, s₁, ha, h⟩
  · exact hx s g s' h
  · exact hf s a s₁ ha s₁ g s' h

protected theorem bind (hx : OnlyFails P x) (hf : ∀ a, OnlyFails P (f a)) :
    OnlyFails P (x >>= f) := hx.bind_done fun _ a _ _ => hf a

theorem forEach {f : α → Run σ β} {xs : List α} (h : ∀ a ∈ xs, OnlyFails P (f a)) :
    OnlyFails P (forEach f xs) := by
  induction xs with
  | nil => exact .pure _
  | cons a rest ih =>
    refine (h a List.mem_cons_self).bind fun b => ?_
    exact (ih fun c hc => h c (List.mem_cons_of_mem a hc)).bind fun bs => .pure _

/-- What is caught does not matter. -/
theorem catching {handle : Fault → Run σ α} (hh : ∀ g, OnlyFails P (handle g)) :
    OnlyFails P (x.catching handle) := by
  intro s g s' h
  rw [run_catching] at h
  split at h
  · exact hh _ _ _ _ h
  · rename_i hno
    exact absurd h (hno g s')

theorem mapFault {change : Fault → Fault} (hx : OnlyFails P x)
    (hchange : ∀ g, P g → P (change g)) : OnlyFails P (x.mapFault change) := by
  intro s g s' h
  obtain ⟨cause, hcause, rfl⟩ := run_mapFault_failed_iff.1 h
  exact hchange cause (hx s cause s' hcause)

theorem wrapForeign {wrap : Fault → Fault} (hx : OnlyFails P x) (hwrap : ∀ g, P (wrap g)) :
    OnlyFails P (x.wrapForeign wrap) := by
  refine mapFault hx fun g hg => ?_
  split
  · exact hg
  · exact hwrap g

end OnlyFails

/-! ### What a run keeps -/

/-- Every run from a state leads to one that is related to it. -/
def Keeps (R : σ → σ → Prop) (x : Run σ α) : Prop := ∀ s, R s (x.run s).2

namespace Keeps

variable {R : σ → σ → Prop} {x : Run σ α} {f : α → Run σ β}

theorem bind (trans : ∀ {a b c}, R a b → R b c → R a c) (hx : Keeps R x)
    (hf : ∀ a, Keeps R (f a)) : Keeps R (x >>= f) := fun s => by
  have h := hx s
  simp only [run_bind]
  split
  · rename_i a s' e
    rw [e] at h
    exact trans h (hf a s')
  · rename_i e
    rwa [e] at h
  · rename_i e
    rwa [e] at h

theorem catching (trans : ∀ {a b c}, R a b → R b c → R a c) (hx : Keeps R x)
    {handle : Fault → Run σ α} (hh : ∀ f, Keeps R (handle f)) :
    Keeps R (x.catching handle) := fun s => by
  have h := hx s
  simp only [run_catching]
  split
  · rename_i f s' e
    rw [e] at h
    exact trans h (hh f s')
  · exact h

end Keeps

end Run

end BlockStorage
