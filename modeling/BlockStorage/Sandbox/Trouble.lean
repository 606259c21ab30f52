import BlockStorage.Fault

/-!
Trouble: a fault that waits for requests. It spares some of them and then meets as many as are
planned, or all that follow.

Statement: trouble meets exactly the requests after those it spares, as many as are planned
(`meets_after`).
-/
namespace BlockStorage.Sandbox

/-- A fault that waits for requests: it spares some and then meets a number of them, or all. -/
structure Trouble where
  fault : Fault
  spared : Nat
  times : Option Nat

namespace Trouble

/-- Whether the next request meets the fault. -/
def meets (t : Trouble) : Bool := t.spared == 0 && t.times != some 0

/-- The trouble after one more request. -/
def next (t : Trouble) : Trouble :=
  match t.spared with
  | 0 => { t with times := t.times.map (· - 1) }
  | n + 1 => { t with spared := n }

/-- The trouble after so many requests. -/
def after (t : Trouble) : Nat → Trouble
  | 0 => t
  | n + 1 => (t.after n).next

theorem spared_after (t : Trouble) (n : Nat) : (t.after n).spared = t.spared - n := by
  induction n with
  | zero => rfl
  | succ n ih =>
    simp only [after, next]
    split <;> simp_all <;> omega

theorem times_after (t : Trouble) (n : Nat) :
    (t.after n).times = t.times.map (· - (n - t.spared)) := by
  induction n with
  | zero => cases h : t.times <;> simp [after, h]
  | succ n ih =>
    have hs := spared_after t n
    simp only [after, next]
    split <;> rename_i k <;> rw [k] at hs <;> cases h : t.times <;> simp [ih, h] <;> omega

/-- The requests that meet it are those from number `spared` on, counted from zero, `times` of
them if that is bounded. -/
theorem meets_after (t : Trouble) (n : Nat) :
    (t.after n).meets = true ↔ t.spared ≤ n ∧ ∀ k ∈ t.times, n < t.spared + k := by
  simp only [meets, spared_after, times_after]
  cases h : t.times <;> simp <;> omega

end Trouble

end BlockStorage.Sandbox
