import BlockStorage.Clock
import BlockStorage.Wait

/-!
Waits against a script: each query takes a given time and has a given answer, each pause a given
length. What was done is kept in order, so a wait can be compared with what it was to do.
-/
namespace BlockStorage

/-- Exact numbers as moments. -/
instance : LT Number := ⟨fun a b => a.less b = true⟩

instance : DecidableLT Number := fun a b => inferInstanceAs (Decidable (a.less b = true))

namespace Watch

/-- A step of a wait. -/
inductive Step where
  | query (id : Value)
  | pause (seconds : Value)
  deriving Inhabited

/-- A script, the clock it runs on, and the steps taken so far, the latest first. -/
structure Script (τ : Type) where
  clock : τ
  /-- The clock after a query and its answer, for each query from the first on. -/
  answer : Nat → τ → τ × Except Fault Value
  /-- The clock after a pause of so many seconds. -/
  pause : Value → τ → Except Fault τ
  queries : Nat := 0
  steps : List Step := []

namespace Script

variable {τ : Type}

/-- Asks the next question of the script. -/
def query (id : Value) : Run (Script τ) Value := do
  let s ← Run.get
  let (clock, answer) := s.answer s.queries s.clock
  Run.modify fun s =>
    { s with clock := clock, queries := s.queries + 1, steps := .query id :: s.steps }
  Run.ofExcept answer

/-- Pauses on the script's clock; a refused pause is not a step. -/
def rest (seconds : Value) : Run (Script τ) Unit := do
  Run.ofExcept (Clock.checkSleep seconds)
  let s ← Run.get
  Run.modify fun s => { s with steps := .pause seconds :: s.steps }
  let clock ← Run.ofExcept (s.pause seconds s.clock)
  Run.modify fun s => { s with clock }

/-- The watch that asks a script. -/
def watch : Watch (Script τ) τ := ⟨Script.clock, query, rest⟩

end Script

/-- The script on an exact clock: each query takes its own time and has its own answer, and every
pause is equally long. -/
def Script.exact (start length : Rat) (latency : Nat → Rat) (answers : Nat → Except Fault Value) :
    Script Rat where
  clock := start
  answer n clock := (clock + latency n, answers n)
  pause _ clock := .ok (clock + length)

/-- The script in which every query takes `latency` and the answers come from a list, of which the
last one repeats. -/
def Script.ofAnswers (start : Float) (latency : Value) (answers : List (Except Fault Value)) :
    Script Float where
  clock := start
  answer n clock :=
    match Clock.advance clock latency with
    | .ok clock =>
      (clock, (answers[n]?.or answers.getLast?).getD (.error (.foreign .unspecified none)))
    | .error f => (clock, .error f)
  pause seconds clock := Clock.advance clock seconds

/-- Waits against a script until a deadline that may be any value. -/
def Script.await (id status interval deadline : Value) (patience : Nat) :
    Run (Script Float) Value :=
  match deadline.number? with
  | some moment =>
    let w : Watch (Script Float) Number :=
      { Script.watch with now := fun s => .ofFloat s.clock }
    w.await id status interval moment patience .null
  | none => Run.fail (.wrongKind
      ("'<' not supported between instances of 'float' and '" ++ deadline.kindName ++ "'"))

end Watch

end BlockStorage
