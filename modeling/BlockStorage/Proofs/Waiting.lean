import BlockStorage.Wait.Script
import Mathlib.Algebra.BigOperators.Intervals
import Mathlib.Algebra.Order.Ring.Rat
import Mathlib.Tactic.IntervalCases
import Mathlib.Tactic.NormNum

/-!
What a wait does, and what it does on an exact clock.

A round is a query, made ahead of the deadline, that shows another status than the awaited one, and
the pause after it. A wait that nothing has ended has made some rounds (`Rounds`), and after them it
ends in one of four ways (`Ending`): the deadline has passed, the next query shows the status, it
fails, or the pause after it does. That is all a wait can do, whatever is asked and whatever the
clock: what its rounds and its ending come to is what it comes to (`run_of_ending`), and unless the
patience with it is used up it has come to an ending after some rounds (`await_cases`).

On an exact clock query `n` of a wait starts at `moment n`: the start, and for every query before it
the time that it took and one pause. `await_exact` says which queries are made and how the wait
ends. If a query ends the wait, by the awaited status or by a fault, and it and all before it start
ahead of the deadline, it is the last step. If the deadline comes first, the wait ends right after
the pause that crosses it, and tells the status seen last. If neither happens, the wait has no end.
-/
namespace BlockStorage.Watch

/-! ### One round -/

/-- An answer that ends a wait: the awaited status, or a fault. -/
def Ends (status : Value) : Except Fault Value → Prop
  | .ok v => v.equal status = true
  | .error _ => True

/-- What a wait makes of the answer that ends it. -/
def conclude (id : Value) : Except Fault Value → Outcome Value
  | .ok v => .done v
  | .error f => .failed (if f.isOwn then f else queryFault id f)

section Round

variable {σ τ : Type} [LT τ] [DecidableLT τ] {w : Watch σ τ} {id status interval last : Value}
  {deadline : τ} {patience : Nat} {s s₁ s₂ : σ}

/-- Past the deadline nothing is asked. -/
theorem await_late (h : ¬w.now s < deadline) :
    (w.await id status interval deadline (patience + 1) last).run s =
      (.failed (expiry id status last), s) := by
  unfold await
  rw [Run.run_bind_done (Run.run_get s), if_neg h]
  rfl

/-- An answer that ends the wait is followed by nothing. -/
theorem await_ends {answer : Except Fault Value} (h : w.now s < deadline)
    (hq : (w.query id).run s = (.ofExcept answer, s₁)) (he : Ends status answer) :
    (w.await id status interval deadline (patience + 1) last).run s =
      (conclude id answer, s₁) := by
  unfold await
  rw [Run.run_bind_done (Run.run_get s), if_pos h]
  cases answer with
  | ok seen =>
    rw [Run.run_bind_done (Run.run_wrapForeign_done hq),
      if_pos (show seen.equal status = true from he)]
    rfl
  | error f =>
    rw [Run.run_bind_failed (Run.run_wrapForeign_failed hq)]
    rfl

/-- Another status is followed by a pause and the rest of the wait. -/
theorem await_again {seen : Value} (h : w.now s < deadline)
    (hq : (w.query id).run s = (.done seen, s₁)) (hne : ¬seen.equal status = true)
    (hp : (w.pause interval).run s₁ = (.done (), s₂)) :
    (w.await id status interval deadline (patience + 1) last).run s =
      (w.await id status interval deadline patience seen).run s₂ := by
  rw [await, Run.run_bind_done (Run.run_get s), if_pos h,
    Run.run_bind_done (Run.run_wrapForeign_done hq), if_neg hne, Run.run_bind_done hp]

end Round

/-! ### Rounds and endings -/

section Rounds

variable {σ τ : Type} [LT τ] [DecidableLT τ]

/-- Nothing has ended the wait in so many rounds. They lead from one state to another, and the last
of them saw a status. -/
inductive Rounds (w : Watch σ τ) (id status interval : Value) (deadline : τ) (last : Value) (s : σ) :
    Nat → Value → σ → Prop
  | none : Rounds w id status interval deadline last s 0 last s
  | more {n : Nat} {before seen : Value} {s₁ s₂ s₃ : σ}
      (earlier : Rounds w id status interval deadline last s n before s₁)
      (due : w.now s₁ < deadline) (query : (w.query id).run s₁ = (.done seen, s₂))
      (other : ¬seen.equal status = true) (pause : (w.pause interval).run s₂ = (.done (), s₃)) :
      Rounds w id status interval deadline last s (n + 1) seen s₃

/-- What ends a wait that has seen a status so far. -/
inductive Ending (w : Watch σ τ) (id status interval : Value) (deadline : τ) (last : Value) (s : σ) :
    Outcome Value → σ → Prop
  | late (passed : ¬w.now s < deadline) :
      Ending w id status interval deadline last s (.failed (expiry id status last)) s
  | shown {seen : Value} {s' : σ} (due : w.now s < deadline)
      (query : (w.query id).run s = (.done seen, s')) (awaited : seen.equal status = true) :
      Ending w id status interval deadline last s (.done seen) s'
  | unanswered {f : Fault} {s' : σ} (due : w.now s < deadline)
      (query : (w.query id).run s = (.failed f, s')) :
      Ending w id status interval deadline last s
        (.failed (if f.isOwn then f else queryFault id f)) s'
  | unrested {seen : Value} {f : Fault} {s₁ s' : σ} (due : w.now s < deadline)
      (query : (w.query id).run s = (.done seen, s₁)) (other : ¬seen.equal status = true)
      (pause : (w.pause interval).run s₁ = (.failed f, s')) :
      Ending w id status interval deadline last s (.failed f) s'

variable {w : Watch σ τ} {id status interval last seen : Value} {deadline : τ} {n patience : Nat}
  {s s₁ s' : σ} {out : Outcome Value}

/-- A wait that nothing ends in some rounds comes to what is left of it after them. -/
theorem run_of_rounds (h : Rounds w id status interval deadline last s n seen s₁) (patience : Nat) :
    (w.await id status interval deadline (n + patience) last).run s =
      (w.await id status interval deadline patience seen).run s₁ := by
  induction h generalizing patience with
  | none => rw [Nat.zero_add]
  | @more n before seen s₁ s₂ s₃ _ due query other pause ih =>
    rw [Nat.add_right_comm, Nat.add_assoc, ih (patience + 1)]
    exact await_again due query other pause

/-- What can end a wait ends it, if there is patience for another query. -/
theorem Ending.run (h : Ending w id status interval deadline last s out s') (patience : Nat) :
    (w.await id status interval deadline (patience + 1) last).run s = (out, s') := by
  cases h with
  | late passed => exact await_late passed
  | @shown seen _ due query awaited =>
    have hends : Ends status (.ok seen) := awaited
    exact await_ends due query hends
  | @unanswered f _ due query =>
    have hends : Ends status (.error f) := trivial
    exact await_ends due query hends
  | unrested due query other pause =>
    unfold await
    rw [Run.run_bind_done (Run.run_get s), if_pos due,
      Run.run_bind_done (Run.run_wrapForeign_done query), if_neg other, Run.run_bind_failed pause]

/-- A wait comes to what ends it after some rounds. -/
theorem run_of_ending (h : Rounds w id status interval deadline last s n seen s₁)
    (hend : Ending w id status interval deadline seen s₁ out s') (hn : n < patience) :
    (w.await id status interval deadline patience last).run s = (out, s') := by
  obtain ⟨rest, rfl⟩ := Nat.exists_eq_add_of_lt hn
  rw [Nat.add_assoc, run_of_rounds h]
  exact hend.run rest

/-- If queries and pauses end, what nothing has ended so far is ended by something or goes on. -/
theorem ending_or_round (hquery : (w.query id).Ends) (hpause : (w.pause interval).Ends)
    (h : Rounds w id status interval deadline last s n seen s₁) :
    (∃ out s', Ending w id status interval deadline seen s₁ out s') ∨
      ∃ seen' s₂, Rounds w id status interval deadline last s (n + 1) seen' s₂ := by
  by_cases due : w.now s₁ < deadline
  · rcases query : (w.query id).run s₁ with ⟨seen' | f | _, s₂⟩
    · by_cases awaited : seen'.equal status = true
      · exact .inl ⟨_, _, .shown due query awaited⟩
      · rcases pause : (w.pause interval).run s₂ with ⟨_ | f | _, s₃⟩
        · exact .inr ⟨_, _, .more h due query awaited pause⟩
        · exact .inl ⟨_, _, .unrested due query awaited pause⟩
        · exact absurd (congrArg Prod.fst pause) (hpause s₂)
    · exact .inl ⟨_, _, .unanswered due query⟩
    · exact absurd (congrArg Prod.fst query) (hquery s₁)
  · exact .inl ⟨_, _, .late due⟩

/-- A wait has come to an ending after some rounds, or it has used up the patience with it. By
induction on the patience: a wait that has not ended after some rounds makes another one. -/
theorem await_cases (hquery : (w.query id).Ends) (hpause : (w.pause interval).Ends)
    (deadline : τ) (last : Value) (patience : Nat) (s : σ) :
    (∃ n < patience, ∃ seen s₁ out s', Rounds w id status interval deadline last s n seen s₁ ∧
        Ending w id status interval deadline seen s₁ out s') ∨
      ∃ seen s', Rounds w id status interval deadline last s patience seen s' := by
  induction patience with
  | zero => exact .inr ⟨last, s, .none⟩
  | succ patience ih =>
    rcases ih with ⟨n, hn, hended⟩ | ⟨seen, s₁, hrounds⟩
    · exact .inl ⟨n, Nat.lt_succ_of_lt hn, hended⟩
    · rcases ending_or_round hquery hpause hrounds with ⟨out, s', hend⟩ | hmore
      · exact .inl ⟨patience, Nat.lt_succ_self patience, seen, s₁, out, s', hrounds, hend⟩
      · exact .inr hmore

/-- What a wait comes to by its rounds. -/
theorem await_stalls (h : Rounds w id status interval deadline last s patience seen s') :
    (w.await id status interval deadline patience last).run s = (.stalled, s') :=
  run_of_rounds h 0

end Rounds

/-! ### Many rounds against a script -/

/-- When query `n` starts. -/
def moment (start length : Rat) (latency : Nat → Rat) (n : Nat) : Rat :=
  start + ∑ j ∈ Finset.range n, (latency j + length)

theorem moment_zero (start length : Rat) (latency : Nat → Rat) :
    moment start length latency 0 = start := by
  simp [moment]

theorem moment_succ (start length : Rat) (latency : Nat → Rat) (n : Nat) :
    moment start length latency (n + 1) =
      moment start length latency n + latency n + length := by
  simp only [moment, Finset.sum_range_succ, add_assoc]

/-- So many queries, each followed by a pause. -/
def rounds (id interval : Value) : Nat → List Step
  | 0 => []
  | n + 1 => rounds id interval n ++ [.query id, .pause interval]

/-- The status seen before query `n`, null before the first. -/
def lastSeen (answers : Nat → Except Fault Value) : Nat → Value
  | 0 => .null
  | n + 1 =>
    match answers n with
    | .ok v => v
    | .error _ => .null

section Exact

variable (id status interval : Value) (start length deadline : Rat) (latency : Nat → Rat)
  (answers : Nat → Except Fault Value)

/-- The script when query `n` is about to start. -/
def before (n : Nat) : Script Rat :=
  { Script.exact start length latency answers with
    clock := moment start length latency n
    queries := n
    steps := (rounds id interval n).reverse }

theorem before_zero :
    before id interval start length latency answers 0 =
      Script.exact start length latency answers := by
  rw [before, moment_zero]
  rfl

/-- The script when query `n` has been answered. -/
def answered (n : Nat) : Script Rat :=
  { Script.exact start length latency answers with
    clock := moment start length latency n + latency n
    queries := n + 1
    steps := (rounds id interval n ++ [Step.query id]).reverse }

theorem query_before (n : Nat) :
    (Script.query id).run (before id interval start length latency answers n) =
      (.ofExcept (answers n), answered id interval start length latency answers n) := by
  have hsteps : Step.query id :: (rounds id interval n).reverse =
      (rounds id interval n ++ [Step.query id]).reverse := by simp
  unfold Script.query
  rw [Run.run_bind_done (Run.run_get _)]
  show (Run.modify _ >>= fun _ => Run.ofExcept (answers n)).run _ = _
  rw [Run.run_bind_done (Run.run_modify _ _)]
  simp only [before, answered, hsteps]
  cases answers n <;> rfl

theorem rest_answered (h : Clock.checkSleep interval = .ok ()) (n : Nat) :
    (Script.rest interval).run (answered id interval start length latency answers n) =
      (.done (), before id interval start length latency answers (n + 1)) := by
  have hsteps : Step.pause interval :: (rounds id interval n ++ [Step.query id]).reverse =
      (rounds id interval (n + 1)).reverse := by simp [rounds]
  unfold Script.rest
  rw [h, Run.ofExcept_ok, pure_bind, Run.run_bind_done (Run.run_get _),
    Run.run_bind_done (Run.run_modify _ _)]
  simp only [answered, Script.exact, Run.ofExcept_ok, pure_bind, Run.run_modify, before, hsteps,
    moment_succ]

/-- A wait that nothing has ended comes to each of its queries after as many rounds. -/
theorem rounds_before (h : Clock.checkSleep interval = .ok ()) (n : Nat)
    (due : ∀ i < n, moment start length latency i < deadline)
    (others : ∀ i < n, ¬Ends status (answers i)) :
    Script.watch.Rounds id status interval deadline .null
      (Script.exact start length latency answers) n (lastSeen answers n)
      (before id interval start length latency answers n) := by
  induction n with
  | zero =>
    rw [before_zero]
    exact .none
  | succ n ih =>
    have hearlier := ih (fun i hi => due i (Nat.lt_succ_of_lt hi))
      (fun i hi => others i (Nat.lt_succ_of_lt hi))
    have hn := others n (Nat.lt_succ_self n)
    have hquery := query_before id interval start length latency answers n
    cases ha : answers n with
    | error f => exact absurd (by rw [ha]; trivial) hn
    | ok seen =>
      rw [ha] at hquery hn
      have hlast : lastSeen answers (n + 1) = seen := by simp [lastSeen, ha]
      rw [hlast]
      exact .more hearlier (due n (Nat.lt_succ_self n)) hquery hn
        (rest_answered id interval start length latency answers h n)

/-- A wait that nothing ends before query `n` comes to it. -/
theorem await_before (h : Clock.checkSleep interval = .ok ()) (patience : Nat) (n : Nat)
    (hclock : ∀ i < n, moment start length latency i < deadline)
    (hends : ∀ i < n, ¬Ends status (answers i)) :
    (Script.watch.await id status interval deadline (n + patience) .null).run
        (Script.exact start length latency answers) =
      (Script.watch.await id status interval deadline patience (lastSeen answers n)).run
        (before id interval start length latency answers n) :=
  run_of_rounds (rounds_before id status interval start length deadline latency answers h n hclock
    hends) patience

/-- The first query that ends the wait is its last step. -/
theorem await_answered (h : Clock.checkSleep interval = .ok ()) {n patience : Nat}
    (hn : Ends status (answers n)) (hends : ∀ i < n, ¬Ends status (answers i))
    (hclock : ∀ i ≤ n, moment start length latency i < deadline) (hp : n < patience) :
    (Script.watch.await id status interval deadline patience .null).run
        (Script.exact start length latency answers) =
      (conclude id (answers n), answered id interval start length latency answers n) := by
  obtain ⟨rest, rfl⟩ := Nat.exists_eq_add_of_lt hp
  rw [Nat.add_assoc, await_before id status interval start length deadline latency answers h
    (rest + 1) n (fun i hi => hclock i (Nat.le_of_lt hi)) hends]
  exact await_ends (hclock n (Nat.le_refl n))
    (query_before id interval start length latency answers n) hn

/-- A deadline that comes first is met at the first moment past it. -/
theorem await_expired (h : Clock.checkSleep interval = .ok ()) {m patience : Nat}
    (hm : deadline ≤ moment start length latency m)
    (hclock : ∀ i < m, moment start length latency i < deadline)
    (hends : ∀ i < m, ¬Ends status (answers i)) (hp : m < patience) :
    (Script.watch.await id status interval deadline patience .null).run
        (Script.exact start length latency answers) =
      (.failed (expiry id status (lastSeen answers m)),
        before id interval start length latency answers m) := by
  obtain ⟨rest, rfl⟩ := Nat.exists_eq_add_of_lt hp
  rw [Nat.add_assoc, await_before id status interval start length deadline latency answers h
    (rest + 1) m hclock hends]
  exact await_late (not_lt.2 hm)

/-- A wait that nothing ends outlasts every patience. -/
theorem await_endless (h : Clock.checkSleep interval = .ok ())
    (hclock : ∀ i, moment start length latency i < deadline)
    (hends : ∀ i, ¬Ends status (answers i)) (patience : Nat) :
    (Script.watch.await id status interval deadline patience .null).run
        (Script.exact start length latency answers) =
      (.stalled, before id interval start length latency answers patience) :=
  await_before id status interval start length deadline latency answers h 0 patience
    (fun i _ => hclock i) (fun i _ => hends i)

end Exact

/-! ### The faults of a wait -/

/-- A query that failed for a foreign reason is reported with that cause. -/
theorem queryFault_of_writable {id : Value} (h : id.writable = true) (f : Fault) :
    queryFault id f = .because .statusQuery
      ("Failed getting description of " ++ id.display ++ ". Reason: " ++ f.text) (some f)
      [("resource_id", id)] :=
  Fault.mentioning_of_writable _ (by simpa using h)

/-- An expired wait names what was awaited and what was seen. -/
theorem expiry_of_writable {id status last : Value} (hid : id.writable = true)
    (hstatus : status.writable = true) (hlast : last.writable = true) :
    expiry id status last = .because .timeout
      (id.display ++ " did not reach status '" ++ status.display ++ "' (last seen '"
        ++ last.display ++ "')") none
      [("resource_id", id), ("status", status), ("last_status", last)] :=
  Fault.mentioning_of_writable _ (by simp [hid, hstatus, hlast])

/-! ### The whole wait -/

/-- **A wait follows its reference.** Nothing is asked at or past the deadline; a query that shows
the status or fails is the last step and gives the ending; every other query is followed by one
pause; and the clock has moved by exactly the queries and pauses made. A fault of our own passes,
and the faults of the wait's own making name what they concern, which only a value too long to be
written prevents. -/
theorem await_exact (id status interval : Value) {length : Rat} (start deadline : Rat)
    (latency : Nat → Rat) (answers : Nat → Except Fault Value)
    (hlength : interval.number? = some (.exact length)) (hpositive : 0 ≤ length) :
    let run := fun patience =>
      (Script.watch.await id status interval deadline patience .null).run
        (Script.exact start length latency answers)
    (∀ n, Ends status (answers n) → (∀ i < n, ¬Ends status (answers i)) →
      (∀ i ≤ n, moment start length latency i < deadline) → ∀ patience, n < patience →
        ∃ s, run patience = (conclude id (answers n), s) ∧
          s.steps.reverse = rounds id interval n ++ [Step.query id] ∧
          s.clock = moment start length latency n + latency n) ∧
    (∀ m, deadline ≤ moment start length latency m →
      (∀ i < m, moment start length latency i < deadline) →
      (∀ i < m, ¬Ends status (answers i)) → ∀ patience, m < patience →
        ∃ s, run patience = (.failed (expiry id status (lastSeen answers m)), s) ∧
          s.steps.reverse = rounds id interval m ∧
          s.clock = moment start length latency m) ∧
    ((∀ i, moment start length latency i < deadline) → (∀ i, ¬Ends status (answers i)) →
      ∀ patience, (run patience).1 = .stalled) ∧
    (id.writable = true → ∀ f, (queryFault id f).isA .statusQuery = true ∧
      (queryFault id f).cause? = some f ∧ (queryFault id f).context = [("resource_id", id)]) ∧
    (id.writable = true → status.writable = true → ∀ last, last.writable = true →
      (expiry id status last).isA .timeout = true ∧
        (expiry id status last).context =
          [("resource_id", id), ("status", status), ("last_status", last)]) := by
  have hsleep : Clock.checkSleep interval = .ok () :=
    Clock.checkSleep_eq_ok_iff.2 ⟨_, hlength, by simpa [Number.less] using hpositive⟩
  refine ⟨?_, ?_, ?_, ?_, ?_⟩
  · intro n hn hends hclock patience hp
    exact ⟨_, await_answered id status interval start length deadline latency answers hsleep hn
      hends hclock hp, List.reverse_reverse _, rfl⟩
  · intro m hm hclock hends patience hp
    exact ⟨_, await_expired id status interval start length deadline latency answers hsleep hm
      hclock hends hp, List.reverse_reverse _, rfl⟩
  · intro hclock hends patience
    simp only [await_endless id status interval start length deadline latency answers hsleep hclock
      hends patience]
  · intro hid f
    rw [queryFault_of_writable hid f]
    exact ⟨rfl, rfl, rfl⟩
  · intro hid hstatus last hlast
    rw [expiry_of_writable hid hstatus hlast]
    exact ⟨rfl, rfl⟩

/-- A volume that is available at the second look, four seconds after the first. -/
theorem await_exact_second_look :
    (Value.int 3).number? = some (.exact 3) ∧ (0 : Rat) ≤ 3 ∧
      ∃ s, (Script.watch.await (.text "v") (.text "available") (.int 3) 10 2 .null).run
          (Script.exact 0 3 (fun _ => 1)
            fun n => .ok (.text (if n = 0 then "creating" else "available"))) =
            (.done (.text "available"), s) ∧
        s.steps.reverse =
          [.query (.text "v"), .pause (.int 3), .query (.text "v")] ∧
        s.clock = 5 := by
  have hthree : (Value.int 3).number? = some (.exact 3) := rfl
  have hpositive : (0 : Rat) ≤ 3 := by norm_num
  refine ⟨hthree, hpositive, ?_⟩
  have hclock : ∀ i ≤ 1, moment 0 3 (fun _ => 1) i < 10 := by
    intro i hi
    interval_cases i <;> norm_num [moment]
  obtain ⟨s, hrun, hsteps, htime⟩ :=
    (await_exact (.text "v") (.text "available") (.int 3) 0 10 (fun _ => 1)
      (fun n => .ok (.text (if n = 0 then "creating" else "available"))) hthree hpositive).1 1
      (by simp [Ends]) (by simp [Ends]) hclock 2 (by decide)
  refine ⟨s, hrun, hsteps, ?_⟩
  rw [htime]
  norm_num [moment]

end BlockStorage.Watch
