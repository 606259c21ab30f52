import BlockStorage.Proofs.Waiting
import Mathlib.Data.Rat.Floor
import Mathlib.Tactic.Linarith

/-!
A wait is bounded by its deadline.

On an exact clock query `n` starts at `moment n`, and a wait stops at the first `n` at which the
answer ends it or the deadline has come (`Stop`). So all its queries start ahead of the deadline,
and when it is over the clock has passed the deadline by no more than the last query and, if that
did not decide, the pause after it.

If a query and its pause together take some time at least, the moments grow by it from query to
query (`add_mul_le_moment`). The deadline is then reached after a number of queries that is known at
the start, and the wait comes to an end whatever is answered (`await_bounded`).
-/
namespace BlockStorage.Watch

section Exact

variable (id status interval : Value) (start length deadline : Rat) (latency : Nat → Rat)
  (answers : Nat → Except Fault Value)

/-! ### Where a wait stops -/

/-- A wait on an exact clock stops at query `n`, which is its last, or in place of it. -/
inductive Stop (n : Nat) : Outcome Value → Script Rat → Prop
  | decided (others : ∀ i < n, ¬Ends status (answers i)) (decides : Ends status (answers n))
      (due : ∀ i ≤ n, moment start length latency i < deadline) :
      Stop n (conclude id (answers n)) (answered id interval start length latency answers n)
  | expired (others : ∀ i < n, ¬Ends status (answers i))
      (due : ∀ i < n, moment start length latency i < deadline)
      (late : deadline ≤ moment start length latency n) :
      Stop n (.failed (expiry id status (lastSeen answers n)))
        (before id interval start length latency answers n)

end Exact

variable {id status interval : Value} {start length deadline : Rat} {latency : Nat → Rat}
  {answers : Nat → Except Fault Value} {n patience : Nat} {out : Outcome Value} {s : Script Rat}

/-- With enough patience a wait comes to where it stops. -/
theorem Stop.run (h : Clock.checkSleep interval = .ok ())
    (hstop : Stop id status interval start length deadline latency answers n out s)
    (hn : n < patience) :
    (Script.watch.await id status interval deadline patience .null).run
      (Script.exact start length latency answers) = (out, s) := by
  cases hstop with
  | decided others decides due =>
    exact await_answered id status interval start length deadline latency answers h decides others
      due hn
  | expired others due late =>
    exact await_expired id status interval start length deadline latency answers h late due others
      hn

/-- Up to any query a wait has stopped, or it goes on with it. By induction on the number of the
query: what goes on with one query stops there or goes on with the next. -/
theorem stop_or_goes_on (id status interval : Value) (start length deadline : Rat)
    (latency : Nat → Rat) (answers : Nat → Except Fault Value) (n : Nat) :
    (∃ m < n, ∃ out s, Stop id status interval start length deadline latency answers m out s) ∨
      ((∀ i < n, moment start length latency i < deadline) ∧
        ∀ i < n, ¬Ends status (answers i)) := by
  induction n with
  | zero =>
    refine .inr ⟨fun i hi => ?_, fun i hi => ?_⟩
    · exact absurd hi (Nat.not_lt_zero i)
    · exact absurd hi (Nat.not_lt_zero i)
  | succ n ih =>
    rcases ih with ⟨m, hm, hstop⟩ | ⟨due, others⟩
    · exact .inl ⟨m, Nat.lt_succ_of_lt hm, hstop⟩
    · by_cases late : deadline ≤ moment start length latency n
      · exact .inl ⟨n, Nat.lt_succ_self n, _, _, .expired others due late⟩
      · have dueNow : ∀ i ≤ n, moment start length latency i < deadline := by
          intro i hi
          rcases Nat.lt_or_eq_of_le hi with hi | rfl
          · exact due i hi
          · exact not_le.1 late
        by_cases decides : Ends status (answers n)
        · exact .inl ⟨n, Nat.lt_succ_self n, _, _, .decided others decides dueNow⟩
        · refine .inr ⟨fun i hi => dueNow i (Nat.le_of_lt_succ hi), fun i hi => ?_⟩
          rcases Nat.lt_succ_iff_lt_or_eq.1 hi with hi | rfl
          · exact others i hi
          · exact decides

/-! ### How long a wait takes -/

/-- If every query and its pause take some time at least, that is how fast the moments grow. -/
theorem add_mul_le_moment (start : Rat) {δ : Rat} (h : ∀ i, δ ≤ latency i + length) (n : Nat) :
    start + n * δ ≤ moment start length latency n := by
  induction n with
  | zero => simp [moment_zero]
  | succ n ih =>
    rw [moment_succ]
    push_cast
    linarith [h n]

/-- As many times as that goes into the time to the deadline, rounded up, and the deadline has
come. -/
theorem deadline_le_moment {δ : Rat} (hδ : 0 < δ) (h : ∀ i, δ ≤ latency i + length)
    (hn : ⌈(deadline - start) / δ⌉ ≤ (n : Int)) : deadline ≤ moment start length latency n := by
  have htimes : (deadline - start) / δ ≤ n := by exact_mod_cast Int.ceil_le.1 hn
  have htime : deadline - start ≤ n * δ := (div_le_iff₀ hδ).1 htimes
  linarith [add_mul_le_moment start h n]

/-- No time passes between two moments that is less than none. -/
theorem start_le_moment (hlength : 0 ≤ length) (hlatency : ∀ i, 0 ≤ latency i) (n : Nat) :
    start ≤ moment start length latency n := by
  have h := add_mul_le_moment start (fun i => add_nonneg (hlatency i) hlength) n
  simpa using h

/-- One round takes the clock past the deadline by less than its query and its pause. -/
theorem moment_succ_lt (h : moment start length latency n < deadline) :
    moment start length latency (n + 1) < deadline + latency n + length := by
  rw [moment_succ]
  linarith

/-! ### The whole wait -/

/-- How a wait keeps to its deadline. -/
structure Bounded (id status interval : Value) (start length deadline : Rat) (latency : Nat → Rat)
    (answers : Nat → Except Fault Value) (out : Outcome Value) (s : Script Rat) : Prop where
  /-- Each of its queries starts, after so many rounds, ahead of the deadline. -/
  ahead : ∀ n < s.queries, ∃ seen s₁,
    Script.watch.Rounds id status interval deadline .null
      (Script.exact start length latency answers) n seen s₁ ∧
    s₁.queries = n ∧ s₁.clock < deadline
  /-- Past the deadline nothing is asked and no time passes. -/
  idle : deadline ≤ start → s.queries = 0 ∧ s.steps = [] ∧ s.clock = start
  /-- Ahead of it something is asked. -/
  asked : start < deadline → out ≠ .stalled → 0 < s.queries
  /-- A wait that its last query decides is over when that is answered. -/
  decided : ∀ k, s.queries = k + 1 → out ≠ .stalled → Ends status (answers k) →
    out = conclude id (answers k) ∧ s.clock < deadline + latency k
  /-- Any other is over when the deadline has come, after one more pause at the latest. -/
  expired : ∀ k, s.queries = k + 1 → out ≠ .stalled → ¬Ends status (answers k) →
    out = .failed (expiry id status (lastSeen answers (k + 1))) ∧ deadline ≤ s.clock ∧
      s.clock < deadline + latency k + length
  /-- So is one that ends with a timeout which its last query did not report. -/
  timedOut : ∀ k f, s.queries = k + 1 → out = .failed f → f.isA .timeout = true →
    (∀ g, answers k = .error g → g.isA .timeout = false) →
    deadline ≤ s.clock ∧ s.clock < deadline + latency k + length

/-- The outcome of a wait that stops is no lack of patience. -/
theorem Stop.ne_stalled
    (h : Stop id status interval start length deadline latency answers n out s) :
    out ≠ .stalled := by
  cases h with
  | decided => cases answers n <;> simp [conclude]
  | expired => simp

/-- What a query decides is no timeout, unless the query reported one. -/
theorem not_timeout_of_conclude {answer : Except Fault Value} {f : Fault}
    (h : conclude id answer = .failed f)
    (hanswer : ∀ g, answer = .error g → g.isA .timeout = false) : f.isA .timeout = false := by
  cases answer with
  | ok v => cases h
  | error g =>
    cases h
    split
    · exact hanswer g rfl
    · rw [queryFault, Fault.mentioning]
      split <;> rfl

theorem ahead_of_due (h : Clock.checkSleep interval = .ok ())
    (due : ∀ i ≤ n, moment start length latency i < deadline)
    (others : ∀ i < n, ¬Ends status (answers i)) :
    ∃ seen s₁, Script.watch.Rounds id status interval deadline .null
        (Script.exact start length latency answers) n seen s₁ ∧
      s₁.queries = n ∧ s₁.clock < deadline :=
  ⟨_, _, rounds_before id status interval start length deadline latency answers h n
    (fun i hi => due i (Nat.le_of_lt hi)) others, rfl, due n (Nat.le_refl n)⟩

theorem eq_zero_of_late (hlate : deadline ≤ start)
    (due : ∀ i < n, moment start length latency i < deadline) : n = 0 := by
  by_contra hn
  have hzero := due 0 (Nat.pos_of_ne_zero hn)
  rw [moment_zero] at hzero
  exact absurd hzero (not_lt.2 hlate)

/-- A wait that nothing has ended before its next query is within bounds, if it is over only
because the deadline has come. -/
theorem bounded_before (h : Clock.checkSleep interval = .ok ())
    (others : ∀ i < n, ¬Ends status (answers i))
    (due : ∀ i < n, moment start length latency i < deadline)
    (hout : out ≠ .stalled → out = .failed (expiry id status (lastSeen answers n)) ∧
      deadline ≤ moment start length latency n) :
    Bounded id status interval start length deadline latency answers out
      (before id interval start length latency answers n) where
  ahead i hi := ahead_of_due h (fun j hj => due j (Nat.lt_of_le_of_lt hj hi))
    fun j hj => others j (Nat.lt_trans hj hi)
  idle hlate := by
    cases eq_zero_of_late hlate due
    exact ⟨rfl, rfl, moment_zero start length latency⟩
  asked hstart hover := by
    refine Nat.pos_of_ne_zero fun hn => ?_
    cases (show n = 0 from hn)
    have hlate := (hout hover).2
    rw [moment_zero] at hlate
    exact absurd hstart (not_lt.2 hlate)
  decided k hk _ hends := by
    cases (show n = k + 1 from hk)
    exact absurd hends (others k (Nat.lt_succ_self k))
  expired k hk hover _ := by
    cases (show n = k + 1 from hk)
    exact ⟨(hout hover).1, (hout hover).2, moment_succ_lt (due k (Nat.lt_succ_self k))⟩
  timedOut k f hk hf _ _ := by
    cases (show n = k + 1 from hk)
    have hover : out ≠ .stalled := by simp [hf]
    exact ⟨(hout hover).2, moment_succ_lt (due k (Nat.lt_succ_self k))⟩

/-- So is one that its last query decides. -/
theorem bounded_answered (hlength : 0 ≤ length) (hlatency : ∀ i, 0 ≤ latency i)
    (h : Clock.checkSleep interval = .ok ()) (others : ∀ i < n, ¬Ends status (answers i))
    (decides : Ends status (answers n)) (due : ∀ i ≤ n, moment start length latency i < deadline) :
    Bounded id status interval start length deadline latency answers (conclude id (answers n))
      (answered id interval start length latency answers n) where
  ahead i hi := ahead_of_due h
    (fun j hj => due j (Nat.le_trans hj (Nat.le_of_lt_succ hi)))
    fun j hj => others j (Nat.lt_of_lt_of_le hj (Nat.le_of_lt_succ hi))
  idle hlate :=
    absurd (lt_of_le_of_lt (start_le_moment hlength hlatency n) (due n (Nat.le_refl n)))
      (not_lt.2 hlate)
  asked _ _ := Nat.succ_pos n
  decided k hk _ _ := by
    cases hk
    exact ⟨rfl, add_lt_add_of_lt_of_le (due n (Nat.le_refl n)) (le_refl _)⟩
  expired k hk _ hnot := by
    cases hk
    exact absurd decides hnot
  timedOut k f hk hf htimeout hanswer := by
    cases hk
    rw [not_timeout_of_conclude hf hanswer] at htimeout
    cases htimeout

/-- **The wait is bounded.** However the queries are answered and however long they take, they all
start ahead of the deadline; past the deadline nothing is asked and no time passes; and a wait that
is over is so at most one query, and one pause if that did not decide, after the deadline. If every
query and its pause together take some time at least, the wait ends after no more queries than as
many times as that goes into the time that there was. -/
theorem await_bounded (id status interval : Value) {length : Rat} (start deadline : Rat)
    (latency : Nat → Rat) (answers : Nat → Except Fault Value)
    (hinterval : interval.number? = some (.exact length)) (hlength : 0 ≤ length)
    (hlatency : ∀ i, 0 ≤ latency i) :
    let run := fun patience =>
      (Script.watch.await id status interval deadline patience .null).run
        (Script.exact start length latency answers)
    (∀ patience, Bounded id status interval start length deadline latency answers
      (run patience).1 (run patience).2) ∧
    ∀ δ : Rat, 0 < δ → (∀ i, δ ≤ latency i + length) →
      ∃ out s, out ≠ .stalled ∧ (s.queries : Int) ≤ max 0 ⌈(deadline - start) / δ⌉ ∧
        ∀ patience : Nat, max 0 ⌈(deadline - start) / δ⌉ < patience → run patience = (out, s) := by
  have hsleep : Clock.checkSleep interval = .ok () :=
    Clock.checkSleep_eq_ok_iff.2 ⟨_, hinterval, by simpa [Number.less] using hlength⟩
  refine ⟨fun patience => ?_, fun δ hδ hpace => ?_⟩
  · rcases stop_or_goes_on id status interval start length deadline latency answers patience with
      ⟨n, hn, out, s, hstop⟩ | ⟨due, others⟩
    · simp only [hstop.run hsleep hn]
      cases hstop with
      | decided others decides due =>
        exact bounded_answered hlength hlatency hsleep others decides due
      | expired others due late => exact bounded_before hsleep others due fun _ => ⟨rfl, late⟩
    · have hstalled := await_before id status interval start length deadline latency answers hsleep
        0 patience due others
      simp only [Nat.add_zero] at hstalled
      simp only [hstalled]
      exact bounded_before hsleep others due fun hover => absurd rfl hover
  · -- At the last query that the bound allows the deadline has come, so the wait stops before it.
    obtain ⟨N, hN⟩ := Int.eq_ofNat_of_zero_le (le_max_left 0 ⌈(deadline - start) / δ⌉)
    have hlate : deadline ≤ moment start length latency N :=
      deadline_le_moment hδ hpace (hN ▸ le_max_right 0 _)
    rcases stop_or_goes_on id status interval start length deadline latency answers (N + 1) with
      ⟨n, hn, out, s, hstop⟩ | ⟨due, -⟩
    · refine ⟨out, s, hstop.ne_stalled, ?_, fun patience hpatience => hstop.run hsleep ?_⟩
      · rw [hN]
        cases hstop with
        | decided _ _ due =>
          have hnN : n ≠ N := by
            rintro rfl
            exact absurd (due n (Nat.le_refl n)) (not_lt.2 hlate)
          show ((n + 1 : Nat) : Int) ≤ N
          omega
        | expired =>
          show (n : Int) ≤ N
          omega
      · rw [hN] at hpatience
        omega
    · exact absurd (due N (Nat.lt_succ_self N)) (not_lt.2 hlate)

/-- A volume that never becomes available within ten seconds, looked at every four. -/
theorem await_bounded_never_available :
    (Value.int 3).number? = some (.exact 3) ∧ (0 : Rat) ≤ 3 ∧ (∀ _ : Nat, (0 : Rat) ≤ 1) ∧
      ∃ out s, out ≠ .stalled ∧ s.queries ≤ 3 ∧
        (Script.watch.await (.text "v") (.text "available") (.int 3) 10 4 .null).run
          (Script.exact 0 3 (fun _ => 1) fun _ => .ok (.text "creating")) = (out, s) ∧
        10 ≤ s.clock ∧ s.clock < 14 := by
  have hthree : (Value.int 3).number? = some (.exact 3) := rfl
  have hpositive : (0 : Rat) ≤ 3 := by norm_num
  have hone : ∀ _ : Nat, (0 : Rat) ≤ 1 := fun _ => by norm_num
  obtain ⟨hbounded, hends⟩ := await_bounded (.text "v") (.text "available") (.int 3) 0 10
    (fun _ => 1) (fun _ => .ok (.text "creating")) hthree hpositive hone
  obtain ⟨out, s, hout, hqueries, hrun⟩ := hends 4 (by norm_num) fun _ => by norm_num
  have hceil : max 0 ⌈((10 : Rat) - 0) / 4⌉ = 3 := by norm_num
  rw [hceil] at hqueries hrun
  have hrun := hrun 4 (by norm_num)
  have h := hbounded 4
  simp only [hrun] at h
  obtain ⟨k, hk⟩ := Nat.exists_eq_succ_of_ne_zero
    (Nat.pos_iff_ne_zero.1 (h.asked (by norm_num) hout))
  obtain ⟨-, hlate, hsoon⟩ := h.expired k hk hout (by simp [Ends])
  refine ⟨hthree, hpositive, hone, out, s, hout, by exact_mod_cast hqueries, hrun, hlate, ?_⟩
  linarith

end BlockStorage.Watch
