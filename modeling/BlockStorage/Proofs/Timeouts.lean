import BlockStorage.Sandbox.Trial
import BlockStorage.Storage
import Mathlib.Tactic.ByContra

/-!
Timeouts that are no good.

A value asks for a length of time, for time without end, or for nothing that can be measured
(`Duration.asked`), and reading it gives the duration of that length if there is one
(`read_eq`). `bad_timeout` says what becomes of an operation whose timeout is not a duration or a
negative one: it fails, nothing at all has happened to the session, and the fault is bad input that
names the timeout exactly if the timeout can be written and is not too long for a duration. A
timeout that is too long gets past as a foreign overflow, which is not bad input.
-/
namespace BlockStorage

/-! ### What a value asks for -/

namespace Duration

/-- A length of time, whether or not a duration can be that long. -/
inductive Length where
  | microseconds (us : Int)
  | endless
  deriving DecidableEq, Repr

/-- So many seconds. -/
def Length.ofSeconds (n : Int) : Length := .microseconds (n * microsecondsPerSecond)

/-- The length of time that a value asks for, if it asks for one. -/
def asked : Value → Option Length
  | .span d => some (.microseconds d.microseconds)
  | .int n => some (.ofSeconds n)
  | .float x =>
    match Number.ofFloat x with
    | .exact q => some (.microseconds (roundSeconds q))
    | .infinite _ => some .endless
    | .nan => none
  | .text s =>
    if Text.isDigits s.toList then (Value.text s).toInteger.toOption.map .ofSeconds
    else (measure? s.toList).map fun (n, u) => .ofSeconds (n * u.seconds)
  | _ => none

/-- The duration of a length. -/
def ofLength : Length → Except Fault Duration
  | .microseconds us => (ofMicroseconds us).mapError Fault.ofOverflow
  | .endless => .error (.foreign .overflow (some "cannot convert float infinity to integer"))

/-- The fault of a value that asks for nothing. -/
def Unmeasured (f : Fault) : Prop := ∃ text, f = .foreign .badValue (some text)

theorem unmeasured_refusal (v : Value) : Unmeasured (refusal v) := by
  unfold refusal Fault.mentioning
  split
  · exact ⟨_, rfl⟩
  · exact ⟨_, rfl⟩

/-- Reading a value gives what it asks for. -/
theorem read_eq (v : Value) :
    (∃ l, asked v = some l ∧ read v = ofLength l) ∨
      (asked v = none ∧ ∃ f, read v = .error f ∧ Unmeasured f) := by
  cases v with
  | span d =>
    refine .inl ⟨_, rfl, ?_⟩
    have h : ofMicroseconds d.microseconds = .ok d := ofMicroseconds_eq_ok_iff.2 rfl
    simp only [ofLength, h, read]
    rfl
  | int n => exact .inl ⟨_, rfl, rfl⟩
  | float x =>
    simp only [asked, read]
    cases h : Number.ofFloat x with
    | exact q => exact .inl ⟨_, rfl, rfl⟩
    | infinite negative =>
      refine .inl ⟨_, rfl, ?_⟩
      simp only [Value.integerOfFloat, h]
      rfl
    | nan =>
      refine .inr ⟨rfl, .badValue "cannot convert float NaN to integer", ?_, _, rfl⟩
      simp only [Value.integerOfFloat, h]
      rfl
  | text s =>
    simp only [asked, read]
    split
    · simp only [Value.toInteger]
      cases Text.Integer.read s.toList with
      | ok n => exact .inl ⟨_, rfl, rfl⟩
      | error r => exact .inr ⟨rfl, _, rfl, _, rfl⟩
    · cases h : measure? s.toList with
      | some m => exact .inl ⟨_, rfl, rfl⟩
      | none => exact .inr ⟨rfl, _, rfl, unmeasured_refusal _⟩
  | _ => exact .inr ⟨rfl, _, rfl, unmeasured_refusal _⟩

/-- A value that asks for more time than a duration can be, either way. -/
def TooLong (v : Value) : Prop :=
  asked v = some .endless ∨
    ∃ us, asked v = some (.microseconds us) ∧ maxDays < (us / microsecondsPerDay).natAbs

/-- A length that no duration has overflows. -/
theorem ofLength_eq_error {l : Length} {f : Fault} (h : ofLength l = .error f) :
    (∃ text, f = .foreign .overflow (some text)) ∧
      (l = .endless ∨
        ∃ us, l = .microseconds us ∧ maxDays < (us / microsecondsPerDay).natAbs) := by
  cases l with
  | endless =>
    cases h
    exact ⟨⟨_, rfl⟩, .inl rfl⟩
  | microseconds us =>
    cases hd : ofMicroseconds us with
    | ok d =>
      simp only [ofLength, hd, Fault.mapError_ok] at h
      cases h
    | error o =>
      simp only [ofLength, hd, Fault.mapError_error] at h
      cases h
      refine ⟨⟨_, rfl⟩, .inr ⟨us, rfl, ?_⟩⟩
      by_contra hin
      have hok : ofMicroseconds us = .ok ⟨us, Nat.not_lt.1 hin⟩ := ofMicroseconds_eq_ok_iff.2 rfl
      rw [hok] at hd
      cases hd

theorem not_tooLong_of_read {v : Value} {d : Duration} (h : read v = .ok d) : ¬TooLong v := by
  obtain ⟨l, hl, hr⟩ | ⟨-, f, hf, -⟩ := read_eq v
  · rw [h] at hr
    rintro (he | ⟨us, he, hlong⟩)
    · rw [hl] at he
      cases he
      cases hr
    · rw [hl] at he
      cases he
      cases hd : ofMicroseconds us with
      | ok e =>
        rw [← ofMicroseconds_eq_ok_iff.1 hd] at hlong
        exact absurd e.inRange (Nat.not_le.2 hlong)
      | error o =>
        simp only [ofLength, hd, Fault.mapError_error] at hr
        cases hr
  · rw [h] at hf
    cases hf

/-- What cannot be read is too long, or nothing that can be measured. -/
theorem read_eq_error {v : Value} {f : Fault} (h : read v = .error f) :
    (TooLong v ∧ ∃ text, f = .foreign .overflow (some text)) ∨ (¬TooLong v ∧ Unmeasured f) := by
  obtain ⟨l, hl, hr⟩ | ⟨hnone, g, hg, hu⟩ := read_eq v
  · rw [h] at hr
    obtain ⟨htext, hlong⟩ := ofLength_eq_error hr.symm
    refine .inl ⟨?_, htext⟩
    rcases hlong with rfl | ⟨us, rfl, hus⟩
    · exact .inl hl
    · exact .inr ⟨us, hl, hus⟩
  · rw [h] at hg
    cases hg
    refine .inr ⟨?_, hu⟩
    rintro (he | ⟨us, he, -⟩) <;> rw [hnone] at he <;> cases he

end Duration

/-! ### Timeouts -/

namespace Deadline

/-- A timeout that is not a duration, or a negative one. -/
def Bad (timeout : Value) : Prop := ∀ d, Duration.read timeout = .ok d → d.isNegative = true

/-- Bad input that names the timeout. -/
def Names (timeout : Value) (f : Fault) : Prop :=
  f.isA .validation = true ∧ f.context = [("timeout", timeout)]

theorem mentioning_names {timeout : Value} (message : String) (cause : Option Fault)
    (h : timeout.writable = true) :
    Names timeout (.mentioning [timeout] (.because .validation message cause
      [("timeout", timeout)])) := by
  rw [Fault.mentioning_of_writable _ (by simpa using h)]
  exact ⟨rfl, rfl⟩

theorem mentioning_of_not_writable {timeout : Value} (f : Fault)
    (h : timeout.writable = false) : Fault.mentioning [timeout] f = .notWritable := by
  simp [Fault.mentioning, h]

/-- The fault of a bad timeout, by what is bad about it. -/
theorem lengthOf_bad {timeout : Value} (hbad : Bad timeout) :
    ∃ f, lengthOf timeout = .error f ∧
      (Duration.TooLong timeout → ∃ text, f = .foreign .overflow (some text)) ∧
      (¬Duration.TooLong timeout → timeout.writable = true → Names timeout f) ∧
      (¬Duration.TooLong timeout → timeout.writable = false → f = .notWritable) := by
  unfold lengthOf
  cases h : Duration.read timeout with
  | ok d =>
    simp only [hbad d h, if_true]
    exact ⟨_, rfl, fun hlong => absurd hlong (Duration.not_tooLong_of_read h),
      fun _ => mentioning_names _ _, fun _ => mentioning_of_not_writable _⟩
  | error f =>
    obtain ⟨hlong, text, rfl⟩ | ⟨hlong, text, rfl⟩ := Duration.read_eq_error h
    · exact ⟨_, rfl, fun _ => ⟨text, rfl⟩, fun h => absurd hlong h, fun h => absurd hlong h⟩
    · exact ⟨_, rfl, fun h => absurd h hlong, fun _ => mentioning_names _ _,
        fun _ => mentioning_of_not_writable _⟩

theorem after_of_lengthOf {now : Float} {fallback timeout : Value} {f : Fault}
    (hnull : timeout.isNull = false) (h : lengthOf timeout = .error f) :
    after now fallback timeout = .error f := by
  simp only [after, applicable, hnull, Bool.false_eq_true, if_false, h]
  rfl

end Deadline

/-! ### Operations with a timeout -/

namespace Storage

open Session

variable {σ : Type}

/-- The operations that take a timeout, with their other arguments. -/
inductive Timed where
  | create (template location : Value)
  | attach (id device address : Value)
  | detach (id address : Value)
  | delete (location id : Value)

namespace Timed

/-- The operation with a timeout. -/
def run (ctx : Context σ) (timeout : Value) : Timed → Run (Session σ) Unit
  | create template location => do let _ ← Storage.create ctx template location timeout
  | attach id device address => Storage.attach ctx id device address timeout
  | detach id address => Storage.detach ctx id address timeout
  | delete location id => Storage.delete ctx location id timeout

/-- Nothing that must be given is missing. -/
def Complete : Timed → Prop
  | attach id device _ => id.truthy = true ∧ device.truthy = true
  | _ => True

/-- How a fault of the operation is reported. -/
def report : Timed → Fault → Fault
  | attach .. => .translate .volumeAttachment
  | detach .. => .translate .volumeDetachment
  | _ => id

end Timed

theorem run_deadline (ctx : Context σ) (timeout : Value) (s : Session σ) :
    (deadline ctx timeout).run s =
      (.ofExcept (Deadline.after (ctx.backend.now s.world.cloud) ctx.settings.operationTimeout
        timeout), s) := by
  rw [deadline, Run.run_bind_done (run_now ctx s), Run.run_ofExcept]

/-- A timeout is looked at before anything is asked of the cloud. -/
theorem Timed.run_of_refused (ctx : Context σ) (s : Session σ) {op : Timed} (hop : op.Complete)
    {timeout : Value} {f : Fault} (hnull : timeout.isNull = false)
    (h : Deadline.lengthOf timeout = .error f) :
    (op.run ctx timeout).run s = (.failed (op.report f), s) := by
  have hafter : Deadline.after (ctx.backend.now s.world.cloud) ctx.settings.operationTimeout
      timeout = .error f := Deadline.after_of_lengthOf hnull h
  have hdeadline : (deadline ctx timeout).run s = (.failed f, s) := by
    rw [run_deadline, hafter]
    rfl
  cases op with
  | create template location =>
    have horder : order ctx.settings s.gateway.cloud (ctx.backend.now s.world.cloud) template
        location timeout = .error f := by
      simp only [order, hafter]
      rfl
    have hcreate : (Storage.create ctx template location timeout).run s = (.failed f, s) := by
      rw [Storage.create, Run.run_bind_done (run_current s), Run.run_bind_done (run_now ctx s),
        horder]
      rfl
    exact Run.run_bind_failed hcreate
  | attach id device address =>
    refine Run.run_translating_failed ?_
    simp only [require, hop.1, hop.2, if_true, Run.ofExcept_ok, pure_bind]
    exact Run.run_bind_failed hdeadline
  | detach id address => exact Run.run_translating_failed (Run.run_bind_failed hdeadline)
  | delete location id => exact Run.run_bind_failed hdeadline

/-- A fault that is reported stays what it is, if it names a timeout. -/
theorem Timed.report_of_names (op : Timed) {timeout : Value} {f : Fault}
    (h : Deadline.Names timeout f) : op.report f = f := by
  have hown : f.isOwn = true := by
    cases f with
    | own => rfl
    | foreign => exact absurd h.1 (by simp [Fault.isA])
  cases op with
  | attach | detach => exact Fault.translate_own _ hown
  | create | delete => rfl

/-- A foreign fault is not reported as bad input. -/
theorem Timed.report_foreign (op : Timed) (origin : Fault.Origin) (text : Option String) :
    (op.report (.foreign origin text)).isA .validation = false := by
  cases op <;> cases origin <;> rfl

/-- **A bad timeout is refused before anything happens.** The fault is bad input that names the
timeout exactly if the timeout can be written and is not too long for a duration. One that is too
long overflows instead, and one that cannot be written cannot be named. -/
theorem bad_timeout (ctx : Context σ) (s : Session σ) {op : Timed} (hop : op.Complete)
    {timeout : Value} (hnull : timeout.isNull = false) (hbad : Deadline.Bad timeout) :
    ∃ f, (op.run ctx timeout).run s = (.failed f, s) ∧
      (Deadline.Names timeout f ↔ timeout.writable = true ∧ ¬Duration.TooLong timeout) ∧
      (Duration.TooLong timeout → ∃ text, f = op.report (.foreign .overflow (some text))) ∧
      (¬Duration.TooLong timeout → timeout.writable = false → f = op.report .notWritable) := by
  obtain ⟨f, hf, hlong, hnames, hmute⟩ := Deadline.lengthOf_bad hbad
  refine ⟨op.report f, op.run_of_refused ctx s hop hnull hf, ⟨fun h => ?_, fun h => ?_⟩, ?_, ?_⟩
  · by_cases ht : Duration.TooLong timeout
    · obtain ⟨text, rfl⟩ := hlong ht
      exact absurd h.1 (by rw [op.report_foreign]; decide)
    · refine ⟨?_, ht⟩
      by_contra hw
      rw [hmute ht (by simpa using hw)] at h
      exact absurd h.1 (by rw [Fault.notWritable, Fault.badValue, op.report_foreign]; decide)
  · have hn := hnames h.2 h.1
    rwa [op.report_of_names hn]
  · intro ht
    obtain ⟨text, rfl⟩ := hlong ht
    exact ⟨text, rfl⟩
  · intro ht hw
    rw [hmute ht hw]

/-- A word that is no duration, given to a deletion. -/
theorem bad_timeout_word :
    (Timed.delete .null (.text "v")).Complete ∧ (Value.text "soon").isNull = false ∧
      Deadline.Bad (.text "soon") ∧
      ∃ f, ((Timed.delete .null (.text "v")).run (Sandbox.context Sandbox.plainSettings)
          (.text "soon")).run (Sandbox.start { clock := 0 }) =
            (.failed f, Sandbox.start { clock := 0 }) ∧
        Deadline.Names (.text "soon") f := by
  have hcomplete : (Timed.delete .null (.text "v")).Complete := trivial
  have hnull : (Value.text "soon").isNull = false := rfl
  have hread : Duration.read (.text "soon") = .error (Duration.refusal (.text "soon")) := rfl
  have hbad : Deadline.Bad (.text "soon") := fun d h => by
    rw [hread] at h
    cases h
  have hshort : ¬Duration.TooLong (.text "soon") := by
    have hasked : Duration.asked (.text "soon") = none := rfl
    simp [Duration.TooLong, hasked]
  obtain ⟨f, hrun, hnames, -⟩ := bad_timeout (Sandbox.context Sandbox.plainSettings)
    (Sandbox.start { clock := 0 }) hcomplete hnull hbad
  exact ⟨hcomplete, hnull, hbad, f, hrun, hnames.2 ⟨rfl, hshort⟩⟩

/-- More than three million years are too long: the deletion fails with an overflow, which is not
bad input. -/
theorem long_timeout_overflows :
    Deadline.Bad (.int 100000000000000) ∧
      ((Timed.delete .null (.text "v")).run (Sandbox.context Sandbox.plainSettings)
          (.int 100000000000000)).run (Sandbox.start { clock := 0 }) =
        (.failed (.foreign .overflow (some "days=1157407407; must have magnitude <= 999999999")),
          Sandbox.start { clock := 0 }) ∧
      ¬Deadline.Names (.int 100000000000000)
        (.foreign .overflow (some "days=1157407407; must have magnitude <= 999999999")) := by
  have hread : Duration.read (.int 100000000000000) =
      .error (.foreign .overflow (some "days=1157407407; must have magnitude <= 999999999")) := rfl
  have hlength : Deadline.lengthOf (.int 100000000000000) =
      .error (.foreign .overflow (some "days=1157407407; must have magnitude <= 999999999")) := by
    simp only [Deadline.lengthOf, hread]
  have hcomplete : (Timed.delete .null (.text "v")).Complete := trivial
  refine ⟨fun d h => ?_, ?_, fun h => ?_⟩
  · rw [hread] at h
    cases h
  · exact Timed.run_of_refused _ _ hcomplete rfl hlength
  · exact absurd h.1 (by decide)

end Storage

end BlockStorage
