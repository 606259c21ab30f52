import BlockStorage.Value.Integer

/-!
Durations out of values. A number is so many seconds; a text is a number of seconds in digits, or
a whole number followed by the letter of its unit; a duration is itself. Everything else is
refused with the same words, and a length of time beyond the range of durations overflows.

Statements: a text of digits alone never ends in a unit (`unit?_of_isDigits`), so the two forms of
text exclude each other; on whole seconds the reading is exact (`read_int`), and what can be read is
not too long to be written (`writable_of_read`).
-/
namespace BlockStorage

namespace Duration

/-- The units of time. -/
inductive Scale where
  | second
  | minute
  | hour
  | day
  | week
  deriving DecidableEq, Repr

def Scale.seconds : Scale → Int
  | second => 1
  | minute => 60
  | hour => 3600
  | day => 86400
  | week => 604800

/-- The unit that a letter stands for. -/
def Scale.ofLetter? : Char → Option Scale
  | 's' => some second
  | 'm' => some minute
  | 'h' => some hour
  | 'd' => some day
  | 'w' => some week
  | _ => none

/-- A number and its unit, from a text that ends in the letter of one. -/
def measure? (cs : List Char) : Option (Int × Scale) :=
  match cs.getLast?.bind Scale.ofLetter?, Text.Integer.read cs.dropLast with
  | some u, .ok n => some (n, u)
  | _, _ => none

theorem unit?_of_isDigits {cs : List Char} (h : Text.isDigits cs = true) :
    cs.getLast?.bind Scale.ofLetter? = none := by
  cases hc : cs.getLast? with
  | none => rfl
  | some c =>
    have hd : Text.isDigit c = true := by
      simp only [Text.isDigits, Bool.and_eq_true, List.all_eq_true] at h
      exact h.2 c (List.mem_of_getLast? hc)
    simp only [Option.bind_some, Scale.ofLetter?]
    split <;> first | rfl | exact absurd hd (by decide)

/-- The words for a value that is no duration. -/
def refusal (v : Value) : Fault :=
  .mentioning [v] (.badValue
    ("Input is expected to be in the format _s, _m, _h, _d or _w where _ is an int, "
      ++ "a timedelta, or a number representing seconds, got " ++ v.literal))

/-- So many seconds. -/
def ofInteger (n : Int) : Except Fault Duration := (ofSeconds n).mapError Fault.ofOverflow

/-- The duration that a value denotes. -/
def read (v : Value) : Except Fault Duration :=
  match v with
  | .span d => .ok d
  | .int n => ofInteger n
  | .float x =>
    match Number.ofFloat x with
    | .exact q => (ofExactSeconds q).mapError Fault.ofOverflow
    | _ => (Value.integerOfFloat x).bind ofInteger
  | .text s =>
    if Text.isDigits s.toList then v.toInteger.bind ofInteger
    else match measure? s.toList with
      | some (n, u) => ofInteger (n * u.seconds)
      | none => .error (refusal v)
  | v => .error (refusal v)

theorem read_int (n : Int) (d : Duration) :
    read (.int n) = .ok d ↔ d.microseconds = n * microsecondsPerSecond := by
  simp only [read, ofInteger, ofSeconds]
  rw [← ofMicroseconds_eq_ok_iff]
  cases ofMicroseconds (n * microsecondsPerSecond) <;> simp

/-- What is a duration is not too long to be written. -/
theorem writable_of_read {v : Value} {d : Duration} (h : read v = .ok d) :
    v.writable = true := by
  cases v with
  | int n =>
    have hmicroseconds := (read_int n d).1 h
    have hrange := d.inRange
    have hshort : n.natAbs < Text.Integer.writeLimit := by
      refine Text.Integer.lt_writeLimit (by decide : 15 ≤ Text.Integer.digitLimit) ?_
      show n.natAbs < 1000000000000000
      simp only [hmicroseconds, microsecondsPerSecond, microsecondsPerDay, secondsPerDay,
        maxDays] at hrange
      omega
    rw [Value.writable, Text.Integer.writable, decide_eq_true_iff]
    exact hshort
  | list xs => cases h
  | dict es => cases h
  | _ => rfl

end Duration

end BlockStorage
