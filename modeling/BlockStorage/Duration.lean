import BlockStorage.Binary.Double

/-!
Durations: whole microseconds, of at most 999999999 days either way. A duration is shown by its
days, the seconds within the day and the microseconds within the second, of which only the days
can be negative.

Statement: a duration is made of its own microseconds and of no others
(`ofMicroseconds_eq_ok_iff`).
-/
namespace BlockStorage

def microsecondsPerSecond : Int := 1000000

def secondsPerDay : Int := 86400

def microsecondsPerDay : Int := secondsPerDay * microsecondsPerSecond

/-- The most days of a duration, either way. -/
def maxDays : Nat := 999999999

/-- A length of time, forward or backward. -/
structure Duration where
  microseconds : Int
  inRange : (microseconds / microsecondsPerDay).natAbs ≤ maxDays
  deriving DecidableEq, Repr

namespace Duration

/-- Whole days, rounded down. -/
def days (d : Duration) : Int := d.microseconds / microsecondsPerDay

/-- Seconds within the day. -/
def seconds (d : Duration) : Int := d.microseconds % microsecondsPerDay / microsecondsPerSecond

/-- Microseconds within the second. -/
def subseconds (d : Duration) : Int := d.microseconds % microsecondsPerSecond

def isNegative (d : Duration) : Bool := d.microseconds < 0

/-- The double nearest to the number of seconds. -/
def toSeconds (d : Duration) : Float :=
  Binary.nearest (mkRat d.microseconds microsecondsPerSecond.toNat)

/-! ### Building -/

/-- Why a length of time is no duration: its days do not fit 32 bits, or are too many. -/
inductive Overflow where
  | word
  | days (n : Int)
  deriving DecidableEq, Repr

def Overflow.message : Overflow → String
  | .word => "Python int too large to convert to C int"
  | .days n => "days=" ++ toString n ++ "; must have magnitude <= 999999999"

def ofMicroseconds (us : Int) : Except Overflow Duration :=
  let days := us / microsecondsPerDay
  if days < -2147483648 ∨ 2147483647 < days then .error .word
  else if h : (us / microsecondsPerDay).natAbs ≤ maxDays then .ok ⟨us, h⟩
  else .error (.days days)

theorem ofMicroseconds_eq_ok_iff {us : Int} {d : Duration} :
    ofMicroseconds us = .ok d ↔ d.microseconds = us := by
  simp only [ofMicroseconds]
  constructor
  · intro h
    split at h
    · cases h
    · split at h
      · cases h; rfl
      · cases h
  · rintro rfl
    have h := d.inRange
    have h' : ¬(d.microseconds / microsecondsPerDay < -2147483648 ∨
        2147483647 < d.microseconds / microsecondsPerDay) := by
      simp only [maxDays] at h; omega
    simp [h', h]

def ofSeconds (n : Int) : Except Overflow Duration := ofMicroseconds (n * microsecondsPerSecond)

/-- The parts are taken as they are, and put in order. -/
def ofParts (days seconds subseconds : Int) : Except Overflow Duration :=
  ofMicroseconds ((days * secondsPerDay + seconds) * microsecondsPerSecond + subseconds)

/-- Seconds with a fraction in microseconds: the whole part is exact, and the fraction in
microseconds is rounded to a double first and to a whole number after that. -/
def roundSeconds (q : Rat) : Int :=
  let whole := Binary.truncate q
  let product := Binary.nearest ((q - whole) * microsecondsPerSecond)
  let micros := ((Binary.Double.ofFloat product).toRat?.map Binary.roundHalfEven).getD 0
  whole * microsecondsPerSecond + micros

def ofExactSeconds (q : Rat) : Except Overflow Duration := ofMicroseconds (roundSeconds q)

/-! ### Text -/

/-- The parts that are not zero, by name. -/
def literal (d : Duration) : String :=
  let part := fun (name : String) (n : Int) => if n = 0 then [] else [name ++ "=" ++ toString n]
  let parts := part "days" d.days ++ part "seconds" d.seconds
    ++ part "microseconds" d.subseconds
  "datetime.timedelta(" ++ (if parts.isEmpty then "0" else ", ".intercalate parts) ++ ")"

/-- A number with zeros in front, up to a width. -/
def padded (width : Nat) (n : Int) : String :=
  let ds := Nat.toDigits 10 n.toNat
  String.ofList (List.replicate (width - ds.length) '0' ++ ds)

/-- Days, and a clock face for the rest. -/
def display (d : Duration) : String :=
  let days :=
    if d.days = 0 then ""
    else toString d.days ++ (if d.days.natAbs = 1 then " day, " else " days, ")
  let clock := toString (d.seconds / 3600) ++ ":" ++ padded 2 (d.seconds / 60 % 60) ++ ":"
    ++ padded 2 (d.seconds % 60)
  days ++ clock ++ (if d.subseconds = 0 then "" else "." ++ padded 6 d.subseconds)

end Duration

end BlockStorage
