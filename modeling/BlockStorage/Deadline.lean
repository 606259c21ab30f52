import BlockStorage.Duration.Reading

/-!
Deadlines: the moment at which a timeout, counted from now, expires. A timeout that is no duration
or a negative one is bad input.
-/
namespace BlockStorage

namespace Deadline

/-- The duration of a timeout, which must not be negative. -/
def lengthOf (timeout : Value) : Except Fault Duration :=
  match Duration.read timeout with
  | .ok d =>
    if d.isNegative then
      .error (.mentioning [timeout] (.because .validation
        ("Timeout must not be negative, got " ++ timeout.literal) none [("timeout", timeout)]))
    else .ok d
  | .error f@(.foreign .badValue _) =>
    .error (.mentioning [timeout] (.because .validation
      ("Invalid timeout " ++ timeout.literal) (some f) [("timeout", timeout)]))
  | .error f => .error f

/-- The timeout that applies: the given one, or the fallback if there is none. -/
def applicable (fallback timeout : Value) : Value := if timeout.isNull then fallback else timeout

/-- The moment, in seconds, at which a timeout expires. -/
def after (now : Float) (fallback timeout : Value) : Except Fault Float :=
  (lengthOf (applicable fallback timeout)).map fun d => now + d.toSeconds

end Deadline

/-- The moment in whole milliseconds. -/
def milliseconds (now : Float) : Except Fault Int := Value.integerOfFloat (now * 1000.0)

end BlockStorage
