import BlockStorage.Fault

/-!
Clocks that show seconds as doubles, and sleeping on them. A length that no double can hold moves
no clock.

Statement: a sleep is refused exactly if its length is no number or a negative one
(`checkSleep_eq_ok_iff`).
-/
namespace BlockStorage

/-- The double nearest to a number. -/
def Number.toFloat : Number → Float
  | .exact q => Binary.nearest q
  | .infinite negative => if negative then -1.0 / 0.0 else 1.0 / 0.0
  | .nan => 0.0 / 0.0

/-- The double nearest to a value that is a number. -/
def Value.toFloat? : Value → Option Float
  | .float x => some x
  | v => v.number?.map Number.toFloat

namespace Clock

/-- The clock after so many seconds. -/
def advance (clock : Float) (seconds : Value) : Except Fault Float :=
  match seconds with
  | .float x => .ok (clock + x)
  | v =>
    match v.toFloat? with
    | none => .error (.wrongKind
        ("unsupported operand type(s) for +=: 'float' and '" ++ v.kindName ++ "'"))
    | some x =>
      if x.isFinite then .ok (clock + x)
      else .error (.foreign .overflow (some "int too large to convert to float"))

/-- Refuses a sleep of no length and one of a negative length. -/
def checkSleep (seconds : Value) : Except Fault Unit :=
  match seconds.number? with
  | none =>
    .error (.wrongKind
      ("'<' not supported between instances of '" ++ seconds.kindName ++ "' and 'int'"))
  | some n =>
    if n.less (.exact 0) then .error (.badValue "sleep length must be non-negative") else .ok ()

theorem checkSleep_eq_ok_iff {seconds : Value} :
    checkSleep seconds = .ok () ↔
      ∃ n, seconds.number? = some n ∧ n.less (.exact 0) = false := by
  unfold checkSleep
  split
  · simp_all
  · split <;> simp_all

end Clock

end BlockStorage
