import BlockStorage.Run

/-!
Waiting for a status. Every request that changes a volume is only acknowledged by the cloud, so an
operation that changes one queries its status until the awaited one shows or the deadline has
passed. The deadline is looked at before each query, and each query that shows another status is
followed by one pause.

A failed query ends the wait at once: faults of our own pass unchanged, foreign ones are reported
as a failed status query.

The clock may be of any kind, and the number of queries is bounded by `patience`, so that a clock
that stands still cannot hold a wait forever.
-/
namespace BlockStorage

/-- What a wait uses of a state `σ` with clock `τ`. -/
structure Watch (σ τ : Type) where
  now : σ → τ
  query : (id : Value) → Run σ Value
  pause : (seconds : Value) → Run σ Unit

namespace Watch

/-- The fault of a query that failed for a foreign reason. -/
def queryFault (id : Value) (f : Fault) : Fault :=
  .mentioning [id] (.because .statusQuery
    ("Failed getting description of " ++ id.display ++ ". Reason: " ++ f.text) (some f)
    [("resource_id", id)])

/-- The fault of a wait that the deadline ended. -/
def expiry (id status last : Value) : Fault :=
  .mentioning [id, status, last] (.because .timeout
    (id.display ++ " did not reach status '" ++ status.display ++ "' (last seen '"
      ++ last.display ++ "')") none
    [("resource_id", id), ("status", status), ("last_status", last)])

variable {σ τ : Type} [LT τ] [DecidableLT τ]

/-- Queries until `status` shows or the deadline has passed; `last` is the status seen so far. -/
def await (w : Watch σ τ) (id status interval : Value) (deadline : τ) :
    Nat → Value → Run σ Value
  | 0, _ => Run.stall
  | patience + 1, last => do
    if w.now (← Run.get) < deadline then
      let seen ← (w.query id).wrapForeign (queryFault id)
      if seen.equal status then
        pure seen
      else
        w.pause interval
        w.await id status interval deadline patience seen
    else
      Run.fail (expiry id status last)

end Watch

end BlockStorage
