import BlockStorage.Record

/-!
Volumes as observed in a cloud. What a cloud calls the state of a volume is translated to a status
that is the same for every cloud.

Statement: the text of a status is a state that shows it (`ofState_toValue`).
-/
namespace BlockStorage

/-- The status of a volume, whatever the cloud. -/
inductive Status where
  | creating
  | available
  | inUse
  | detaching
  | deleting
  | deleted
  | error
  | unknown
  deriving DecidableEq, Repr

namespace Status

def text : Status → String
  | creating => "creating"
  | available => "available"
  | inUse => "in-use"
  | detaching => "detaching"
  | deleting => "deleting"
  | deleted => "deleted"
  | error => "error"
  | unknown => "unknown"

def toValue (s : Status) : Value := .text s.text

/-- The states that clouds report, in their own words. -/
def states : List (String × Status) :=
  [("creating", creating), ("available", available), ("inuse", inUse), ("deleting", deleting),
    ("deleted", deleted), ("error", error), ("in-use", inUse), ("detaching", detaching)]

/-- The status that a state shows. -/
def ofState (state : Value) : Except Fault Status :=
  match state with
  | .text s => .ok ((states.lookup s).getD unknown)
  | v => if v.hashable then .ok unknown else .error (.unhashable v)

theorem ofState_toValue (s : Status) : ofState s.toValue = .ok s := by
  cases s <;> rfl

theorem toValue_equal (s t : Status) : s.toValue.equal t.toValue = (s == t) := by
  cases s <;> cases t <;> decide

end Status

/-- A volume as it was seen. -/
structure Volume where
  id : Value
  name : Value
  size : Value
  location : Value
  status : Value
  extra : Value

namespace Volume

def fields : List String := ["id", "name", "size", "location", "status", "extra"]

def ofFields (given : Fields) : Except Fault Volume := do
  Record.checkNames "VolumeDetails" fields given
  return {
    id := Record.textOr given "id" .null
    name := Record.textOr given "name" (.text "")
    size := ← Record.whole given "size"
    location := Record.textOr given "location" .null
    status := Record.textOr given "status" Status.unknown.toValue
    extra := Record.free given "extra" }

/-- The volume as a table. -/
def toFields (v : Volume) : Fields :=
  [("id", v.id), ("name", v.name.orElse (.text "")), ("size", v.size), ("location", v.location),
    ("status", v.status), ("extra", v.extra)]

def display (v : Volume) : String :=
  "VolumeDetails \"" ++ v.name.display ++ "\" (" ++ v.id.display ++ ")"

end Volume

end BlockStorage
