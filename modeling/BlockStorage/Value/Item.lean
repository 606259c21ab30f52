import BlockStorage.Fault

/-!
The members of a value: each one in turn, and the one under a key. A table has a member under each
of its names; a list, a text and bytes have theirs under positions, which count from the end if
they are negative.

Statement: every position that is in range has a member (`position?_lt`).
-/
namespace BlockStorage.Value

/-- The members of a value that can be gone through. -/
def members (v : Value) : Except Fault (List Value) :=
  match v with
  | .list xs => .ok xs
  | .text s => .ok (s.toList.map fun c => .text (String.singleton c))
  | .bytes bs => .ok (bs.map fun b => .int b.toNat)
  | .dict es => .ok (es.map fun e => .text e.1)
  | v => .error (.wrongKind ("'" ++ v.kindName ++ "' object is not iterable"))

/-- Where a position is among so many members. -/
def position? (size : Nat) (n : Int) : Option Nat :=
  let i := if n < 0 then n + size else n
  if 0 ≤ i ∧ i < size then some i.toNat else none

theorem position?_lt {size i : Nat} {n : Int} (h : position? size n = some i) : i < size := by
  simp only [position?, Option.ite_none_right_eq_some, Option.some.injEq] at h
  omega

/-- The words for a key that is no position. -/
def notPosition (what : String) (key : Value) : Fault :=
  match what with
  | "string" => .wrongKind ("string indices must be integers, not '" ++ key.kindName ++ "'")
  | what => .wrongKind (what ++ " indices must be integers or slices, not " ++ key.kindName)

/-- The whole number of a key that can be a position. -/
def index? : Value → Option Int
  | .int n => some n
  | .bool b => some (if b then 1 else 0)
  | _ => none

/-- The member at a position; `what` is what has the members, and `place` names it for a position
out of range. -/
def nth (what place : String) (xs : List Value) (key : Value) : Except Fault Value :=
  match key.index? with
  | none => .error (notPosition what key)
  | some n =>
    if (Nat.pow 2 63 : Int) ≤ n ∨ n < -(Nat.pow 2 63 : Int) then
      .error (.foreign .missingIndex (some "cannot fit 'int' into an index-sized integer"))
    else match (position? xs.length n).bind (xs[·]?) with
      | some v => .ok v
      | none => .error (.foreign .missingIndex (some (place ++ " out of range")))

/-- The entry of a table under a key. -/
def entry (es : List (String × Value)) (key : Value) : Except Fault Value :=
  if !key.hashable then .error (.unhashable key)
  else
    let found := match key with
      | .text s => es.lookup s
      | _ => none
    match found with
    | some v => .ok v
    | none => .error (.foreign .missingKey (some key.display))

/-- The member of a value under a key. -/
def item (v key : Value) : Except Fault Value :=
  match v with
  | .dict es => entry es key
  | .list xs => nth "list" "list index" xs key
  | .text s =>
    nth "string" "string index" (s.toList.map fun c => .text (String.singleton c)) key
  | .bytes bs => nth "byte" "index" (bs.map fun b => .int b.toNat) key
  | v => .error (.wrongKind ("'" ++ v.kindName ++ "' object is not subscriptable"))

end BlockStorage.Value
