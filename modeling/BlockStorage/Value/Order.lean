import BlockStorage.Value

/-!
The order of values. Numbers are ordered by size, texts and bytes from their first difference on,
and so are lists; values of other kinds, and of different kinds, have no order.

Values that have an order are sorted by it, equal ones left as they stand. A list in which
something is not even equal to itself has no ascending order. It is arranged all the same, by
keeping the run that it starts with and putting each value after that in place by halving.

Statement: whole numbers are ordered as such (`atMost?_int`).
-/
namespace BlockStorage.Value

mutual

/-- Whether one value is at most another: numbers by size, texts by code points, and lists by the
first members that differ. Other kinds have no order. -/
def atMost? : Value → Value → Option Bool
  | .text s, .text t => some (s ≤ t)
  | .bytes s, .bytes t => some (s ≤ t)
  | .span d, .span e => some (d.microseconds ≤ e.microseconds)
  | .list xs, .list ys => atMostLists? xs ys
  | v, w =>
    match v.number?, w.number? with
    | some a, some b => some (a.atMost b)
    | _, _ => none

def atMostLists? : List Value → List Value → Option Bool
  | [], _ => some true
  | _ :: _, [] => some false
  | x :: xs, y :: ys => if x.equal y then atMostLists? xs ys else x.atMost? y

end

mutual

/-- Whether one value is less than another, in the same order. -/
def less? : Value → Value → Option Bool
  | .text s, .text t => some (s < t)
  | .bytes s, .bytes t => some (s < t)
  | .span d, .span e => some (d.microseconds < e.microseconds)
  | .list xs, .list ys => lessLists? xs ys
  | v, w =>
    match v.number?, w.number? with
    | some a, some b => some (a.less b)
    | _, _ => none

def lessLists? : List Value → List Value → Option Bool
  | _, [] => some false
  | [], _ :: _ => some true
  | x :: xs, y :: ys => if x.equal y then lessLists? xs ys else x.less? y

end

/-- Whether one value is less than another that it can be compared with. -/
def isLess (v w : Value) : Bool := (v.less? w).getD false

/-- Whole numbers are ordered by size. -/
theorem atMost?_int (a b : Int) : atMost? (.int a) (.int b) = some (decide (a ≤ b)) := by
  have hequal : ((a : Rat) == (b : Rat)) = decide (a = b) := by
    rw [Bool.eq_iff_iff, beq_iff_eq, decide_eq_true_iff, Rat.intCast_inj]
  have hle : decide (a ≤ b) = (decide (a < b) || decide (a = b)) := by
    rw [← Bool.decide_or]
    exact decide_eq_decide.2 Int.le_iff_lt_or_eq
  simp only [atMost?, number?, Number.atMost, Number.less, Number.equal, Rat.intCast_lt_intCast,
    hequal, hle]

/-- Whole numbers can be compared with whatever is a number. -/
theorem atMost?_int_left (n : Int) (v : Value) :
    atMost? (.int n) v = v.number?.map fun m => (Number.exact n).atMost m := by
  cases v <;> rfl

theorem atMost?_int_right (v : Value) (n : Int) :
    atMost? v (.int n) = v.number?.map fun m => m.atMost (.exact n) := by
  cases v <;> rfl

/-- Whether any two members of a list can be compared. -/
def comparable (xs : List Value) : Bool :=
  xs.length ≤ 1 || xs.all fun v => xs.all fun w => (v.atMost? w).isSome

/-! ### Arranging -/

/-- The values with one more among them, before the middle one if it is less, else behind it. -/
def place (v : Value) (xs : List Value) : List Value :=
  match _h : xs[xs.length / 2]? with
  | none => [v]
  | some middle =>
    if v.isLess middle then
      place v (xs.take (xs.length / 2)) ++ xs.drop (xs.length / 2)
    else
      xs.take (xs.length / 2 + 1) ++ place v (xs.drop (xs.length / 2 + 1))
termination_by xs.length
decreasing_by
  all_goals
    have := (List.getElem?_eq_some_iff.1 _h).1
    simp only [List.length_take, List.length_drop]
    omega

/-- The members that go on as `x` and the first of them do, and the others. -/
def splitRun (goesOn : Value → Value → Bool) : Value → List Value → List Value × List Value
  | _, [] => ([], [])
  | x, y :: r =>
    if goesOn x y then
      let (run, rest) := splitRun goesOn y r
      (y :: run, rest)
    else ([], y :: r)

/-- The values as halving puts them. A falling run at the start is turned around. -/
def arrange : List Value → List Value
  | [] => []
  | [x] => [x]
  | x :: y :: r =>
    let falling := y.isLess x
    let (run, rest) := splitRun (fun a b => b.isLess a == falling) x (y :: r)
    let run := x :: run
    rest.foldl (fun xs v => place v xs) (if falling then run.reverse else run)

/-- The values in ascending order, when they all can be compared. -/
def sorted? (xs : List Value) : Option (List Value) :=
  if !comparable xs then none
  else if xs.all fun v => v.equal v then
    some (xs.mergeSort fun v w => (v.atMost? w).getD true)
  else some (arrange xs)

end BlockStorage.Value
