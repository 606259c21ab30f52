import BlockStorage.Binary.Double

/-!
The shortest decimal that reads back as a given double. The reals that round to
`m * 2 ^ e` form an interval, whose ends belong to it when `m` is even. Decimal grids
`10 ^ k` are tried from the coarsest on; the first one with a point in the interval gives the
fewest digits, and of two points in the interval the nearer one is taken, a tie going to the
even one.
-/
namespace BlockStorage.Decimal

/-- A positive interval of reals around a value, all over one denominator. -/
structure Interval where
  low : Nat
  value : Nat
  high : Nat
  den : Nat
  closed : Bool

/-- The reals that round to `m * 2 ^ e`. Below the least mantissa of an exponent the step is
half as long. -/
def Interval.around (m : Nat) (e : Int) : Interval :=
  let below := if m = Nat.pow 2 52 ∧ -1074 < e then 1 else 2
  let up := if 2 ≤ e then Nat.pow 2 (e - 2).toNat else 1
  let down := if 2 ≤ e then 1 else Nat.pow 2 (2 - e).toNat
  { low := (4 * m - below) * up, value := 4 * m * up, high := (4 * m + 2) * up, den := down
    closed := m % 2 == 0 }

/-- The interval measured in steps of `10 ^ k`. -/
def Interval.scale (i : Interval) (k : Int) : Interval :=
  if 0 ≤ k then { i with den := i.den * Nat.pow 10 k.toNat }
  else
    let f := Nat.pow 10 (-k).toNat
    { i with low := i.low * f, value := i.value * f, high := i.high * f }

/-- Whether the whole number `n` lies in the interval. -/
def Interval.holds (i : Interval) (n : Nat) : Bool :=
  let x := n * i.den
  if i.closed then i.low ≤ x && x ≤ i.high else i.low < x && x < i.high

/-- The whole number of the interval that is nearest to its value. -/
def Interval.nearest? (i : Interval) : Option Nat :=
  let floor := i.value / i.den
  let twice := 2 * (i.value % i.den)
  match i.holds floor, i.holds (floor + 1) with
  | true, true =>
    some (if twice < i.den then floor else if twice > i.den then floor + 1 else floor + floor % 2)
  | true, false => some floor
  | false, true => some (floor + 1)
  | false, false => none

/-- Tries the grids `10 ^ k`, `10 ^ (k - 1)`, … in turn. -/
def search (i : Interval) : Nat → Int → Nat × Int
  | 0, k => ((i.scale k).value / (i.scale k).den, k)
  | grids + 1, k =>
    match (i.scale k).nearest? with
    | some n => (n, k)
    | none => search i grids (k - 1)

/-- Digits and exponent of the shortest decimal for `m * 2 ^ e`, where `m` is not zero. -/
def shortest (m : Nat) (e : Int) : Nat × Int :=
  search (.around m e) 24 (((m.log2 : Int) + e) * 30103 / 100000 + 2)

end BlockStorage.Decimal
