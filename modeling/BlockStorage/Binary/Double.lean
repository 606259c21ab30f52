/-!
Doubles as exact numbers. A double is split into its sign, mantissa and exponent, and a rational
number is rounded to the nearest double, a tie going to the even mantissa. Everything between the
two is exact.
-/
namespace BlockStorage.Binary

/-- A double: `±mantissa * 2 ^ exponent`, an infinity, or no number. -/
inductive Double where
  | nan
  | infinite (negative : Bool)
  | finite (negative : Bool) (mantissa : Nat) (exponent : Int)
  deriving DecidableEq, Repr

/-- The parts of a stored double. -/
def Double.ofBits (bits : Nat) : Double :=
  let negative := bits / Nat.pow 2 63 % 2 == 1
  let exponent : Nat := bits / Nat.pow 2 52 % Nat.pow 2 11
  let fraction := bits % Nat.pow 2 52
  if exponent = 2047 then if fraction = 0 then .infinite negative else .nan
  else if exponent = 0 then .finite negative fraction (-1074)
  else .finite negative (Nat.pow 2 52 + fraction) ((exponent : Int) - 1075)

def Double.ofFloat (x : Float) : Double := .ofBits x.toBits.toNat

/-- `2 ^ e` for any exponent. -/
def powTwo (e : Int) : Rat :=
  if 0 ≤ e then (Nat.pow 2 e.toNat : Rat) else 1 / (Nat.pow 2 (-e).toNat : Rat)

/-- The exact value, when there is one. -/
def Double.toRat? : Double → Option Rat
  | .finite negative m e =>
    let q := (m : Rat) * powTwo e
    some (if negative then -q else q)
  | _ => none

/-- The integer part, toward zero. -/
def truncate (q : Rat) : Int := q.num.tdiv q.den

/-- The nearest integer, a half going to the even one. -/
def roundHalfEven (q : Rat) : Int :=
  let low := q.floor
  let twice := 2 * (q.num - low * q.den)
  if twice < q.den then low
  else if twice > q.den then low + 1
  else if low % 2 = 0 then low else low + 1

/-- The stored form of a positive ratio: the mantissa has 53 bits, fewer only at the least
exponent. -/
def bitsOfRatio (num den : Nat) : Nat :=
  let low : Int := num.log2 - den.log2 - 53
  let scale (e : Int) : Nat × Nat :=
    if 0 ≤ e then (num, den * Nat.pow 2 e.toNat) else (num * Nat.pow 2 (-e).toNat, den)
  let (n, d) := scale low
  let e := max (-1074) (if n ≥ d * Nat.pow 2 53 then low + 1 else low)
  let (n, d) := scale e
  let quotient := n / d
  let twice := 2 * (n % d)
  let mantissa :=
    if twice < d then quotient
    else if twice > d then quotient + 1
    else quotient + quotient % 2
  min (2047 * Nat.pow 2 52) ((e + 1074).toNat * Nat.pow 2 52 + mantissa)

/-- The double nearest to a rational number, infinite when that is too large. -/
def nearest (q : Rat) : Float :=
  let magnitude := if q.num = 0 then 0 else bitsOfRatio q.num.natAbs q.den
  Float.ofBits (UInt64.ofNat (if q.num < 0 then Nat.pow 2 63 + magnitude else magnitude))

end BlockStorage.Binary
