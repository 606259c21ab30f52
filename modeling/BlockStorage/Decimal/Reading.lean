import BlockStorage.Binary.Double
import BlockStorage.Text.Integer

/-!
Reading a double from decimal text: digits with a point and an exponent, or the words for
what is no number. The double nearest to the written value is taken.
-/
namespace BlockStorage.Decimal

/-- A word in any case. -/
def isWord (word : String) (cs : List Char) : Bool := cs.map Char.toLower == word.toList

/-- `n * 10 ^ k` as the nearest double. Far exponents are cut short, which changes nothing:
they are beyond every double. -/
def ofDigits (negative : Bool) (n : Nat) (k : Int) : Float :=
  let places : Int := (Nat.toDigits 10 n).length + k
  let q : Rat :=
    if n = 0 ∨ places < -400 then 0
    else if 400 < places then (Nat.pow 2 1100 : Rat)
    else if 0 ≤ k then ((n * Nat.pow 10 k.toNat : Nat) : Rat)
    else (n : Rat) / (Nat.pow 10 (-k).toNat : Rat)
  let x := Binary.nearest q
  if negative then -x else x

/-- A run of decimal digits, possibly empty. -/
def run? (cs : List Char) : Option (List Nat) :=
  if cs.isEmpty then some []
  else if cs.all Text.Integer.isNumeral && Text.Integer.wellSpaced cs then
    some (Text.Integer.digitsOf cs)
  else none

/-- The mantissa and exponent of unsigned text. -/
def parts? (cs : List Char) : Option (Nat × Int) := do
  let isExponent := fun c : Char => c == 'e' || c == 'E'
  let mantissa := cs.takeWhile (!isExponent ·)
  let exponent ← match cs.dropWhile (!isExponent ·) with
    | [] => some 0
    | _ :: r =>
      let (negative, ds) := Text.Integer.splitSign r
      if ds.isEmpty then none
      else (run? ds).map fun ds => Text.Integer.signed negative (Text.Integer.value ds)
  let whole ← run? (mantissa.takeWhile (· != '.'))
  let fraction ← run? ((mantissa.dropWhile (· != '.')).drop 1)
  if whole.isEmpty && fraction.isEmpty then none
  else some (Text.Integer.value (whole ++ fraction), exponent - fraction.length)

/-- The double that a text denotes. -/
def read? (cs : List Char) : Option Float :=
  let (negative, rest) := Text.Integer.splitSign (Text.strip cs)
  if isWord "nan" rest then some (0.0 / 0.0)
  else if isWord "inf" rest || isWord "infinity" rest then
    some (if negative then -1.0 / 0.0 else 1.0 / 0.0)
  else (parts? rest).map fun (n, k) => ofDigits negative n k

end BlockStorage.Decimal
