import BlockStorage.Decimal.Shortest

/-!
How a double is written: the shortest digits, positional while the point stands within reach
of them, otherwise with an exponent.
-/
namespace BlockStorage.Decimal

/-- The decisions of a decimal format. -/
structure Format where
  /-- The point stands at most so many places right of the first digit in positional form. -/
  furthestRight : Int
  /-- And more than so many places left of it. -/
  furthestLeft : Int
  exponentDigits : Nat
  nan : String
  infinity : String

/-- Positional from 0.0001 up to 16 digits, always with a point; exponents have a sign and two
digits at least. -/
def plain : Format := ⟨16, -4, 2, "nan", "inf"⟩

/-- The spelling of numbers in JSON text, which names what is no number. -/
def json : Format := ⟨16, -4, 2, "NaN", "Infinity"⟩

def zeros (n : Int) : List Char := List.replicate n.toNat '0'

/-- The magnitude `n * 10 ^ k` in digits. -/
def Format.digits (f : Format) (n : Nat) (k : Int) : List Char :=
  let ds := Nat.toDigits 10 n
  let point : Int := ds.length + k
  if f.furthestLeft < point ∧ point ≤ f.furthestRight then
    if point ≤ 0 then '0' :: '.' :: zeros (-point) ++ ds
    else if 0 ≤ k then ds ++ zeros k ++ ['.', '0']
    else ds.take point.toNat ++ '.' :: ds.drop point.toNat
  else
    let e := point - 1
    let written := Nat.toDigits 10 e.natAbs
    let mantissa := match ds with
      | d :: r@(_ :: _) => d :: '.' :: r
      | ds => ds
    mantissa ++ 'e' :: (if e < 0 then '-' else '+')
      :: List.replicate (f.exponentDigits - written.length) '0' ++ written

/-- Drops the zeros at the end of the digits. -/
def trim : Nat → Nat × Int → Nat × Int
  | 0, nk => nk
  | fuel + 1, (n, k) => if n ≠ 0 ∧ n % 10 = 0 then trim fuel (n / 10, k + 1) else (n, k)

def Format.write (f : Format) (x : Float) : String :=
  match Binary.Double.ofFloat x with
  | .nan => f.nan
  | .infinite negative => (if negative then "-" else "") ++ f.infinity
  | .finite negative m e =>
    let magnitude := if m = 0 then ['0', '.', '0'] else
      let (n, k) := trim 32 (shortest m e)
      f.digits n k
    String.ofList (if negative then '-' :: magnitude else magnitude)

end BlockStorage.Decimal
