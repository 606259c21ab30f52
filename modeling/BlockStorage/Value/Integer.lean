import BlockStorage.Fault

/-!
Whole numbers out of values: numbers lose their fraction, texts are read, and everything else is
refused.

Statements: whole numbers stand for themselves (`toInteger_int`), also once they are written
(`toInteger_display_int`), and the outcome on a text is that of reading it (`toInteger_text`).
-/
namespace BlockStorage.Value

/-- The whole part of a double. -/
def integerOfFloat (x : Float) : Except Fault Int :=
  match Number.ofFloat x with
  | .exact q => .ok (Binary.truncate q)
  | .infinite _ => .error (.foreign .overflow (some "cannot convert float infinity to integer"))
  | .nan => .error (.badValue "cannot convert float NaN to integer")

/-- The integer that bytes spell in ASCII. -/
def integerOfBytes (bs : List UInt8) : Except Text.Integer.Refusal Int :=
  if bs.all (· < 128) then Text.Integer.read (bs.map fun b => Char.ofNat b.toNat)
  else .error .malformed

/-- The whole number that a value denotes. -/
def toInteger (v : Value) : Except Fault Int :=
  let refuse := fun (r : Text.Integer.Refusal) => Fault.badValue (r.message v.literal)
  match v with
  | .bool b => .ok (if b then 1 else 0)
  | .int n => .ok n
  | .float x => integerOfFloat x
  | .text s => (Text.Integer.read s.toList).mapError refuse
  | .bytes bs => (integerOfBytes bs).mapError refuse
  | v => .error (.wrongKind
      ("int() argument must be a string, a bytes-like object or a real number, not '"
        ++ v.kindName ++ "'"))

@[simp]
theorem toInteger_int (n : Int) : toInteger (.int n) = .ok n := rfl

theorem toInteger_text (s : String) (n : Int) :
    toInteger (.text s) = .ok n ↔ Text.Integer.read s.toList = .ok n := by
  simp only [toInteger]
  cases Text.Integer.read s.toList <;> simp

theorem toInteger_display_int {n : Int} (h : (Value.int n).writable = true) :
    toInteger (.text (Value.int n).display) = .ok n :=
  (toInteger_text _ n).2 (Text.Integer.read_write h)

/-- The whole number of a number, for texts that show it without a fraction. -/
def toWhole (v : Value) : Except Fault Int :=
  match v with
  | .bool b => .ok (if b then 1 else 0)
  | .int n => .ok n
  | .float x => integerOfFloat x
  | v => .error (.wrongKind
      ("%d format: a real number is required, not " ++ v.kindName))

end BlockStorage.Value
