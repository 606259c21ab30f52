import BlockStorage.Decimal.Format
import BlockStorage.Text.Integer
import BlockStorage.Text.Quoted
import BlockStorage.Value

/-!
JSON text of a value, indented by two blanks a level, with the names of a table in order. Only
ASCII is written: any other character is escaped by its UTF-16 units.
-/
namespace BlockStorage.Text.Json

/-- Why a value has no JSON text: there is no form for its kind, or an integer in it is too long. -/
inductive Refusal where
  | noForm (kind : String)
  | tooLong
  deriving DecidableEq, Repr

/-- The UTF-16 units of a character. -/
def units (c : Char) : List Nat :=
  if c.toNat < 0x10000 then [c.toNat]
  else
    let n := c.toNat - 0x10000
    [0xd800 + n / 0x400, 0xdc00 + n % 0x400]

def escape (c : Char) : List Char :=
  if c = '"' ∨ c = '\\' then ['\\', c]
  else if c = '\n' then ['\\', 'n']
  else if c = '\r' then ['\\', 'r']
  else if c = '\t' then ['\\', 't']
  else if c = '\x0c' then ['\\', 'f']
  else if c = '\x08' then ['\\', 'b']
  else if 0x20 ≤ c.toNat ∧ c.toNat < 0x7f then [c]
  else (units c).flatMap fun u => '\\' :: 'u' :: hex 4 u

def quote (s : String) : String :=
  String.ofList ('"' :: s.toList.flatMap escape ++ ['"'])

/-- A line end and the indentation of a level. -/
def newline (level : Nat) : String := String.ofList ('\n' :: List.replicate (2 * level) ' ')

/-- Bracketed items, one a line. -/
def block (level : Nat) (start stop : String) (items : List String) : String :=
  if items.isEmpty then start ++ stop
  else start ++ newline (level + 1) ++ ("," ++ newline (level + 1)).intercalate items
    ++ newline level ++ stop

mutual

/-- The JSON text of a value, or why the first member that has none has none. -/
def write (level : Nat) : Value → Except Refusal String
  | .null => .ok "null"
  | .bool b => .ok (if b then "true" else "false")
  | .int n => if Integer.writable n then .ok (Integer.write n) else .error .tooLong
  | .float x => .ok (Decimal.json.write x)
  | .text s => .ok (quote s)
  | .bytes _ => .error (.noForm "bytes")
  | .span _ => .error (.noForm "timedelta")
  | .list xs => do return block level "[" "]" (← writeAll (level + 1) xs)
  | .dict es => do
    let items ← writeEntries (level + 1) es
    return block level "\x7b" "\x7d" ((items.mergeSort fun a b => a.1 ≤ b.1).map (·.2))

def writeAll (level : Nat) : List Value → Except Refusal (List String)
  | [] => .ok []
  | v :: r => do return (← write level v) :: (← writeAll level r)

/-- Each entry with its name, to be put in order. -/
def writeEntries (level : Nat) : List (String × Value) → Except Refusal (List (String × String))
  | [] => .ok []
  | (k, v) :: r => do
    return (k, quote k ++ ": " ++ (← write level v)) :: (← writeEntries level r)

end

end BlockStorage.Text.Json
