import BlockStorage.Decimal.Format
import BlockStorage.Text.Integer
import BlockStorage.Text.Quoted
import BlockStorage.Value

/-!
The text of a value. Its literal shows the kind: texts are quoted, lists and dicts are bracketed.
On display a text stands for itself and a duration shows a clock, and nothing else differs. Only a
value without overlong integers can be shown (`writable`).
-/
namespace BlockStorage.Value

mutual

def literal : Value → String
  | .null => "None"
  | .bool true => "True"
  | .bool false => "False"
  | .int n => Text.Integer.write n
  | .float x => Decimal.plain.write x
  | .text s => String.ofList (Text.quote s.toList)
  | .bytes bs => String.ofList (Text.quoteBytes bs)
  | .span d => d.literal
  | .list xs => "[" ++ ", ".intercalate (literals xs) ++ "]"
  | .dict es => "\x7b" ++ ", ".intercalate (entryLiterals es) ++ "\x7d"

def literals : List Value → List String
  | [] => []
  | v :: r => v.literal :: literals r

def entryLiterals : List (String × Value) → List String
  | [] => []
  | (k, v) :: r =>
    (String.ofList (Text.quote k.toList) ++ ": " ++ v.literal) :: entryLiterals r

end

mutual

/-- Whether every integer in a value is short enough to be written. -/
def writable : Value → Bool
  | .int n => Text.Integer.writable n
  | .list xs => writableAll xs
  | .dict es => writableEntries es
  | _ => true

def writableAll : List Value → Bool
  | [] => true
  | v :: r => v.writable && writableAll r

def writableEntries : List (String × Value) → Bool
  | [] => true
  | (_, v) :: r => v.writable && writableEntries r

end

@[simp]
theorem writable_text (s : String) : writable (.text s) = true := rfl

def display : Value → String
  | .text s => s
  | .span d => d.display
  | v => v.literal

@[simp]
theorem display_text (s : String) : display (.text s) = s := rfl

end BlockStorage.Value
