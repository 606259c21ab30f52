import BlockStorage.Value.Integer
import BlockStorage.Value.Item

/-!
Records: documents with named fields, built from a table of values. A record takes only the fields
it knows. Null stands for the default of a field; otherwise a text field takes bytes for the text
they spell and a whole-number field takes what denotes a whole number, unless the record is told
not to convert what it is given. A value that does not fit is kept as it came, and is found by
validation.

Statements: what a field has taken it takes again unchanged (`takeText_idem`, `takeWhole_idem`),
and a field has no problem exactly if its value is of its kind (`textProblem?_eq_none_iff`,
`wholeProblem?_eq_none_iff`).
-/
namespace BlockStorage

/-- A table of values by field name. -/
abbrev Fields := List (String × Value)

namespace Record

/-- Names that every record takes and none shows. -/
def reserved : List String := ["id", "pk", "_cls", "_text_score", "_created", "__auto_convert"]

/-- The fault of fields that a record does not have, by their names. -/
def unknownFields (document : String) (names : List String) : Fault :=
  .foreign .unknownField
    (some ("The fields \"\x7b" ++ ", ".intercalate (names.map fun name => (Value.text name).literal)
      ++ "\x7d\" do not exist on the document \"" ++ document ++ "\""))

/-- Whether a record with these fields takes a name. -/
def takes (fields : List String) (name : String) : Bool :=
  fields.contains name || reserved.contains name

/-- Refuses fields that the record does not have. They are named in the order in which they are
given. -/
def checkNames (document : String) (fields : List String) (given : Fields) : Except Fault Unit :=
  match given.filter fun e => !takes fields e.1 with
  | [] => .ok ()
  | unknown => .error (unknownFields document (Table.keys unknown))

/-- The given value of a field, null if there is none. -/
def get (given : Fields) (name : String) : Value := (given.lookup name).getD .null

/-- Whether a record converts the values that it is given. It does, unless it is told not to. -/
def converts (given : Fields) : Bool := (given.lookup "__auto_convert").elim true Value.truthy

/-! ### Taking values -/

/-- The text that bytes spell. -/
def spelled? (bs : List UInt8) : Option String := String.fromUTF8? ⟨bs.toArray⟩

def takeText : Value → Value
  | .bytes bs =>
    match spelled? bs with
    | some s => .text s
    | none => .bytes bs
  | v => v

theorem takeText_idem (v : Value) : takeText (takeText v) = takeText v := by
  cases v with
  | bytes bs =>
    simp only [takeText]
    cases h : spelled? bs <;> simp [h]
  | _ => rfl

theorem hashable_takeText {v : Value} (h : v.hashable = true) : (takeText v).hashable = true := by
  cases v with
  | bytes bs =>
    simp only [takeText]
    cases spelled? bs <;> rfl
  | _ => exact h

/-- A number too large for any whole number is an error; what denotes no number is kept. -/
def takeWhole (v : Value) : Except Fault Value :=
  match v with
  | .null => .ok .null
  | v =>
    match v.toInteger with
    | .ok n => .ok (.int n)
    | .error f@(.foreign .overflow _) => .error f
    | .error _ => .ok v

theorem takeWhole_idem {v w : Value} (h : takeWhole v = .ok w) : takeWhole w = .ok w := by
  cases v with
  | null => cases h; rfl
  | _ =>
    simp only [takeWhole] at h
    split at h
    · cases h; rfl
    · cases h
    · rename_i f hf hno
      cases h
      first
        | rfl
        | simp only [takeWhole, hno]

/-- The value that a text field takes; null stands for the default. -/
def textOr (given : Fields) (name : String) (default : Value) : Value :=
  match get given name with
  | .null => default
  | v => if converts given then takeText v else v

theorem textOr_null {given : Fields} (h : converts given = true) (name : String) :
    textOr given name .null = takeText (get given name) := by
  unfold textOr
  split
  · rename_i hn; rw [hn]; rfl
  · simp [h]

/-- The value that a whole-number field takes. -/
def whole (given : Fields) (name : String) : Except Fault Value :=
  if converts given then takeWhole (get given name) else .ok (get given name)

/-- The members of a value, none if it counts as false. -/
def elements (v : Value) : Except Fault (List Value) := if v.truthy then v.members else .ok []

/-- The members of a list of texts. -/
def takeTexts (v : Value) : Except Fault (List Value) := (elements v).map (·.map takeText)

/-- The members that a field of texts takes. -/
def texts (given : Fields) (name : String) : Except Fault (List Value) :=
  if converts given then takeTexts (get given name) else elements (get given name)

mutual

/-- A free-form value: bytes inside it are lists of numbers. -/
def takeFree : Value → Value
  | .bytes bs => .list (bs.map fun b => .int b.toNat)
  | .list xs => .list (takeFreeList xs)
  | .dict es => .dict (takeFreeEntries es)
  | v => v

def takeFreeList : List Value → List Value
  | [] => []
  | v :: r => takeFree v :: takeFreeList r

def takeFreeEntries : List (String × Value) → List (String × Value)
  | [] => []
  | (k, v) :: r => (k, takeFree v) :: takeFreeEntries r

end

/-- The value that a free-form field takes. -/
def free (given : Fields) (name : String) : Value :=
  match get given name with
  | .null => .dict []
  | v => if converts given then takeFree v else v

/-! ### Validation -/

def missing : String := "Field is required"

/-- What is wrong with the value of a text field. -/
def textProblem? (required : Bool) : Value → Option String
  | .null => if required then some missing else none
  | .text _ => none
  | _ => some "StringField only accepts string values"

theorem textProblem?_eq_none_iff {required : Bool} {v : Value} :
    textProblem? required v = none ↔ (∃ s, v = .text s) ∨ (v = .null ∧ required = false) := by
  cases v <;> cases required <;> simp [textProblem?]

/-- The words for a value that denotes no whole number. -/
def notWhole (v : Value) : String :=
  if v.writable then v.display ++ " could not be converted to int" else Text.Integer.notWritable

/-- What is wrong with the value of a whole-number field. A number too large for any whole number
is an error. -/
def wholeProblem? (required : Bool) : Value → Except Fault (Option String)
  | .null => .ok (if required then some missing else none)
  | v =>
    match v.toInteger with
    | .ok _ => .ok none
    | .error f@(.foreign .overflow _) => .error f
    | .error _ => .ok (some (notWhole v))

theorem wholeProblem?_eq_none_iff {required : Bool} {v : Value} :
    wholeProblem? required v = .ok none ↔
      (∃ n, v.toInteger = .ok n) ∨ (v = .null ∧ required = false) := by
  cases v with
  | null => cases required <;> simp [wholeProblem?, Value.toInteger]
  | _ =>
    simp only [wholeProblem?]
    split <;> simp_all

/-! ### Attributes of dynamic values -/

/-- The entries of a value that is used as a table, by the named operation. -/
def entries (v : Value) (name : String) : Except Fault Fields :=
  match v with
  | .dict es => .ok es
  | v => .error (.missingAttribute v.kindName name)

/-- The fault of a member that is no pair. -/
def notPair (i size : Nat) : Fault :=
  .badValue ("dictionary update sequence element #" ++ toString i ++ " has length "
    ++ toString size ++ "; 2 is required")

/-- A member as a key and what is under it. -/
def pair (v : Value) (i : Nat) : Except Fault (Value × Value) :=
  match v.members with
  | .ok [k, w] => if k.hashable then .ok (k, w) else .error (.unhashable k)
  | .ok xs => .error (notPair i xs.length)
  | .error _ => .error (.wrongKind
      ("cannot convert dictionary update sequence element #" ++ toString i ++ " to a sequence"))

/-- The entries of a value that is copied into a table: those of a table, or pairs, of which a
later one writes over one with an equal key. -/
def copyEntries (v : Value) : Except Fault (List (Value × Value)) :=
  match v with
  | .dict es => .ok (es.map fun e => (.text e.1, e.2))
  | v => do
    let pairs ← (← v.members).zipIdx.mapM fun (x, i) => pair x i
    return pairs.foldl (fun t e => Value.put e.1 e.2 t) []

/-- The entries as named values, which is what they can only be under texts. -/
def named (es : List (Value × Value)) : Except Fault Fields :=
  es.mapM fun
    | (.text s, v) => .ok (s, v)
    | _ => .error (.wrongKind "keywords must be strings")

end Record

end BlockStorage
