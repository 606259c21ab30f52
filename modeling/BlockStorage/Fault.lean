import BlockStorage.Fault.Kind
import BlockStorage.Value.Literal

/-!
Faults: what ends an operation. A fault of our own has a kind, a message, the values it concerns
and, when it wraps another fault, that cause. A foreign fault comes from elsewhere, the cloud's
driver or the handling of a malformed value, and is known by its origin and a text.

A fault whose words show a value is raised only if the value can be written; otherwise it is this
that ends the operation (`mentioning`).

Statements: a message starts with the summary of its kind (`message_report`), wrapping keeps the
cause (`cause_report`), and translating a fault never yields a foreign one (`isOwn_translate`).
-/
namespace BlockStorage

namespace Fault

/-- Where a foreign fault comes from. -/
inductive Origin where
  | unspecified
  | runtime
  | missingKey
  | missingIndex
  | badValue
  | wrongKind
  | system
  | missingAttribute
  | unsupported
  | overflow
  | invalidCredentials
  | unknownField
  | unknownRecord
  | invalidRecord
  deriving DecidableEq, Repr

/-- The name under which a foreign fault is written. -/
def Origin.name : Origin → String
  | unspecified => "Exception"
  | runtime => "RuntimeError"
  | missingKey => "KeyError"
  | missingIndex => "IndexError"
  | badValue => "ValueError"
  | wrongKind => "TypeError"
  | system => "OSError"
  | missingAttribute => "AttributeError"
  | unsupported => "NotImplementedError"
  | overflow => "OverflowError"
  | invalidCredentials => "InvalidCredsError"
  | unknownField => "FieldDoesNotExist"
  | unknownRecord => "NotRegistered"
  | invalidRecord => "ValidationError"

end Fault

/-- What ends an operation early. -/
inductive Fault where
  | own (kind : Fault.Kind) (message : String) (context : List (String × Value))
      (cause : Option Fault)
  | foreign (origin : Fault.Origin) (text : Option String)

instance : Inhabited Fault := ⟨.foreign .unspecified none⟩

namespace Fault

/-- What was said to be wrong when a fault was raised. -/
inductive Detail where
  | none
  | value (v : Value)
  | fault (f : Fault)

def isOwn : Fault → Bool
  | own .. => true
  | foreign .. => false

/-- Whether the fault is our own and of this kind. -/
def isA (f : Fault) (k : Kind) : Bool :=
  match f with
  | own kind .. => kind.isA k
  | foreign .. => false

theorem isOwn_of_isA {f : Fault} {k : Kind} (h : f.isA k = true) : f.isOwn = true := by
  cases f with
  | own => rfl
  | foreign => cases h

def cause? : Fault → Option Fault
  | own _ _ _ cause => cause
  | foreign .. => .none

def context : Fault → List (String × Value)
  | own _ _ context _ => context
  | foreign .. => []

/-- What the fault says. Missing keys and refused credentials are said in quotes. -/
def text : Fault → String
  | own _ message _ _ => message
  | foreign .missingKey (some s) => (Value.text s).literal
  | foreign .invalidCredentials s =>
    (Value.text (s.getD "Invalid credentials with the provider")).literal
  | foreign _ s => s.getD ""

/-- The fault by its name and text. -/
def literal : Fault → String
  | own _ message _ _ => message
  | foreign origin s =>
    origin.name ++ "(" ++ (s.elim "" fun s => (Value.text s).literal) ++ ")"

/-- What the fault says, or its name if it says nothing. -/
def words (f : Fault) : String := if f.text = "" then f.literal else f.text

/-- The summary of a kind, followed by the detail if there is one. -/
def sentence (kind : Kind) (detail : Option String) : String :=
  match detail with
  | some s => kind.summary ++ ": " ++ s
  | .none => kind.summary

/-- A fault that a wait reports always names what was awaited. -/
def completeContext (kind : Kind) (context : List (String × Value)) : List (String × Value) :=
  if kind.isA .timeout then
    Table.merge [("resource_id", .text ""), ("status", .null), ("last_status", .null)] context
  else context

/-- What is said besides the summary. A detail that counts as false says nothing, and without a
detail the cause speaks. -/
def said (detail : Detail) (cause : Option Fault) : Option String :=
  match detail, cause with
  | .none, c | .value .null, c => c.map words
  | .value v, _ => if v.truthy then some v.display else .none
  | .fault f, .none => some f.words
  | .fault f, some _ => some f.text

/-- A fault given as the detail is the cause, unless there is another one. -/
def causeOf (detail : Detail) (cause : Option Fault) : Option Fault :=
  match detail, cause with
  | .fault f, .none => some f
  | _, c => c

/-- The fault of a kind, from what was said to be wrong and what caused it. -/
def report (kind : Kind) (detail : Detail) (cause : Option Fault)
    (context : List (String × Value)) : Fault :=
  own kind (sentence kind (said detail cause)) (completeContext kind context)
    (causeOf detail cause)

/-- The fault of a kind with a message of its own. -/
def because (kind : Kind) (message : String) (cause : Option Fault)
    (context : List (String × Value)) : Fault :=
  own kind (sentence kind (some message)) (completeContext kind context) cause

/-- The fault of a kind that lets its cause speak. -/
def wrapping (kind : Kind) (cause : Fault) : Fault := report kind .none (some cause) []

@[simp]
theorem cause_because (kind : Kind) (m : String) (c : Option Fault) (ctx) :
    (because kind m c ctx).cause? = c := rfl

@[simp]
theorem isA_because (kind k : Kind) (m : String) (c : Option Fault) (ctx) :
    (because kind m c ctx).isA k = kind.isA k := rfl

@[simp]
theorem cause_report (kind : Kind) (v : Value) (c : Option Fault) (ctx) :
    (report kind (.value v) c ctx).cause? = c := rfl

theorem sentence_eq (kind : Kind) (detail : Option String) :
    ∃ rest, sentence kind detail = kind.summary ++ rest := by
  cases detail with
  | none => exact ⟨"", by simp [sentence]⟩
  | some s => exact ⟨": " ++ s, String.append_assoc ..⟩

theorem message_report (kind : Kind) (detail : Detail) (cause : Option Fault) (ctx) :
    ∃ rest, (report kind detail cause ctx).text = kind.summary ++ rest :=
  sentence_eq kind (said detail cause)

/-- Makes any fault one of our own: refused credentials are reported as such, other foreign
faults as `kind`. -/
def translate (kind : Kind) : Fault → Fault
  | f@(own ..) => f
  | f@(foreign .invalidCredentials _) => wrapping .cloudUnauthorized f
  | f@(foreign ..) => wrapping kind f

theorem isOwn_translate (kind : Kind) (f : Fault) : (translate kind f).isOwn = true := by
  unfold translate
  split <;> rfl

@[simp]
theorem translate_own {f : Fault} (kind : Kind) (h : f.isOwn = true) : translate kind f = f := by
  cases f with
  | own => rfl
  | foreign => simp [isOwn] at h

/-! ### Foreign faults -/

def wrongKind (text : String) : Fault := foreign .wrongKind (some text)

def badValue (text : String) : Fault := foreign .badValue (some text)

def missingAttribute (owner name : String) : Fault :=
  foreign .missingAttribute (some ("'" ++ owner ++ "' object has no attribute '" ++ name ++ "'"))

def unhashable (v : Value) : Fault := wrongKind ("unhashable type: '" ++ v.kindName ++ "'")

/-- A length of time that is no duration. -/
def ofOverflow (o : Duration.Overflow) : Fault := foreign .overflow (some o.message)

/-- An integer that is too long to be written. -/
def notWritable : Fault := badValue Text.Integer.notWritable

/-- The fault that ends the attempt to report `f`, whose words show the given values: `f` itself,
unless one of them cannot be written. -/
def mentioning (shown : List Value) (f : Fault) : Fault :=
  if shown.all Value.writable then f else notWritable

theorem mentioning_of_writable {shown : List Value} (f : Fault)
    (h : ∀ v ∈ shown, v.writable = true) : mentioning shown f = f := by
  simp [mentioning, List.all_eq_true.2 h]

theorem mentioning_of_unwritable {shown : List Value} (f : Fault)
    (h : ¬∀ v ∈ shown, v.writable = true) : mentioning shown f = notWritable := by
  unfold mentioning
  rw [if_neg (by simpa [List.all_eq_true] using h)]

theorem isOwn_mentioning {shown : List Value} {f : Fault} (hf : f.isOwn = true)
    (h : ∀ v ∈ shown, v.writable = true) : (mentioning shown f).isOwn = true := by
  rw [mentioning_of_writable f h]
  exact hf

/-- What the detail of a report shows. -/
def Detail.shown : Detail → List Value
  | .value v => if v.truthy then [v] else []
  | _ => []

/-- The fault that ends the attempt to report a fault of a kind. -/
def reported (kind : Kind) (detail : Detail) (cause : Option Fault)
    (context : List (String × Value)) : Fault :=
  mentioning detail.shown (report kind detail cause context)

/-! ### Results whose faults are changed -/

section MapError

variable {ε ε' α : Type}

@[simp]
theorem mapError_ok (change : ε → ε') (a : α) :
    (Except.ok a : Except ε α).mapError change = .ok a := rfl

@[simp]
theorem mapError_error (change : ε → ε') (e : ε) :
    (Except.error e : Except ε α).mapError change = .error (change e) := rfl

end MapError

end Fault

end BlockStorage
