import BlockStorage.Command
import BlockStorage.Text.Json
import BlockStorage.Visit

/-!
Running command lines. What was done is written as JSON, and a fault of our own is written to the
errors and makes the exit code one. A fault of any other origin is not expected here and passes.

Statement: a report of a result exits with zero and has no errors to show (`exitCode_ofResult`).
-/
namespace BlockStorage

namespace Command

/-- An operand or the value of an option; none is an empty list. -/
def Operand.toValue (s : Operand) : Value := s.elim (.list []) .text

/-- The value of an option, null if the option is left out. -/
def optional (s : Option Operand) : Value := s.elim .null Operand.toValue

variable {σ : Type}

/-- Does what a command says and tells what there is to tell. -/
def run (ctx : Context σ) (cloud : Operand) (c : Command) : Run (Place σ) Value :=
  let title := cloud.toValue
  match c with
  | .list address => (.list ∘ List.map .dict) <$> Visit.list ctx title address.toValue
  | .listAll => (.list ∘ List.map .dict) <$> Visit.listAll ctx title
  | .create template location timeout =>
    .dict <$> Visit.create ctx title template.toValue (optional location) (optional timeout)
  | .attach volume device address timeout => do
    Visit.attach ctx title volume.toValue device.toValue address.toValue (optional timeout)
    return .null
  | .detach volume address timeout => do
    Visit.detach ctx title volume.toValue address.toValue (optional timeout)
    return .null
  | .delete volume location timeout => do
    Visit.delete ctx title volume.toValue (optional location) (optional timeout)
    return .null
  | .volumeName volume => Visit.volumeName ctx title volume.toValue
  | .volumeIds address => .list <$> Visit.volumeIds ctx title address.toValue

/-- The fault of an action that is no command. -/
def unknownAction (action : Value) : Fault :=
  .mentioning [action]
    (.foreign .unspecified (some ("Unknown action '" ++ action.display ++ "'.")))

/-- The command that an action names by itself. Most commands need operands besides. -/
def ofAction (action : Value) : Except Fault Command :=
  match action with
  | .text name =>
    match ofReading? name {}, grammars.lookup name with
    | some c, _ => .ok c
    | none, some _ => .error (.missingAttribute "arguments" "operands")
    | none, none => .error (unknownAction action)
  | v => .error (unknownAction v)

end Command

/-- What a run of the program leaves behind. -/
structure Report where
  exitCode : Nat
  output : String
  errors : String
  /-- The level from which messages are logged. -/
  logLevel : Nat
  deriving DecidableEq, Repr

namespace Report

/-- The more often it was asked for, the more is logged. -/
def levelOf : Nat → Nat
  | 0 => 30
  | 1 => 20
  | _ => 10

/-- The report of what was done. Nothing is written if there is nothing to tell. -/
def ofResult (level : Nat) (v : Value) : Except Fault Report :=
  match v with
  | .null => .ok ⟨0, "", "", level⟩
  | v =>
    match Text.Json.write 0 v with
    | .ok s => .ok ⟨0, s ++ "\n", "", level⟩
    | .error (.noForm kind) =>
      .error (.wrongKind ("Object of type " ++ kind ++ " is not JSON serializable"))
    | .error .tooLong => .error .notWritable

/-- The report of what went wrong. -/
def ofFault (level : Nat) (f : Fault) : Report := ⟨1, "", f.text ++ "\n", level⟩

theorem exitCode_ofResult {level : Nat} {v : Value} {r : Report}
    (h : ofResult level v = .ok r) : r.exitCode = 0 ∧ r.errors = "" := by
  unfold ofResult at h
  repeat' split at h
  all_goals cases h
  all_goals exact ⟨rfl, rfl⟩

end Report

/-- How the program ends. -/
inductive Ending where
  /-- Arguments were refused or help was asked for, so nothing was done. -/
  | usage (exitCode : Nat)
  | reported (r : Report)
  deriving DecidableEq, Repr

namespace CommandLine

variable {σ : Type}

/-- Runs a command line that was read. -/
def run (ctx : Context σ) (line : CommandLine) : Run (Place σ) Report :=
  let level := Report.levelOf line.verbosity
  (do Run.ofExcept (Report.ofResult level (← line.command.run ctx line.cloud))).catching fun f =>
    if f.isOwn then pure (Report.ofFault level f) else Run.fail f

/-- Runs the program on its arguments. -/
def runAll (ctx : Context σ) (args : List String) : Run (Place σ) Ending :=
  match Command.parse args with
  | .ok line => .reported <$> line.run ctx
  | .error .help => pure (.usage 0)
  | .error .refused => pure (.usage 2)

end CommandLine

end BlockStorage
