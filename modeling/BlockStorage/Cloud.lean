import BlockStorage.Cloud.Class
import BlockStorage.Cloud.Template

/-!
Clouds: accounts with a provider, built from settings. A cloud has a title and named templates, and
the clouds of some classes have credentials and a region; the secret among them is never shown.

Building takes the fields of the class and refuses others, and then validates every field. What is
wrong with the fields is told all at once, fields with the same trouble together. A cloud can also
be built from fields that were stored, which are not validated.

Statements: a cloud built from settings has no problems (`problems_ofSettings`), and what a cloud
shows does not depend on its secret (`toFields_secret`).
-/
namespace BlockStorage

/-- An account in a cloud. Only some classes have the last three fields; in the others they are
null. -/
structure Cloud where
  cls : Cloud.Class
  title : Value
  computeTemplates : List (String × ComputeTemplate)
  storageTemplates : List (String × StorageTemplate)
  apikey : Value
  apisecret : Value
  region : Value
  /-- What complaints know the cloud by. -/
  key : Value := .null
  /-- The class that the cloud says it is of. -/
  label : Value := .null

namespace Cloud

def display (c : Cloud) : String := c.cls.name ++ " " ++ c.title.display

/-! ### Building -/

/-- A call with a name that is already taken. -/
def repeatedName (name : String) : Fault :=
  .wrongKind ("got multiple values for keyword argument '" ++ name ++ "'")

/-- Refuses names that cannot be fields of any record. -/
def checkFree (taken : List String) (given : Fields) : Except Fault Unit :=
  match given.find? fun e => taken.contains e.1 with
  | some (name, _) => .error (repeatedName name)
  | none => .ok ()

/-- Why clouds of some classes cannot be managed. -/
def manageable (c : Cloud) : Except Fault Unit :=
  match c.cls with
  | .abstract => .error (.mentioning [c.title] (.foreign .unsupported (some
      ("Can't initialize " ++ c.display
        ++ ". Cloud is an abstract base class and shouldn't be used to create cloud instances. "
        ++ "All Cloud subclasses should define a \x60_controller_cls\x60 class attribute "
        ++ "pointing to a \x60BaseMainController\x60 subclass."))))
  | .incomplete =>
    .error (.mentioning [c.title] (.wrongKind ("Can't initialize " ++ c.display ++ ".")))
  | _ => .ok ()

/-- The cloud of a class with the given fields, not validated. -/
def make (cls : Class) (compute : List (String × ComputeTemplate))
    (storage : List (String × StorageTemplate)) (given : Fields) : Except Fault Cloud := do
  Record.checkNames cls.name cls.fields given
  let account := fun name => if cls.hasAccount then Record.textOr given name .null else .null
  let cloud : Cloud :=
    { cls, computeTemplates := compute, storageTemplates := storage
      title := Record.textOr given "title" .null
      apikey := account "apikey", apisecret := account "apisecret", region := account "region"
      key := Record.get given "pk", label := Record.textOr given "_cls" .null }
  manageable cloud
  return cloud

/-- The templates in a table of tables. -/
def templates {α : Type} (build : Fields → Except Fault α) (v : Value) :
    Except Fault (List (String × α)) := do
  if !v.truthy then return []
  (← Record.entries v "items").mapM fun (name, template) =>
    match template with
    | .dict es => do
      checkFree ["self"] es
      return (name, ← build es)
    | v => throw (.wrongKind ("argument after ** must be a mapping, not " ++ v.kindName))

/-! ### Validation -/

/-- A text under a label, if the label is not empty. -/
def labelled (label text : String) : String := if label = "" then text else label ++ "." ++ text

/-- What is wrong with a table of templates. -/
def templatesProblem? (found : List (String × Problems)) : Option String :=
  if found.any fun e => e.1.startsWith "$" then
    some "Invalid dictionary key name - keys may not startswith \"$\" characters"
  else
    let failing := found.filter fun e => !e.2.isEmpty
    if failing.isEmpty then none
    else some (" ".intercalate (failing.map fun e =>
      labelled e.1 (" ".intercalate (e.2.map fun p => labelled p.1 p.2))))

/-- What is wrong with each field. -/
def problems (c : Cloud) : Except Fault Problems := do
  let storage ← c.storageTemplates.mapM fun e => do return (e.1, ← e.2.problems)
  return problemsOf
    ([("title", Record.textProblem? true c.title),
      ("compute_templates",
        templatesProblem? (Table.mapValues ComputeTemplate.problems c.computeTemplates)),
      ("storage_templates", templatesProblem? storage)]
      ++ (if c.cls.hasAccount then
        [("apikey", Record.textProblem? true c.apikey),
          ("apisecret", Record.textProblem? true c.apisecret),
          ("region", Record.textProblem? true c.region)]
      else [])
      ++ [("_cls", Record.textProblem? false c.label)])

/-- The fields of each text, texts and fields in the order of the problems. -/
def grouped (ps : Problems) : List (String × List String) :=
  ps.foldl (fun groups p =>
    Table.insert p.2 ((groups.lookup p.2).getD [] ++ [p.1]) groups) []

/-- All problems in words. -/
def complaint (c : Cloud) (ps : Problems) : Fault :=
  .mentioning [c.key] (.foreign .invalidRecord (some
    ("ValidationError (" ++ c.cls.name ++ ":" ++ c.key.display ++ ") ("
      ++ " ".intercalate ((grouped ps).map fun g =>
        g.1 ++ ": " ++ (Value.list (g.2.map .text)).literal) ++ ")")))

def validate (c : Cloud) : Except Fault Cloud :=
  match c.problems with
  | .ok [] => .ok c
  | .ok ps => .error (c.complaint ps)
  | .error f => .error f

theorem validate_eq_ok_iff {c d : Cloud} : c.validate = .ok d ↔ c = d ∧ c.problems = .ok [] := by
  unfold validate
  split <;> simp_all

/-! ### From settings -/

/-- Fields that do not fit are trouble with the settings of the cloud. -/
def settingsFault (title : Value) (f : Fault) : Fault :=
  match f with
  | .foreign .unknownField _ | .foreign .invalidRecord _ =>
    .mentioning [title] (.because .validation
      ("Invalid settings for cloud '" ++ title.display ++ "': " ++ f.text) (some f) [])
  | f => f

/-- The member under a name, null if there is none. -/
def member (entries : List (Value × Value)) (name : String) : Value :=
  (Value.find? (.text name) entries).getD .null

/-- The cloud of a known class from the entries of its settings. -/
def ofEntries (cls : Class) (title : Value) (entries : List (Value × Value)) :
    Except Fault Cloud := do
  let compute ← templates ComputeTemplate.ofFields (member entries "compute_templates")
  let storage ← templates StorageTemplate.ofFields (member entries "storage_templates")
  let given ← Record.named (entries.filter fun e =>
    !Value.mem e.1 [.text "provider", .text "compute_templates", .text "storage_templates"])
  checkFree ["title", "self"] given
  (← make cls compute storage (("title", title) :: given)).validate

/-- The cloud with a title from the table of its settings, where some providers are known. -/
def ofSettings (known : Known) (cls : Class) (title data : Value) : Except Fault Cloud := do
  let entries ← Record.copyEntries data
  let cls ← cls.resolve known (member entries "provider")
  (ofEntries cls title entries).mapError (settingsFault title)

/-- The cloud named in a table of clouds. -/
def named (known : Known) (cls : Class) (clouds title : Value) : Except Fault Cloud :=
  match clouds.item title with
  | .ok data => ofSettings known cls title data
  | .error (.foreign .missingKey _) => .error (.mentioning [title]
      (.because .cloudNotFound ("Cloud '" ++ title.display ++ "'") none [("title", title)]))
  | .error f => .error f

theorem problems_ofSettings {known : Known} {cls : Class} {title data : Value} {c : Cloud}
    (h : ofSettings known cls title data = .ok c) : c.problems = .ok [] := by
  simp only [ofSettings, bind, Except.bind] at h
  split at h
  · cases h
  · split at h
    · cases h
    · rename_i entries _ _ resolved _
      cases he : ofEntries resolved title entries with
      | error f =>
        rw [he, Fault.mapError_error] at h
        cases h
      | ok e =>
        rw [he, Fault.mapError_ok] at h
        cases h
        simp only [ofEntries, bind, Except.bind] at he
        repeat' split at he
        all_goals first
          | cases he
          | exact (validate_eq_ok_iff.1 he).1 ▸ (validate_eq_ok_iff.1 he).2

/-! ### From stored fields -/

/-- The documents that a stored template can be, and their fields. -/
def documents : List (String × List String) :=
  [("ComputeTemplate", ComputeTemplate.fields), ("StorageTemplate", StorageTemplate.fields)]

/-- A label that names no document. -/
def notRegistered (label : String) : Fault :=
  .foreign .unknownRecord (some
    ("\x60" ++ label ++ "\x60 has not been registered in the document registry.\n"
      ++ "                Importing the document class automatically registers it, has it\n"
      ++ "                been imported?"))

/-- The document that a stored template says it is, by the last part of its label. -/
def documentOf (document : String) (given : Fields) : Except Fault String :=
  match given.lookup "_cls" with
  | none => .ok document
  | some (.text s) =>
    match (s.splitOn ".").getLast?.filter fun name => (documents.lookup name).isSome with
    | some name => .ok name
    | none => .error (notRegistered s)
  | some v => .error (if v.hashable then .missingAttribute v.kindName "split" else .unhashable v)

/-- A template as it was stored, unless it turns out to be another document. -/
def stored {α : Type} (document : String) (build : Fields → Except Fault α) (v : Value) :
    Except Fault (Option α) :=
  match v with
  | .dict es => do
    let found ← documentOf document es
    let fields := (documents.lookup found).getD []
    if fields.contains "size" then
      let _ ← Record.takeWhole (Record.get es "size")
    checkFree ["self", "_created", "__auto_convert"] es
    if found = document then
      return some (← build es)
    else
      Record.checkNames found fields es
      return none
  | v =>
    if v.truthy then .error (.badValue ("The source SON object needs to be of type 'dict' but a "
      ++ "'<class '" ++ v.kindName ++ "'>' was found"))
    else .error (.missingAttribute v.kindName "get")

/-- The templates in a field that was stored, unless it turns out to be no table of templates. -/
def storedTemplates {α : Type} (document : String) (build : Fields → Except Fault α)
    (given : Fields) (name : String) : Except Fault (Option (List (String × α))) :=
  match Record.get given name, Record.converts given with
  | .null, _ | .dict [], _ => .ok (some [])
  | .dict es, true => do
    let found ← es.mapM fun e => do return (e.1, ← stored document build e.2)
    return found.mapM fun e => e.2.map (e.1, ·)
  | .text _, _ => .ok none
  | v, true =>
    match v.members with
    | .ok xs => do
      let _ ← xs.mapM (stored document build)
      return none
    | .error _ => .ok none
  | _, false => .ok none

/-- The cloud of a class from its fields, not validated. A cloud without a table of templates
would be of no use, as nothing could be told of it. -/
def ofFields (cls : Class) (given : Fields) : Except Fault Cloud := do
  checkFree ["self"] given
  Record.checkNames cls.name cls.fields given
  let compute ←
    storedTemplates "ComputeTemplate" ComputeTemplate.ofFields given "compute_templates"
  let storage ←
    storedTemplates "StorageTemplate" StorageTemplate.ofFields given "storage_templates"
  let c ← make cls (compute.getD []) (storage.getD []) given
  match compute, storage with
  | some _, some _ => return c
  | _, _ => throw (.missingAttribute "object" "items")

/-! ### Templates by name -/

/-- The template of a name, if there is one. -/
def find? {α : Type} (templates : List (String × α)) (name : Value) :
    Except Fault (Option α) :=
  match name with
  | .text s => .ok (templates.lookup s)
  | v => if v.hashable then .ok none else .error (.unhashable v)

def storageTemplate (c : Cloud) (name : Value) : Except Fault StorageTemplate := do
  match ← find? c.storageTemplates name with
  | some t => return t
  | none => throw (.mentioning [name, c.title] (.because .storageTemplateNotFound
      ("No storage template named '" ++ name.display ++ "' in " ++ c.display) none
      [("template", name)]))

def computeTemplate (c : Cloud) (name : Value) : Except Fault ComputeTemplate := do
  match ← find? c.computeTemplates name with
  | some t => return t
  | none => throw (.mentioning [name, c.title] (.because .validation
      ("No compute template named '" ++ name.display ++ "' in " ++ c.display) none
      [("template", name)]))

/-! ### What a cloud shows -/

/-- The cloud as a table, without its secret. -/
def toFields (c : Cloud) : Fields :=
  [("title", c.title), ("provider", .text c.cls.provider),
    ("compute_templates", .dict (Table.mapValues
      (fun (t : ComputeTemplate) => .dict [("location_id", t.location)]) c.computeTemplates)),
    ("storage_templates", .dict (Table.mapValues
      (fun (t : StorageTemplate) => .dict t.toFields) c.storageTemplates))]
    ++ if c.cls.hasAccount then [("apikey", c.apikey), ("region", c.region)] else []

theorem toFields_secret (c : Cloud) (secret : Value) :
    { c with apisecret := secret }.toFields = c.toFields := rfl

end Cloud

end BlockStorage
