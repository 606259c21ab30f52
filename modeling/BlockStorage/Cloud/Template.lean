import BlockStorage.Record

/-!
Templates: where machines run and what volumes are made of, as settings describe them.

Statements: a storage template that has converted its fields, built again from what it shows, is
the same (`StorageTemplate.ofFields_toFields`).
-/
namespace BlockStorage

/-- Where and how machines are run. Of this only the location matters to volumes. -/
structure ComputeTemplate where
  location : Value
  image : Value
  hardware : Value

/-- What a new volume is like. -/
structure StorageTemplate where
  size : Value
  namePrefix : Value
  location : Value
  volumeType : Value

/-- What is wrong with a template: the text of each failing field. -/
abbrev Problems := List (String × String)

/-- The problems that fields have. -/
def problemsOf (checks : List (String × Option String)) : Problems :=
  checks.filterMap fun c => c.2.map fun text => (c.1, text)

namespace ComputeTemplate

def fields : List String := ["location_id", "image_id", "hardware_id"]

def ofFields (given : Fields) : Except Fault ComputeTemplate := do
  Record.checkNames "ComputeTemplate" fields given
  return {
    location := Record.textOr given "location_id" .null
    image := Record.textOr given "image_id" .null
    hardware := Record.textOr given "hardware_id" .null }

def problems (t : ComputeTemplate) : Problems :=
  problemsOf [("location_id", Record.textProblem? false t.location),
    ("image_id", Record.textProblem? false t.image),
    ("hardware_id", Record.textProblem? false t.hardware)]

def toFields (t : ComputeTemplate) : Fields :=
  [("location_id", t.location), ("image_id", t.image), ("hardware_id", t.hardware)]

end ComputeTemplate

namespace StorageTemplate

def fields : List String := ["size", "name_prefix", "location", "volume_type"]

def ofFields (given : Fields) : Except Fault StorageTemplate := do
  Record.checkNames "StorageTemplate" fields given
  return {
    size := ← Record.whole given "size"
    namePrefix := Record.textOr given "name_prefix" .null
    location := Record.textOr given "location" .null
    volumeType := Record.textOr given "volume_type" .null }

def problems (t : StorageTemplate) : Except Fault Problems := do
  return problemsOf [("size", ← Record.wholeProblem? true t.size),
    ("name_prefix", Record.textProblem? true t.namePrefix),
    ("location", Record.textProblem? false t.location),
    ("volume_type", Record.textProblem? false t.volumeType)]

def toFields (t : StorageTemplate) : Fields :=
  [("size", t.size), ("name_prefix", t.namePrefix), ("location", t.location),
    ("volume_type", t.volumeType)]

theorem ofFields_toFields {given : Fields} {t : StorageTemplate}
    (hc : Record.converts given = true) (h : ofFields given = .ok t) :
    ofFields t.toFields = .ok t := by
  simp only [ofFields, Record.textOr_null hc, Record.whole, hc, if_true] at h
  cases hn : Record.checkNames "StorageTemplate" fields given with
  | error f => rw [hn] at h; cases h
  | ok =>
    rw [hn] at h
    cases hs : Record.takeWhole (Record.get given "size") with
    | error f => rw [hs] at h; cases h
    | ok size =>
      rw [hs] at h
      cases h
      have hsize := Record.takeWhole_idem hs
      have hcheck : ∀ t : StorageTemplate,
          Record.checkNames "StorageTemplate" fields t.toFields = .ok () := fun _ => rfl
      have hconv : ∀ t : StorageTemplate, Record.converts t.toFields = true := fun _ => rfl
      simp only [ofFields, Record.textOr_null (hconv _), Record.whole, hconv, hcheck, if_true]
      simp [toFields, Record.get, List.lookup_cons, hsize, Record.takeText_idem, bind,
        Except.bind, pure, Except.pure]

/-- The template with one of its fields written over, as it is given. -/
def set (t : StorageTemplate) (field : String) (v : Value) : StorageTemplate :=
  match field with
  | "size" => { t with size := v }
  | "name_prefix" => { t with namePrefix := v }
  | "location" => { t with location := v }
  | "volume_type" => { t with volumeType := v }
  | _ => t

end StorageTemplate

end BlockStorage
