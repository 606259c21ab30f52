import BlockStorage.Duration
import BlockStorage.Table

/-!
Values: what settings hold, what callers pass and what a cloud answers. None of these promises
a type, so everything that has to be decided about a value is decided by its kind: whether it
counts as true, whether two values are equal.

Numbers of every kind are compared exactly, so `1`, `1.0` and true are one value and a long
integer is never rounded on the way.

Statements: numbers are equal iff their exact values are (`equal_of_number`), no value equals one of
another kind unless both are numbers (`equal_text_iff`), and a list of each value once has the texts
of the list (`mem_text_distinct`).
-/
namespace BlockStorage

/-- A value of settings, arguments and answers. The keys of a table are texts. -/
inductive Value where
  | null
  | bool (b : Bool)
  | int (n : Int)
  | float (x : Float)
  | text (s : String)
  | bytes (bs : List UInt8)
  | span (d : Duration)
  | list (xs : List Value)
  | dict (entries : List (String × Value))
  deriving Inhabited

/-- The exact size of a number. -/
inductive Number where
  | exact (q : Rat)
  | infinite (negative : Bool)
  | nan
  deriving DecidableEq

namespace Number

def ofFloat (x : Float) : Number :=
  match Binary.Double.ofFloat x with
  | .nan => .nan
  | .infinite negative => .infinite negative
  | d@(.finite ..) => .exact (d.toRat?.getD 0)

/-- Equality, to which what is no number does not even belong itself. -/
def equal : Number → Number → Bool
  | .exact p, .exact q => p == q
  | .infinite a, .infinite b => a == b
  | _, _ => false

def less : Number → Number → Bool
  | .exact p, .exact q => p < q
  | .infinite true, .exact _ => true
  | .exact _, .infinite false => true
  | .infinite true, .infinite false => true
  | _, _ => false

def atMost (a b : Number) : Bool := a.less b || a.equal b

end Number

namespace Value

/-- The size of a number; true is one and false is zero. -/
def number? : Value → Option Number
  | .bool b => some (.exact (if b then 1 else 0))
  | .int n => some (.exact n)
  | .float x => some (.ofFloat x)
  | _ => none

/-- Whether a value counts as true: not null, not zero and not empty. -/
def truthy : Value → Bool
  | .null => false
  | .bool b => b
  | .int n => n != 0
  | .float x => x != 0.0
  | .text s => s != ""
  | .bytes bs => !bs.isEmpty
  | .span d => d.microseconds != 0
  | .list xs => !xs.isEmpty
  | .dict es => !es.isEmpty

def isNull : Value → Bool
  | .null => true
  | _ => false

/-- The first value if it counts as true, else the second. -/
def orElse (v w : Value) : Value := if v.truthy then v else w

theorem orElse_dict_self (es : List (String × Value)) :
    (dict es).orElse (.dict []) = .dict es := by
  cases es <;> rfl

/-- A table, or nothing, or else the empty table, is a table. -/
theorem orElse_dict {v : Value} (h : v = .null ∨ ∃ es, v = .dict es) :
    ∃ es, v.orElse (.dict []) = .dict es := by
  rcases h with rfl | ⟨es, rfl⟩
  · exact ⟨[], rfl⟩
  · exact ⟨es, orElse_dict_self es⟩

/-- The name of a value's kind, as error texts give it. -/
def kindName : Value → String
  | .null => "NoneType"
  | .bool _ => "bool"
  | .int _ => "int"
  | .float _ => "float"
  | .text _ => "str"
  | .bytes _ => "bytes"
  | .span _ => "datetime.timedelta"
  | .list _ => "list"
  | .dict _ => "dict"

/-- Lists and dicts can be neither keys nor members of a set. -/
def hashable : Value → Bool
  | .list _ => false
  | .dict _ => false
  | _ => true

/-! ### Equality -/

mutual

/-- Equality of values: numbers by size, dicts whatever their order. -/
def equal : Value → Value → Bool
  | .null, .null => true
  | .text s, .text t => s == t
  | .bytes s, .bytes t => s == t
  | .span d, .span e => d.microseconds == e.microseconds
  | .list xs, .list ys => equalLists xs ys
  | .dict xs, .dict ys => xs.length == ys.length && equalEntries xs ys
  | v, w =>
    match v.number?, w.number? with
    | some a, some b => a.equal b
    | _, _ => false

def equalLists : List Value → List Value → Bool
  | [], [] => true
  | x :: xs, y :: ys => x.equal y && equalLists xs ys
  | _, _ => false

/-- Whether every entry is in the other table. -/
def equalEntries : List (String × Value) → List (String × Value) → Bool
  | [], _ => true
  | (k, v) :: r, es =>
    (match es.lookup k with
      | some w => v.equal w
      | none => false) && equalEntries r es

end

theorem equal_of_number {v w : Value} {a b : Number} (hv : v.number? = some a)
    (hw : w.number? = some b) : v.equal w = a.equal b := by
  cases v <;> simp [number?] at hv <;> cases w <;> simp [number?] at hw <;>
    simp [equal, number?, hv, hw]

@[simp]
theorem equal_text_iff {v : Value} {s : String} : v.equal (.text s) = true ↔ v = .text s := by
  cases v <;> simp [equal, number?]

theorem text_equal_iff {s : String} {v : Value} : (Value.text s).equal v = true ↔ v = .text s := by
  cases v with
  | text t =>
    simp only [equal, beq_iff_eq, text.injEq]
    exact eq_comm
  | _ => simp [equal, number?]

@[simp]
theorem equal_text_text (s t : String) : (Value.text s).equal (.text t) = (s == t) := by
  simp [equal]

/-- Whether two values are one key, where what is looked for is what was put in: equal values are,
and so is what is no number at all, although it does not equal itself. -/
def sameKey (v w : Value) : Bool :=
  v.equal w || (v.number? = some .nan && w.number? = some .nan)

/-- What can be a key is the same key as itself. -/
theorem sameKey_self {v : Value} (h : v.hashable = true) : v.sameKey v = true := by
  have hnumber : ∀ n, v.number? = some n → v.sameKey v = true := by
    intro n hn
    unfold sameKey
    rw [equal_of_number hn hn, hn]
    cases n <;> simp [Number.equal]
  cases v with
  | bool b => exact hnumber _ rfl
  | int n => exact hnumber _ rfl
  | float x => exact hnumber _ rfl
  | list xs => cases h
  | dict es => cases h
  | _ => simp [sameKey, equal]

/-- Whether a list holds a value equal to `v`. -/
def mem (v : Value) (xs : List Value) : Bool := xs.any (·.equal v)

/-- The entry of a keyed list. -/
def find? {α : Type} (k : Value) (es : List (Value × α)) : Option α :=
  (es.find? (·.1.equal k)).map (·.2)

/-- Writes an entry of a keyed list, in place if there is one under an equal key. -/
def put {α : Type} (k : Value) (v : α) : List (Value × α) → List (Value × α)
  | [] => [(k, v)]
  | e :: r => if e.1.equal k then (e.1, v) :: r else e :: put k v r

/-- What is written is the only new thing. -/
theorem mem_put {α : Type} {k : Value} {v : α} {es : List (Value × α)} {e : Value × α}
    (h : e ∈ put k v es) : e.2 = v ∨ e ∈ es := by
  induction es with
  | nil => exact .inl (by rw [List.mem_singleton.1 h])
  | cons first rest ih =>
    rw [put] at h
    split at h
    · rcases List.mem_cons.1 h with rfl | hrest
      · exact .inl rfl
      · exact .inr (List.mem_cons_of_mem _ hrest)
    · rcases List.mem_cons.1 h with rfl | hrest
      · exact .inr List.mem_cons_self
      · exact (ih hrest).imp_right (List.mem_cons_of_mem _)

/-- What could be found still can. -/
theorem isSome_find?_put {α : Type} {j k : Value} {v : α} {es : List (Value × α)}
    (h : (find? j es).isSome = true) : (find? j (put k v es)).isSome = true := by
  unfold find? at h ⊢
  rw [Option.isSome_map, List.find?_isSome] at h ⊢
  obtain ⟨e, he, hj⟩ := h
  induction es with
  | nil => cases he
  | cons first rest ih =>
    rw [put]
    rcases List.mem_cons.1 he with rfl | hrest
    · split
      · exact ⟨(e.1, v), List.mem_cons_self, hj⟩
      · exact ⟨e, List.mem_cons_self, hj⟩
    · split
      · exact ⟨e, List.mem_cons_of_mem _ hrest, hj⟩
      · obtain ⟨e', he', hj'⟩ := ih hrest
        exact ⟨e', List.mem_cons_of_mem _ he', hj'⟩

/-- Each value once, where it was first. -/
def distinct (xs : List Value) : List Value :=
  xs.foldl (fun seen v => if mem v seen then seen else seen ++ [v]) []

theorem distinct_subset {v : Value} {xs : List Value} (h : v ∈ distinct xs) : v ∈ xs := by
  suffices ∀ (ys seen : List Value),
      v ∈ ys.foldl (fun seen w => if mem w seen then seen else seen ++ [w]) seen →
        v ∈ seen ∨ v ∈ ys by
    simpa using this xs [] h
  intro ys
  induction ys with
  | nil => exact fun _ h => .inl h
  | cons y r ih =>
    intro seen h
    rcases ih _ h with h | h
    · dsimp only at h
      split at h
      · exact .inl h
      · rcases List.mem_append.1 h with h | h
        · exact .inl h
        · exact .inr (List.mem_singleton.1 h ▸ List.mem_cons_self)
    · exact .inr (List.mem_cons_of_mem _ h)

theorem mem_text_iff {s : String} {xs : List Value} : mem (.text s) xs = true ↔ .text s ∈ xs := by
  simp [mem]

/-- No text is lost. -/
theorem text_mem_distinct {s : String} {xs : List Value} (h : .text s ∈ xs) :
    .text s ∈ distinct xs := by
  suffices ∀ (ys seen : List Value), .text s ∈ seen ∨ .text s ∈ ys →
      .text s ∈ ys.foldl (fun seen w => if mem w seen then seen else seen ++ [w]) seen from
    this xs [] (.inr h)
  intro ys
  induction ys with
  | nil => exact fun _ h => h.resolve_right List.not_mem_nil
  | cons y r ih =>
    intro seen h
    refine ih _ ?_
    rcases h with h | h
    · refine .inl ?_
      dsimp only
      split
      · exact h
      · exact List.mem_append_left _ h
    · rcases List.mem_cons.1 h with rfl | h
      · refine .inl ?_
        dsimp only
        split
        · rename_i hmem
          exact mem_text_iff.1 hmem
        · exact List.mem_append_right _ (List.mem_singleton.2 rfl)
      · exact .inr h

/-- A text is in the list of each value once exactly if it is in the list. -/
theorem mem_text_distinct (s : String) (xs : List Value) :
    mem (.text s) (distinct xs) = mem (.text s) xs := by
  rw [Bool.eq_iff_iff, mem_text_iff, mem_text_iff]
  exact ⟨distinct_subset, text_mem_distinct⟩

/-- The members of a table, if the value is one. -/
def entries? : Value → Option (List (String × Value))
  | .dict es => some es
  | _ => none

end Value

end BlockStorage
